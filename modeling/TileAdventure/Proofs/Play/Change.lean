import TileAdventure.Play.Game
import TileAdventure.Proofs.Acting.Frame
import TileAdventure.Proofs.Outcome

/-!
# Changes of a game

An evaluation changes a game by turning the avatar, by acting in a scene, by sweeping the
tiles that are to go and by occupying a cell (`Game.Change`). Rooms are entered and cells
occupied as a whole (`enterRoom_eq_ok`, `occupy_eq_ok`), so these are all the changes there
are, also in an evaluation that fails later on.
-/

namespace TileAdventure

open Relation

namespace Game

/-- What actions read in a game, under a palette. -/
def setting (g : Game) (palette : Palette) (limit : Nat) : Setting :=
  ⟨g.world.dimensions, g.world.sprites, palette, limit⟩

theorem inScene_of_palette {α : Type} {g : Game} {palette : Palette}
    (h : g.palette? = .ok palette) (limit : Nat) (target : Location)
    (attempt : Setting → Scene → Attempt α) :
    g.inScene limit target attempt =
      ((attempt (g.setting palette limit) (g.scene target)).1,
        (attempt (g.setting palette limit) (g.scene target)).2.target,
        g.absorb (attempt (g.setting palette limit) (g.scene target)).2) := by
  rw [inScene, h]
  rfl

theorem inScene_of_failure {α : Type} {g : Game} {f : Failure} (h : g.palette? = .error f)
    (limit : Nat) (target : Location) (attempt : Setting → Scene → Attempt α) :
    g.inScene limit target attempt = (.error (.failed f), target, g) := by
  rw [inScene, h]

/-! ## Rooms and cells -/

theorem room?_eq_ok {g : Game} {room : Nat} {r : Room} (h : g.room? room = .ok r) :
    g.world.rooms[room]? = some r := by
  unfold room? at h
  split at h
  · rename_i heq
    cases h
    exact heq
  · cases h

/-- A room that is entered exists and has a palette, and entering it changes the number of
the room, the index of the palette, and the log. -/
theorem enterRoom_eq_ok {g g' : Game} {avatarName : String} {room : Nat}
    (h : g.enterRoom avatarName room = .ok g') :
    ∃ r palette index avatar sprites, g.world.rooms[room]? = some r ∧
      g.world.palette? r.palette = some (palette, index) ∧
      g.sprite? avatarName = .ok avatar ∧ g.sprites? r.tiles = .ok sprites ∧
      g' = { g.tell (entryNotices sprites avatar palette) with
        state := { g.state with room := room, palette := index } } := by
  unfold enterRoom at h
  obtain ⟨r, hr, h⟩ := bind_eq_ok.mp h
  split at h
  · cases h
  · rename_i palette index hp
    obtain ⟨avatar, ha, h⟩ := bind_eq_ok.mp h
    obtain ⟨sprites, hs, h⟩ := bind_eq_ok.mp h
    cases h
    exact ⟨r, palette, index, avatar, sprites, room?_eq_ok hr, hp, ha, hs, rfl⟩

/-- A cell that is occupied lies in the grid, and its room is entered if it is another. -/
theorem occupy_eq_ok {g g' : Game} {avatarName : String} {target : Location} {entered : Bool}
    (h : g.occupy avatarName target = .ok (entered, g')) :
    g.world.dimensions.containsCell target.x target.y = true ∧
      (entered = true ↔ target.room ≠ g.state.room) ∧
      ∃ middle, (target.room = g.state.room ∧ middle = g ∨
          g.enterRoom avatarName target.room = .ok middle) ∧
        g' = { middle with state := { middle.state with
          avatar := { middle.state.avatar with x := target.x, y := target.y } } } := by
  unfold occupy at h
  split at h
  · cases h
  · rename_i hcell
    dsimp only at h
    split at h
    · rename_i hroom
      obtain ⟨middle, hm, h⟩ := bind_eq_ok.mp h
      cases h
      exact ⟨by simpa using hcell, by simp [hroom], middle, Or.inr hm, rfl⟩
    · rename_i hroom
      cases h
      exact ⟨by simpa using hcell, by simp, g, Or.inl ⟨not_not.mp hroom, rfl⟩, rfl⟩

/-! ## Changes -/

/-- One change of a game in the course of an evaluation. -/
inductive Change (limit : Nat) (allowed : Action → Prop) (avatarName : String) :
    Game → Game → Prop
  | turn (g : Game) (facing : Facing) : Change limit allowed avatarName g
      { g with state := { g.state with avatar := { g.state.avatar with facing } } }
  | act {g : Game} {palette : Palette} {target : Location} {scene : Scene} :
      g.palette? = .ok palette →
      Scene.Changes (g.setting palette limit) allowed (g.scene target) scene →
      Change limit allowed avatarName g (g.absorb scene)
  | sweep (g : Game) : Change limit allowed avatarName g g.sweep
  | occupy {g g' : Game} {target : Location} {entered : Bool} :
      g.occupy avatarName target = .ok (entered, g') → Change limit allowed avatarName g g'

/-- Changes of a game one after another. -/
abbrev Changes (limit : Nat) (allowed : Action → Prop) (avatarName : String) :
    Game → Game → Prop :=
  ReflTransGen (Change limit allowed avatarName)

variable {limit : Nat} {allowed : Action → Prop} {avatarName : String} {g g' : Game}

/-- Of the world, changes touch the rooms only. -/
theorem Change.world (h : Change limit allowed avatarName g g') :
    g'.world = { g.world with rooms := g'.world.rooms } := by
  cases h with
  | turn | act | sweep => rfl
  | occupy hocc =>
    obtain ⟨-, -, middle, hm, rfl⟩ := occupy_eq_ok hocc
    rcases hm with ⟨-, rfl⟩ | hm
    · rfl
    · obtain ⟨r, palette, index, avatar, sprites, -, -, -, -, rfl⟩ := enterRoom_eq_ok hm
      rfl

theorem Changes.world (h : Changes limit allowed avatarName g g') :
    g'.world = { g.world with rooms := g'.world.rooms } :=
  keeps_of_step (I := fun g' => g'.world = { g.world with rooms := g'.world.rooms })
    (fun hstep ih => by rw [hstep.world, ih]) h rfl

/-! ## The gate -/

theorem mute_entryNotices (sprites : List Sprite) (avatar : Sprite) (palette : Palette) :
    ∀ notice ∈ entryNotices sprites avatar palette, notice.IsMute := by
  intro notice hnotice
  simp only [entryNotices, List.cons_append, List.mem_cons, List.mem_append, List.mem_map,
    List.not_mem_nil, or_false] at hnotice
  rcases hnotice with rfl | ⟨_, -, rfl⟩ | rfl | rfl <;> exact ⟨rfl, rfl⟩

/-- To occupy a cell leaves world and gate as they are and the stage quiet. -/
theorem occupy_fixed {target : Location} {entered : Bool}
    (h : g.occupy avatarName target = .ok (entered, g')) :
    g'.world = g.world ∧ g'.state.gate = g.state.gate ∧ g.stage.Quiet g'.stage := by
  obtain ⟨-, -, middle, hm, rfl⟩ := occupy_eq_ok h
  rcases hm with ⟨-, rfl⟩ | hm
  · exact ⟨rfl, rfl, .refl _⟩
  · obtain ⟨_, palette, _, avatar, sprites, -, -, -, -, rfl⟩ := enterRoom_eq_ok hm
    exact ⟨rfl, rfl, _, mute_entryNotices sprites avatar palette, rfl⟩

theorem Change.opening (h : Change limit allowed avatarName g g') :
    Stage.Opening g.state.gate.showing g.stage g'.stage g'.state.gate.showing := by
  cases h with
  | turn | sweep => exact .refl _ _
  | act _ hscene => exact Scene.Changes.opening hscene
  | occupy hocc =>
    obtain ⟨-, hgate, hquiet⟩ := occupy_fixed hocc
    exact hgate ▸ .quiet _ hquiet

/-- Changes begin at most one dialog, and end none. -/
theorem Changes.opening (h : Changes limit allowed avatarName g g') :
    Stage.Opening g.state.gate.showing g.stage g'.stage g'.state.gate.showing := by
  induction h with
  | refl => exact .refl _ _
  | tail _ hstep ih => exact ih.trans hstep.opening

theorem Change.queue (h : Change limit allowed avatarName g g')
    (hg' : g'.state.gate.showing = false) :
    g.state.gate.showing = false ∧ g'.state.gate.queue = g.state.gate.queue := by
  cases h with
  | turn | sweep => exact ⟨hg', rfl⟩
  | act _ hscene => exact Scene.Changes.queue hscene hg'
  | occupy hocc =>
    obtain ⟨-, hgate, -⟩ := occupy_fixed hocc
    rw [hgate] at hg' ⊢
    exact ⟨hg', rfl⟩

/-- As long as no dialog has begun, the queue stays as it is. -/
theorem Changes.queue (h : Changes limit allowed avatarName g g')
    (hg' : g'.state.gate.showing = false) :
    g.state.gate.showing = false ∧ g'.state.gate.queue = g.state.gate.queue := by
  induction h with
  | refl => exact ⟨hg', rfl⟩
  | tail _ hstep ih =>
    obtain ⟨hm, hqueue⟩ := hstep.queue hg'
    exact ⟨(ih hm).1, hqueue.trans (ih hm).2⟩

/-! ## Drawing -/

theorem tell_tell (g : Game) (notices more : List Notice) :
    (g.tell notices).tell more = g.tell (notices ++ more) := by
  simp [tell, Stage.tell]

theorem sprite?_eq_ok {g : Game} {name : String} {sprite : Sprite} :
    g.sprite? name = .ok sprite ↔ g.world.sprites.find? name = some sprite := by
  unfold sprite?
  cases g.world.sprites.find? name <;> simp

/-- The sprites of tiles are at hand if each tile has its own. -/
theorem sprites?_eq_ok {g : Game} {tiles : List Tile} {sprites : List Sprite} :
    g.sprites? tiles = .ok sprites ↔
      tiles.map (g.world.sprites.find? ·.sprite) = sprites.map some := by
  induction tiles generalizing sprites with
  | nil => cases sprites <;> simp [sprites?]
  | cons tile tiles ih =>
    rw [sprites?, bind_eq_ok, List.map_cons]
    constructor
    · rintro ⟨sprite, hsprite, h⟩
      obtain ⟨rest, hrest, h⟩ := bind_eq_ok.mp h
      cases h
      rw [sprite?_eq_ok.mp hsprite, ih.mp hrest, List.map_cons]
    · intro h
      cases sprites with
      | nil => cases h
      | cons sprite rest =>
        obtain ⟨hsprite, hrest⟩ := List.cons.inj h
        exact ⟨sprite, sprite?_eq_ok.mpr hsprite, bind_eq_ok.mpr ⟨rest, ih.mpr hrest, rfl⟩⟩

/-- A notice that draws a tile of the current room or the avatar. -/
def Depicts (g : Game) (avatarName : String) : Notice → Prop
  | .drawTile sprite _ _ _ => ∃ r, g.world.rooms[g.state.room]? = some r ∧
      ∃ tile ∈ r.tiles, g.world.sprites.find? tile.sprite = some sprite
  | .drawAvatar sprite _ _ _ _ => g.world.sprites.find? avatarName = some sprite
  | _ => False

theorem drawTiles_eq_tell (g : Game) (frame : Nat) (tiles : List Tile) :
    ∃ parts : List Notice, (∀ part ∈ parts, ∃ tile ∈ tiles, ∃ sprite,
        g.world.sprites.find? tile.sprite = some sprite ∧
        part = .drawTile sprite (sprite.frameAt frame) tile.x tile.y) ∧
      (g.drawTiles frame tiles).2 = g.tell parts := by
  have hnone : g = g.tell [] := by simp [tell, Stage.tell]
  induction tiles generalizing g with
  | nil => exact ⟨[], by simp, hnone⟩
  | cons tile tiles ih =>
    rw [drawTiles]
    split
    · exact ⟨[], by simp, hnone⟩
    · rename_i sprite hsprite
      have hfind := sprite?_eq_ok.mp hsprite
      split
      · obtain ⟨parts, hparts, heq⟩ := ih g hnone
        refine ⟨parts, fun part hpart => ?_, heq⟩
        obtain ⟨t, ht, hdraws⟩ := hparts part hpart
        exact ⟨t, List.mem_cons_of_mem _ ht, hdraws⟩
      · let picture : Notice := .drawTile sprite (sprite.frameAt frame) tile.x tile.y
        obtain ⟨parts, hparts, heq⟩ :=
          ih (g.tell [picture]) (by simp [tell, Stage.tell])
        refine ⟨picture :: parts, fun part hpart => ?_, by rw [heq, tell_tell]; rfl⟩
        rcases List.mem_cons.mp hpart with rfl | hpart
        · exact ⟨tile, List.mem_cons_self, sprite, hfind, rfl⟩
        · obtain ⟨t, ht, hdraws⟩ := hparts part hpart
          exact ⟨t, List.mem_cons_of_mem _ ht, hdraws⟩

/-- Drawing does nothing, or logs the background in the current palette and then tiles of the
room and the avatar. -/
theorem draw_parts (g : Game) (avatarName : String) (frame : Nat) :
    ∃ notices, (notices = [] ∨ ∃ palette parts, g.palette? = .ok palette ∧
        notices = .drawBackground palette :: parts ∧ ∀ part ∈ parts, g.Depicts avatarName part) ∧
      (g.draw avatarName frame).2 = g.tell notices := by
  have hnone : g = g.tell [] := by simp [tell, Stage.tell]
  unfold draw
  split
  · exact ⟨[], Or.inl rfl, hnone⟩
  · exact ⟨[], Or.inl rfl, hnone⟩
  · rename_i palette room hp hroom
    obtain ⟨parts, hparts, heq⟩ :=
      (g.tell [.drawBackground palette]).drawTiles_eq_tell frame room.tiles
    have hdepicts : ∀ part ∈ parts, g.Depicts avatarName part := by
      intro part hpart
      obtain ⟨tile, ht, sprite, hfind, rfl⟩ := hparts part hpart
      exact ⟨room, room?_eq_ok hroom, tile, ht, hfind⟩
    rw [tell_tell] at heq
    generalize drawTiles (g.tell [.drawBackground palette]) frame room.tiles = drawn at heq ⊢
    obtain ⟨f | _, drawn⟩ := drawn
    · exact ⟨_, Or.inr ⟨palette, parts, hp, rfl, hdepicts⟩, heq⟩
    · obtain rfl := heq
      dsimp only
      split
      · exact ⟨_, Or.inr ⟨palette, parts, hp, rfl, hdepicts⟩, rfl⟩
      · rename_i avatar havatar
        refine ⟨_, Or.inr ⟨palette, parts ++ [_], hp, rfl, fun part hpart => ?_⟩, tell_tell ..⟩
        rcases List.mem_append.mp hpart with hpart | hpart
        · exact hdepicts part hpart
        · obtain rfl := List.mem_singleton.mp hpart
          exact sprite?_eq_ok.mp havatar

/-- Drawing does nothing but log pictures. -/
theorem draw_eq_tell (g : Game) (avatarName : String) (frame : Nat) :
    ∃ notices : List Notice, (∀ notice ∈ notices, notice.IsMute) ∧
      (g.draw avatarName frame).2 = g.tell notices := by
  obtain ⟨notices, hnotices, heq⟩ := g.draw_parts avatarName frame
  refine ⟨notices, fun notice hnotice => ?_, heq⟩
  rcases hnotices with rfl | ⟨palette, parts, -, rfl, hparts⟩
  · cases hnotice
  · rcases List.mem_cons.mp hnotice with rfl | hpart
    · exact ⟨rfl, rfl⟩
    · have hdepicts := hparts notice hpart
      cases notice with
      | drawTile | drawAvatar => exact ⟨rfl, rfl⟩
      | _ => exact hdepicts.elim

theorem quiet_draw (g : Game) (avatarName : String) (frame : Nat) :
    g.stage.Quiet (g.draw avatarName frame).2.stage := by
  obtain ⟨notices, hmute, heq⟩ := g.draw_eq_tell avatarName frame
  exact ⟨notices, hmute, by rw [heq, tell]⟩

end Game

end TileAdventure
