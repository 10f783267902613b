import TileAdventure.Proofs.Acting.Conservation
import TileAdventure.Proofs.Acting.Contact

/-!
# Encounters that stand from the start

Where no action redirects the avatar or gives a tile another sprite, acting leaves the target
and every tile as they are, up to marks for removal (`Scene.Stands`), whatever else it does.
So an encounter that succeeds can be read off the scene in which it starts: the avatar meets
the tiles that stand on the target's cell, each in the role of its sprite
(`Setting.meetCell_of_steady`).
-/

namespace TileAdventure

/-- Neither the action nor any action in it redirects the avatar or gives its tile another
sprite. -/
structure Action.Steady (a : Action) : Prop where
  redirects (room : Nat) (x y : Int) : ¬a.Contains (.moveAvatar room x y)
  transforms (name : String) : ¬a.Contains (.transformSelf name)

namespace Catalogue

variable {sprites : Catalogue}

/-- No action of a behavior, at any depth, redirects the avatar. -/
def NeverRedirects (sprites : Catalogue) : Prop :=
  ∀ s ∈ sprites.sprites, ∀ b ∈ s.behaviors, ∀ a ∈ b.actions, ∀ room x y,
    ¬a.Contains (.moveAvatar room x y)

theorem admits_steady (hredirect : sprites.NeverRedirects)
    (htransform : sprites.NeverTransforms) : sprites.Admits Action.Steady where
  conditional ha _ hmem :=
    ⟨fun room x y h => ha.redirects room x y (.conditional hmem h),
      fun name h => ha.transforms name (.conditional hmem h)⟩
  sequence ha _ hmem :=
    ⟨fun room x y h => ha.redirects room x y (.sequence hmem h),
      fun name h => ha.transforms name (.sequence hmem h)⟩
  behavior hs hb a ha :=
    have hsprite := List.mem_of_find?_eq_some hs
    have hbehavior := List.mem_of_find?_eq_some hb
    ⟨hredirect _ hsprite _ hbehavior a ha, htransform _ hsprite _ hbehavior a ha⟩

end Catalogue

/-! ## What stands -/

/-- The tile without its mark for removal. -/
def Tile.unmarked (t : Tile) : Tile :=
  { t with removed := false }

/-- The target is the same, and so are all tiles at their positions, up to marks. -/
structure Scene.Stands (s t : Scene) : Prop where
  target : t.target = s.target
  tiles (room position : Nat) :
    (t.tileAt? room position).map Tile.unmarked = (s.tileAt? room position).map Tile.unmarked

namespace Scene

variable {setting : Setting} {s t : Scene}

theorem stands_markAt (s : Scene) (i j : Nat) : s.Stands (s.markAt i j) where
  target := rfl
  tiles room position := by
    rw [markAt, tileAt?_modifyAt, Option.map_map]
    congr 1
    funext a
    dsimp only [Function.comp_apply]
    split <;> rfl

theorem Change.stands (h : Change setting Action.Steady s t) : s.Stands t := by
  cases h with
  | transform tile hsteady => exact (hsteady.transforms _ (.self _)).elim
  | redirect hsteady => exact (hsteady.redirects _ _ _ (.self _)).elim
  | markAt i j => exact stands_markAt s i j
  | _ => exact ⟨rfl, fun _ _ => rfl⟩

/-- Steady actions leave the target and the tiles as they are, up to marks. -/
theorem Changes.stands (h : Changes setting Action.Steady s t) : s.Stands t := by
  induction h with
  | refl => exact ⟨rfl, fun _ _ => rfl⟩
  | tail _ hstep ih =>
    exact ⟨hstep.stands.target.trans ih.target, fun room position =>
      (hstep.stands.tiles room position).trans (ih.tiles room position)⟩

end Scene

/-! ## Roles on a cell -/

/-- The tiles on a cell, in order. -/
def Rooms.tilesOn (rooms : Rooms) (l : Location) : List Tile :=
  (rooms[l.room]?.map fun r => r.tiles.filter fun t => t.x = l.x && t.y = l.y).getD []

/-- The sprite in whose role a tile is met by an avatar that is about to go to a cell. -/
def Catalogue.roleAt? (sprites : Catalogue) (l : Location) (tile : Tile) : Option Sprite :=
  if tile.x = l.x && tile.y = l.y then sprites.role? tile else none

/-- The role of a tile has nothing to do with its mark. -/
theorem Catalogue.bind_roleAt?_unmarked (sprites : Catalogue) (l : Location)
    (tile? : Option Tile) :
    (tile?.map Tile.unmarked).bind (sprites.roleAt? l) = tile?.bind (sprites.roleAt? l) := by
  cases tile? <;> rfl

/-- The sprites in whose roles the tiles on a cell are met, in order. -/
def Catalogue.rolesOn (sprites : Catalogue) (rooms : Rooms) (l : Location) : List Sprite :=
  (rooms.tilesOn l).filterMap sprites.role?

/-- What is met if each of the sprites is met in its role. -/
def Encounter.ofRoles (pushing : Bool) (roles : List Sprite) : Encounter where
  passable := roles.all (!·.isWall)
  pickedUp := (roles.filter (·.isItem)).map Sprite.name
  pushed := if pushing then roles.countP fun s => (s.behavior? Behavior.pushEvent).isSome else 0

theorem filterMap_range_bind {α β : Type} (xs : List α) (f : α → Option β) :
    ((List.range xs.length).filterMap fun i => xs[i]?.bind f) = xs.filterMap f := by
  have hpositions := Setting.filterMap_range_getElem? xs id
  rw [List.map_id] at hpositions
  conv_rhs => rw [← hpositions]
  rw [List.filterMap_filterMap]
  simp

namespace Setting

variable {setting : Setting} {avatarCell : Int × Int} {scene now after : Scene}
  {position : Nat} {met : Encounter}

theorem meetUpTo_ok_of_le {n : Nat}
    (h : setting.meetUpTo avatarCell scene n = (.ok met, after)) (hle : position ≤ n) :
    ∃ met' now, setting.meetUpTo avatarCell scene position = (.ok met', now) := by
  induction n, hle using Nat.le_induction generalizing met after with
  | base => exact ⟨met, after, h⟩
  | succ n _ ih =>
    obtain ⟨met', now, hprev⟩ := meetUpTo_ok_of_succ h
    exact ih hprev

theorem stands_meetUpTo (hsteady : setting.sprites.Admits Action.Steady)
    (avatarCell : Int × Int) (scene : Scene) (position : Nat) :
    scene.Stands (setting.meetUpTo avatarCell scene position).2 :=
  (changes_meetTiles hsteady avatarCell scene.target.room (List.range position) .nothing
    scene).stands

theorem sprite_contact? (now : Scene) (tile : Tile) :
    (setting.contact? now tile).map Contact.sprite =
      setting.sprites.roleAt? now.target tile := by
  unfold contact? Catalogue.roleAt? Scene.isOnTarget
  split
  · rw [Option.map_map]
    exact Option.map_id'
  · rfl

/-- A tile is met in the role that it had at the start. -/
theorem sprite_contactAt?_of_steady (hsteady : setting.sprites.Admits Action.Steady)
    (h : setting.meetUpTo avatarCell scene position = (.ok met, now)) :
    (setting.contactAt? avatarCell scene position).map Contact.sprite =
      (scene.tileAt? scene.target.room position).bind
        (setting.sprites.roleAt? scene.target) := by
  have hstands := stands_meetUpTo hsteady avatarCell scene position
  rw [h] at hstands
  calc (setting.contactAt? avatarCell scene position).map Contact.sprite
      = (now.tileAt? scene.target.room position).bind
          (setting.sprites.roleAt? now.target) := by
        rw [contactAt?_eq h, Option.map_bind]
        exact Option.bind_congr fun tile _ => sprite_contact? now tile
    _ = ((now.tileAt? scene.target.room position).map Tile.unmarked).bind
          (setting.sprites.roleAt? scene.target) := by
        rw [Catalogue.bind_roleAt?_unmarked, hstands.target]
    _ = (scene.tileAt? scene.target.room position).bind
          (setting.sprites.roleAt? scene.target) := by
        rw [hstands.tiles, Catalogue.bind_roleAt?_unmarked]

theorem target_of_contact (hsteady : setting.sprites.Admits Action.Steady) {c : Contact}
    (hc : c ∈ setting.contacts avatarCell scene) : c.scene.target = scene.target := by
  unfold contacts contactsUpTo at hc
  split at hc
  · cases hc
  obtain ⟨position, -, hc⟩ := List.mem_filterMap.mp hc
  obtain ⟨⟨met, hmeet⟩, -⟩ := contactAt?_eq_some hc
  have hstands := stands_meetUpTo hsteady avatarCell scene position
  rw [hmeet] at hstands
  exact hstands.target

theorem isPushed_of_steady (hsteady : setting.sprites.Admits Action.Steady) {c : Contact}
    (hc : c ∈ setting.contacts avatarCell scene) :
    c.isPushed avatarCell = (!scene.targetIs avatarCell &&
      (c.sprite.behavior? Behavior.pushEvent).isSome) := by
  unfold Contact.isPushed Scene.targetIs
  rw [target_of_contact hsteady hc]

/-- The contacts are in the roles that were there at the start. -/
theorem sprite_contacts_of_steady (hsteady : setting.sprites.Admits Action.Steady)
    (h : setting.meetCell avatarCell scene = (.ok met, after)) :
    (setting.contacts avatarCell scene).map Contact.sprite =
      setting.sprites.rolesOn scene.rooms scene.target := by
  rcases hr : scene.rooms[scene.target.room]? with _ | r
  · simp [meetCell, hr] at h
  rw [meetCell_eq_meetUpTo hr] at h
  have hroles : ∀ position ∈ List.range r.tiles.length,
      (setting.contactAt? avatarCell scene position).map Contact.sprite =
        r.tiles[position]?.bind (setting.sprites.roleAt? scene.target) := by
    intro position hposition
    obtain ⟨met', now, hprev⟩ := meetUpTo_ok_of_le h (List.mem_range.mp hposition).le
    rw [sprite_contactAt?_of_steady hsteady hprev, Scene.tileAt?, hr]
    rfl
  simp only [contacts, hr, contactsUpTo, List.map_filterMap]
  rw [List.filterMap_congr hroles, filterMap_range_bind, Catalogue.rolesOn, Rooms.tilesOn, hr]
  simp only [Option.map_some, Option.getD_some, List.filterMap_filter]
  rfl

/-- Where no action redirects the avatar or gives a tile another sprite, an encounter is that
with the tiles that stand on the cell at the start, whatever their pushes do, and the avatar
remains about to go to that cell. -/
theorem meetCell_of_steady (hsteady : setting.sprites.Admits Action.Steady)
    (h : setting.meetCell avatarCell scene = (.ok met, after)) :
    met = .ofRoles (!scene.targetIs avatarCell)
        (setting.sprites.rolesOn scene.rooms scene.target) ∧
      after.target = scene.target := by
  have hroles := sprite_contacts_of_steady hsteady h
  have hpushed : (setting.contacts avatarCell scene).countP (·.isPushed avatarCell) =
      if !scene.targetIs avatarCell then
        (setting.sprites.rolesOn scene.rooms scene.target).countP fun s =>
          (s.behavior? Behavior.pushEvent).isSome
      else 0 := by
    rw [List.countP_congr fun c hc => by rw [isPushed_of_steady hsteady hc], ← hroles,
      List.countP_map]
    cases scene.targetIs avatarCell
    · rfl
    · simp
  refine ⟨?_, ?_⟩
  · rw [tally_meetCell h, Encounter.tally, Encounter.ofRoles, hpushed, ← hroles]
    simp [Encounter.nothing, List.filter_map, Function.comp_def]
  · have hchanges := changes_meetCell hsteady avatarCell scene
    rw [h] at hchanges
    exact hchanges.stands.target

end Setting

end TileAdventure
