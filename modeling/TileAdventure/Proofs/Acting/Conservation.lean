import TileAdventure.Proofs.Acting.Bookmarks
import TileAdventure.Proofs.Acting.Effect
import TileAdventure.Proofs.Acting.PickUp

/-!
# What acting conserves

Whatever acting does and however it ends, it conserves most of a scene (`Scene.Conserves`):
rooms keep their palettes and their tiles, on their cells and in order, marks for removal
stay, a tile gains another sprite only from a dispatch that gives it one, and what is new
in the inventory or among the bookmarks stands beside what was there. `Setting.conserves_acting`
says so of performing an action, of resuming one, and of an encounter, and it says what
follows for those that go by where tiles were at the start: neither a broadcast nor an
encounter misses a tile on its way.
-/

namespace TileAdventure

/-! ## Tiles at their positions -/

/-- A change of a tile shows at its position and nowhere else. -/
theorem Scene.tileAt?_modifyAt (s : Scene) (i j : Nat) (f : Tile → Tile) (room position : Nat) :
    tileAt? { s with rooms := s.rooms.modifyAt i j f } room position =
      (s.tileAt? room position).map fun t => if i = room ∧ j = position then f t else t := by
  unfold tileAt?
  rw [Rooms.getElem?_modifyAt]
  cases s.rooms[room]? with
  | none => rfl
  | some r =>
    by_cases hroom : i = room
    · simp [hroom, Room.getElem?_tiles_modifyAt]
    · simp [hroom]

/-- A tile that is changed by its address is the one with this id. -/
theorem Scene.tileAt?_modifyTile {s : Scene} {room position : Nat} {a : Tile}
    (ha : s.tileAt? room position = some a) (address : TileAddress) (f : Tile → Tile) :
    (s.modifyTile address f).tileAt? room position = some a ∨
      address = ⟨room, a.id⟩ ∧ (s.modifyTile address f).tileAt? room position = some (f a) := by
  obtain ⟨j, heq, hid⟩ := s.rooms.exists_modifyTile_eq address f
  rw [modifyTile, heq, tileAt?_modifyAt, ha, Option.map_some]
  split
  · rename_i hat
    obtain ⟨rfl, rfl⟩ := hat
    obtain ⟨r, hr, ht⟩ := Option.bind_eq_some_iff.mp ha
    exact Or.inr ⟨by rw [hid r a hr ht], rfl⟩
  · exact Or.inl rfl

/-- The dispatch gives a tile another sprite. -/
def Dispatch.Transforms (x : Dispatch) (tile : TileAddress) (sprite : String) : Prop :=
  x.held = false ∧ x.action.tile = tile ∧ x.action.action = .transformSelf sprite

/-- The tile `a` of a room is `b` after acting with these dispatches: it has its id and its
mark, and if it has another sprite, a dispatch has given it that one. -/
structure Tile.Becomes (sprites : Catalogue) (ds : List Dispatch) (room : Nat) (a b : Tile) :
    Prop where
  id : b.id = a.id
  marked : a.removed = true → b.removed = true
  sprite : b.sprite ≠ a.sprite → (sprites.find? b.sprite).isSome ∧
    ∃ x ∈ ds, x.Transforms ⟨room, a.id⟩ b.sprite

namespace Tile.Becomes

variable {sprites : Catalogue} {ds more : List Dispatch} {room : Nat} {a b c : Tile}

theorem refl (a : Tile) : a.Becomes sprites ds room a :=
  ⟨rfl, fun h => h, fun h => (h rfl).elim⟩

theorem trans (h : a.Becomes sprites ds room b) (h' : b.Becomes sprites more room c) :
    a.Becomes sprites (ds ++ more) room c where
  id := h'.id.trans h.id
  marked ha := h'.marked (h.marked ha)
  sprite hne := by
    by_cases hlast : c.sprite = b.sprite
    · rw [hlast] at hne ⊢
      obtain ⟨hknown, x, hx, htransforms⟩ := h.sprite hne
      exact ⟨hknown, x, List.mem_append_left _ hx, htransforms⟩
    · obtain ⟨hknown, x, hx, htransforms⟩ := h'.sprite hlast
      rw [h.id] at htransforms
      exact ⟨hknown, x, List.mem_append_right _ hx, htransforms⟩

end Tile.Becomes

namespace Scene

variable {setting : Setting} {s t : Scene} {ds : List Dispatch} {room position : Nat}
  {a : Tile}

theorem exists_becomes_markAt (ha : s.tileAt? room position = some a) (i j : Nat) :
    ∃ b, (s.markAt i j).tileAt? room position = some b ∧
      a.Becomes setting.sprites ds room b := by
  refine ⟨_, (tileAt?_modifyAt ..).trans (by rw [ha, Option.map_some]), ?_⟩
  split
  · exact ⟨rfl, fun _ => rfl, fun h => (h rfl).elim⟩
  · exact .refl a

theorem Effect.exists_becomes (h : s.Effect setting ds t)
    (ha : s.tileAt? room position = some a) :
    ∃ b, t.tileAt? room position = some b ∧ a.Becomes setting.sprites ds room b := by
  cases h with
  | defer | comeUp | currentIndex | advance => exact ⟨a, ha, .refl a⟩
  | pickUp sprite i j => exact exists_becomes_markAt (s := s.addItem sprite.name 1) ha i j
  | @does _ _ _ tile path hs hdoes =>
    cases hdoes with
    | dialog | giveItem | moveAvatar => exact ⟨a, ha, .refl a⟩
    | removeSelf =>
      obtain ⟨j, hmark⟩ := s.exists_markRemoved_eq tile
      exact hmark ▸ exists_becomes_markAt ha tile.room j
    | @transformSelf name sprite _ hfind =>
      have hname : sprite.name = name := by simpa using List.find?_some hfind
      rcases tileAt?_modifyTile ha tile fun t => { t with sprite := sprite.name } with
        hsame | ⟨rfl, hchanged⟩
      · exact ⟨a, hsame, .refl a⟩
      · refine ⟨_, hchanged, rfl, fun hmark => hmark, fun _ =>
          ⟨?_, _, List.mem_singleton_self _, hs, rfl, ?_⟩⟩
        · rw [Catalogue.find?_name hfind]
          rfl
        · rw [hname]
          rfl

/-- Each tile stays at its position, with what its effects have made of it. -/
theorem Effects.exists_becomes (h : s.Effects setting ds t)
    (ha : s.tileAt? room position = some a) :
    ∃ b, t.tileAt? room position = some b ∧ a.Becomes setting.sprites ds room b := by
  induction h with
  | refl => exact ⟨a, ha, .refl a⟩
  | tail _ hstep ih =>
    obtain ⟨b, hb, hab⟩ := ih
    obtain ⟨c, hc, hbc⟩ := hstep.exists_becomes hb
    exact ⟨c, hc, hab.trans hbc⟩

end Scene

/-! ## Inventories and bookmarks -/

/-- The items that have an entry. -/
def Inventory.items (inv : Inventory) : List String :=
  inv.counts.map Prod.fst

theorem Inventory.mem_names_put {item name : String} {n : Nat} {entries : List (String × Nat)} :
    name ∈ (put item n entries).map Prod.fst ↔
      name = item ∨ name ∈ entries.map Prod.fst := by
  fun_induction put item n entries <;> grind

theorem Inventory.mem_items_add {inv : Inventory} {item name : String} {change : Int} :
    name ∈ (inv.add item change).items ↔ name = item ∨ name ∈ inv.items :=
  mem_names_put

namespace Bookmarks

variable {γ : Type} [Random.Source γ] {marks : Bookmarks} {key other : SequenceKey}

/-- A lookup takes no bookmark away. -/
theorem get?_current_ne_none {form : SequenceForm} {source : γ}
    (h : marks.get? other ≠ none) :
    (marks.current key form source).2.1.get? other ≠ none := by
  rcases hcurrent : marks.current key form source with ⟨r, marks', source'⟩
  by_cases hkey : other = key
  · subst hkey
    by_cases hlength : form.length = 0
    · rwa [(current_of_empty hcurrent hlength).2]
    · obtain ⟨mark, hmark, -⟩ := current_of_actions hcurrent hlength
      simp [hmark]
  · rwa [get?_current hcurrent hkey]

/-- Moving on takes no bookmark away. -/
theorem get?_advance_ne_none {form : SequenceForm} {source : γ}
    (h : marks.get? other ≠ none) :
    (marks.advance key form source).1.get? other ≠ none := by
  by_cases hkey : other = key
  · subst hkey
    obtain ⟨mark, hmark⟩ := Option.ne_none_iff_exists'.mp h
    obtain ⟨mark', hmark', -⟩ := moves_advance form source hmark
    simp [hmark']
  · rwa [get?_advance hkey]

end Bookmarks

namespace Scene

variable {setting : Setting} {allowed : Action → Prop} {s t : Scene}

theorem Change.items (h : Change setting allowed s t) {item : String}
    (ht : item ∈ t.inventory.items) :
    item ∈ s.inventory.items ∨ (setting.sprites.find? item).isSome := by
  cases h with
  | addItem _ hknown =>
    rcases Inventory.mem_items_add.mp ht with rfl | hs
    · exact Or.inr hknown
    · exact Or.inl hs
  | _ => exact Or.inl ht

/-- An item that is new in the inventory is the name of a sprite. -/
theorem Changes.items (h : Changes setting allowed s t) {item : String}
    (ht : item ∈ t.inventory.items) :
    item ∈ s.inventory.items ∨ (setting.sprites.find? item).isSome := by
  induction h with
  | refl => exact Or.inl ht
  | tail _ hstep ih => exact (hstep.items ht).elim ih Or.inr

theorem Change.bookmarks (h : Change setting allowed s t) {key : SequenceKey}
    (hs : s.bookmarks.get? key ≠ none) : t.bookmarks.get? key ≠ none := by
  cases h with
  | currentIndex => exact Bookmarks.get?_current_ne_none hs
  | advance => exact Bookmarks.get?_advance_ne_none hs
  | _ => exact hs

/-- Acting takes no bookmark away. -/
theorem Changes.bookmarks (h : Changes setting allowed s t) {key : SequenceKey}
    (hs : s.bookmarks.get? key ≠ none) : t.bookmarks.get? key ≠ none :=
  keeps_of_step (I := fun t => t.bookmarks.get? key ≠ none) (fun hstep => hstep.bookmarks) h hs

end Scene

/-! ## Where tiles are looked for -/

namespace Rooms

variable {rooms rooms' : Rooms}

/-- The layout of rooms includes at which addresses there are tiles. -/
theorem isSome_tile?_of_layout (h : rooms'.layout = rooms.layout) (address : TileAddress) :
    (rooms'.tile? address).isSome = (rooms.tile? address).isSome := by
  have hfound : ∀ rooms : Rooms, (rooms.tile? address).isSome =
      (rooms.layout[address.room]?.map fun r => r.2.any (·.1 = address.tile)).getD false := by
    intro rooms
    unfold tile? layout Room.layout Room.tile?
    cases hr : rooms[address.room]? with
    | none => simp [hr]
    | some r => simp [hr, List.isSome_find?, List.any_map, Function.comp_def]
  rw [hfound, hfound, h]

theorem isSome_tile?_of_mem_addresses {address : TileAddress} (h : address ∈ rooms.addresses) :
    (rooms.tile? address).isSome := by
  obtain ⟨⟨r, i⟩, hr, haddress⟩ := List.mem_flatMap.mp h
  obtain ⟨tile, htile, rfl⟩ := List.mem_map.mp haddress
  have hroom : rooms[i]? = some r := List.mem_zipIdx_iff_getElem?.mp hr
  simp only [tile?, hroom, Option.bind_some, Room.tile?, List.find?_isSome]
  exact ⟨tile, htile, by simp⟩

end Rooms

namespace Setting

/-- A broadcast that has come to the `i`-th of its tiles finds it. -/
theorem isSome_tile?_in_broadcast (setting : Setting) (levels : Nat) (event : String)
    (scene : Scene) {i : Nat} {target : TileAddress}
    (h : scene.rooms.addresses[i]? = some target) :
    ((inTurn (setting.answer (setting.perform levels) event) (scene.rooms.addresses.take i)
      scene).2.rooms.tile? target).isSome := by
  have hchanges : Scene.Changes setting (fun _ => True) scene
      (inTurn (setting.answer (setting.perform levels) event) (scene.rooms.addresses.take i)
        scene).2 :=
    changes_inTurn (fun target _ => changes_answer setting.sprites.admits_true
      (fun _ => changes_perform setting.sprites.admits_true levels) event target) scene
  rw [Rooms.isSome_tile?_of_layout hchanges.layout]
  exact Rooms.isSome_tile?_of_mem_addresses (List.mem_of_getElem? h)

/-- An encounter that has come to a position of its room finds the tile there. -/
theorem isSome_tileAt?_in_encounter (setting : Setting) (avatarCell : Int × Int)
    (scene : Scene) {r : Room} (hr : scene.rooms[scene.target.room]? = some r)
    {position : Nat} (h : position < r.tiles.length) :
    ((setting.meetTiles avatarCell scene.target.room (List.range position) .nothing
      scene).2.tileAt? scene.target.room position).isSome := by
  have hchanges : Scene.Changes setting (fun _ => True) scene
      (setting.meetTiles avatarCell scene.target.room (List.range position) .nothing scene).2 :=
    changes_meetTiles setting.sprites.admits_true _ _ _ _ scene
  have hsame := congrArg Option.isSome
    (Scene.id_tileAt?_of_layout hchanges.layout scene.target.room position)
  rw [Option.isSome_map, Option.isSome_map] at hsame
  rw [hsame, Scene.tileAt?, hr]
  simp [h]

end Setting

/-! ## Acting -/

/-- What acting with these dispatches has conserved from one scene to another. -/
structure Scene.Conserves (setting : Setting) (s : Scene) (ds : List Dispatch) (t : Scene) :
    Prop where
  /-- There are as many rooms with the same palettes, and in them the same tiles on the same
  cells. -/
  layout : t.rooms.layout = s.rooms.layout
  tiles {room position : Nat} {a : Tile} : s.tileAt? room position = some a →
    ∃ b, t.tileAt? room position = some b ∧ a.Becomes setting.sprites ds room b
  items {item : String} : item ∈ t.inventory.items →
    item ∈ s.inventory.items ∨ (setting.sprites.find? item).isSome
  bookmarks {key : SequenceKey} : s.bookmarks.get? key ≠ none → t.bookmarks.get? key ≠ none

theorem Scene.conserves_of_effects {setting : Setting} {s t : Scene} {ds : List Dispatch}
    (heffects : s.Effects setting ds t) (hchanges : Changes setting (fun _ => True) s t) :
    s.Conserves setting ds t where
  layout := hchanges.layout
  tiles := heffects.exists_becomes
  items := hchanges.items
  bookmarks := hchanges.bookmarks

namespace Setting

theorem conserves_run (setting : Setting) (action : Action) (tile : TileAddress)
    (path : ActionPath) (scene : Scene) :
    scene.Conserves setting
      (setting.dispatches 0 (setting.depthLimit + 1) action tile path scene)
      (setting.run action tile path scene).2 :=
  Scene.conserves_of_effects (setting.effects_perform 0 _ action tile path scene)
    (changes_perform setting.sprites.admits_true _ trivial tile path scene)

/-- What acting conserves, whether it succeeds or halts: performing an action, resuming one,
and an encounter. A broadcast at any depth finds each of its tiles when it comes to it, and
so does an encounter. -/
theorem conserves_acting (setting : Setting) (scene : Scene) :
    (∀ action tile path, scene.Conserves setting
      (setting.dispatches 0 (setting.depthLimit + 1) action tile path scene)
      (setting.run action tile path scene).2) ∧
    (∀ d : Deferred, scene.Conserves setting
      (setting.dispatches 0 (setting.depthLimit + 1) d.action d.tile d.path
        { scene with target := d.target })
      (setting.resume d scene).2) ∧
    (∀ avatarCell, scene.Conserves setting (setting.dispatchesAtCell avatarCell scene)
      (setting.meetCell avatarCell scene).2) ∧
    (∀ levels event i target, scene.rooms.addresses[i]? = some target →
      ((inTurn (setting.answer (setting.perform levels) event)
        (scene.rooms.addresses.take i) scene).2.rooms.tile? target).isSome) ∧
    ∀ avatarCell r position, scene.rooms[scene.target.room]? = some r →
      position < r.tiles.length →
      ((setting.meetTiles avatarCell scene.target.room (List.range position) .nothing
        scene).2.tileAt? scene.target.room position).isSome := by
  refine ⟨fun action tile path => setting.conserves_run action tile path scene,
    fun d => ?_, fun avatarCell => ?_,
    fun levels event i target h => setting.isSome_tile?_in_broadcast levels event scene h,
    fun avatarCell r position hr h => setting.isSome_tileAt?_in_encounter avatarCell scene hr h⟩
  · -- to take up the target of the action that waited changes nothing that is conserved
    obtain ⟨layout, tiles, items, bookmarks⟩ :=
      setting.conserves_run d.action d.tile d.path { scene with target := d.target }
    exact ⟨layout, tiles, items, bookmarks⟩
  · exact Scene.conserves_of_effects (setting.effects_meetCell avatarCell scene)
      (changes_meetCell setting.sprites.admits_true avatarCell scene)

/-- Torches that catch fire from each other when one is pushed. -/
def torches : Setting where
  dimensions := .ofGrid 1 1 1 1 false false
  sprites := ⟨[⟨"torch", [], 0, false, true, false, false,
      [⟨"push", [.triggerEvent "catch", .giveItem "torch" 1 true]⟩,
        ⟨"catch", [.transformSelf "flame"]⟩]⟩,
    ⟨"flame", [], 0, false, true, false, false, []⟩]⟩
  palette := ⟨"day", []⟩
  depthLimit := 256

/-- The scene of two torches before the first one is pushed. -/
def twoTorches : Scene where
  rooms := [⟨"day", [⟨⟨0⟩, "torch", 0, 0, false⟩, ⟨⟨1⟩, "torch", 0, 0, false⟩]⟩]
  inventory := .empty
  bookmarks := .empty
  gate := .idle
  stage := .ofPageChars 40
  random := .ofSeed 0
  target := ⟨0, 0, 0⟩

/-- The push of the first torch sets both on fire, each by a dispatch of its own. The
broadcast finds the second torch when the first one burns, and so does the encounter. -/
theorem conserves_acting_torches :
    twoTorches.rooms.addresses[1]? = some ⟨0, ⟨1⟩⟩ ∧
      ((inTurn (torches.answer (torches.perform 256) "catch")
        (twoTorches.rooms.addresses.take 1) twoTorches).2.rooms.tile? ⟨0, ⟨1⟩⟩).isSome ∧
      ((torches.meetTiles (1, 0) 0 (List.range 1) .nothing twoTorches).2.tileAt? 0 1).isSome ∧
      ∃ b, (torches.meetCell (1, 0) twoTorches).2.tileAt? 0 1 = some b ∧ b.sprite = "flame" ∧
        ∃ x ∈ torches.dispatchesAtCell (1, 0) twoTorches, x.Transforms ⟨0, ⟨1⟩⟩ "flame" := by
  obtain ⟨-, -, hcell, hbroadcast, hencounter⟩ := conserves_acting torches twoTorches
  have haddress : twoTorches.rooms.addresses[1]? = some ⟨0, ⟨1⟩⟩ := rfl
  have hat : twoTorches.tileAt? 0 1 = some ⟨⟨1⟩, "torch", 0, 0, false⟩ := rfl
  have hflame : ((torches.meetCell (1, 0) twoTorches).2.tileAt? 0 1).map Tile.sprite =
      some "flame" := by decide
  obtain ⟨b, hb, hbecomes⟩ := (hcell (1, 0)).tiles hat
  rw [hb] at hflame
  have hsprite : b.sprite = "flame" := Option.some.inj hflame
  obtain ⟨-, x, hx, htransforms⟩ := hbecomes.sprite (by rw [hsprite]; decide)
  rw [hsprite] at htransforms
  exact ⟨haddress, hbroadcast 256 "catch" 1 _ haddress, hencounter (1, 0) _ 1 rfl (by decide),
    b, hb, hsprite, x, hx, htransforms⟩

end Setting

end TileAdventure
