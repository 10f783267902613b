import Mathlib.Data.List.Perm.Subperm
import TileAdventure.Proofs.Acting.Frame

/-!
# Picking up and sweeping

In an encounter the avatar picks up the items on its way (`Setting.pickUpsAtCell`). Their
names are those that the encounter tells (`Setting.pickedUp_meetCell`), each of their tiles
stands at a position of its own in the room (`Setting.ids_pickUpsAtCell`), and in the end all
of them are marked for removal (`Setting.marked_pickUpsAtCell`), since nothing takes a mark
back. A sweep then parts the tiles into those that are marked and those that stay
(`Rooms.perm_sweep`), which keep their order and their cells (`Rooms.thins_sweep`).
-/

namespace TileAdventure

/-! ## Marks and sweeps -/

namespace Rooms

variable {rooms rooms' rooms'' : Rooms}

/-- The ids of all tiles, in order. -/
abbrev ids (rooms : Rooms) : List TileId :=
  rooms.tiles.map Tile.id

/-- In the second rooms, which are as many and have the same palettes, there are some of the
tiles of the first ones, in order and on their cells. -/
def Thins (rooms rooms' : Rooms) : Prop :=
  List.Forall₂ (fun r r' => r'.1 = r.1 ∧ r'.2.Sublist r.2) rooms.layout rooms'.layout

theorem Thins.of_layout (h : rooms'.layout = rooms.layout) : rooms.Thins rooms' := by
  rw [Thins, h]
  exact List.forall₂_same.mpr fun _ _ => ⟨rfl, .refl _⟩

theorem Thins.trans (h : rooms.Thins rooms') (h' : rooms'.Thins rooms'') :
    rooms.Thins rooms'' := by
  unfold Thins at h h' ⊢
  generalize rooms.layout = first at h
  generalize rooms'.layout = second at h h'
  generalize rooms''.layout = third at h' ⊢
  induction h generalizing third with
  | nil =>
    cases h'
    exact .nil
  | cons hroom _ ih =>
    cases h' with
    | cons hroom' hrest =>
      exact .cons ⟨hroom'.1.trans hroom.1, hroom'.2.trans hroom.2⟩ (ih _ hrest)

/-- A sweep takes tiles away and leaves the others as they are. -/
theorem thins_sweep (rooms : Rooms) : rooms.Thins rooms.sweep := by
  rw [Thins, layout, layout, sweep, List.map_map, List.forall₂_map_left_iff,
    List.forall₂_map_right_iff]
  exact List.forall₂_same.mpr fun r _ => ⟨rfl, List.filter_sublist.map _⟩

/-- A sweep parts the tiles into those that are marked and those that stay. -/
theorem perm_sweep (rooms : Rooms) : (rooms.removedIds ++ rooms.sweep.ids).Perm rooms.ids := by
  rw [removedIds, ids, tiles_sweep, ← List.map_append]
  exact (List.filter_append_perm (·.removed) rooms.tiles).map Tile.id

/-- The layout of rooms includes the ids of their tiles. -/
theorem ids_of_layout (h : rooms'.layout = rooms.layout) : rooms'.ids = rooms.ids := by
  have hids : ∀ rooms : Rooms, rooms.ids = rooms.layout.flatMap fun r => r.2.map Prod.fst := by
    intro rooms
    simp [ids, tiles, layout, Room.layout, List.map_flatMap, List.flatMap_map,
      Function.comp_def]
  rw [hids, hids, h]

theorem mem_removedIds {id : TileId} :
    id ∈ rooms.removedIds ↔ ∃ tile ∈ rooms.tiles, tile.removed = true ∧ tile.id = id := by
  simp [removedIds, and_assoc]

/-- Where tiles keep their ids and their marks, marked ids stay marked. -/
theorem mem_removedIds_modifyAt {id : TileId} (h : id ∈ rooms.removedIds) (room position : Nat)
    {f : Tile → Tile} (hid : ∀ t, (f t).id = t.id)
    (hmark : ∀ t, t.removed = true → (f t).removed = true) :
    id ∈ (rooms.modifyAt room position f).removedIds := by
  obtain ⟨tile, htile, hremoved, rfl⟩ := mem_removedIds.mp h
  obtain ⟨tile', hmem, rfl | rfl⟩ := exists_mem_modifyAt htile room position f
  · exact mem_removedIds.mpr ⟨_, hmem, hremoved, rfl⟩
  · exact mem_removedIds.mpr ⟨_, hmem, hmark tile hremoved, hid tile⟩

theorem mem_removedIds_modifyTile {id : TileId} (h : id ∈ rooms.removedIds)
    (address : TileAddress) {f : Tile → Tile} (hid : ∀ t, (f t).id = t.id)
    (hmark : ∀ t, t.removed = true → (f t).removed = true) :
    id ∈ (rooms.modifyTile address f).removedIds := by
  obtain ⟨position, heq, -⟩ := rooms.exists_modifyTile_eq address f
  exact heq ▸ mem_removedIds_modifyAt h _ position hid hmark

end Rooms

namespace Scene

variable {setting : Setting} {allowed : Action → Prop} {s t : Scene}

theorem Change.marked (h : Change setting allowed s t) {id : TileId}
    (hs : id ∈ s.rooms.removedIds) : id ∈ t.rooms.removedIds := by
  cases h with
  | transform tile =>
    exact Rooms.mem_removedIds_modifyTile hs tile (fun _ => rfl) fun _ h => h
  | markAt room position =>
    exact Rooms.mem_removedIds_modifyAt hs room position (fun _ => rfl) fun _ _ => rfl
  | _ => exact hs

/-- A tile that is marked for removal stays marked. -/
theorem Changes.marked (h : Changes setting allowed s t) {id : TileId}
    (hs : id ∈ s.rooms.removedIds) : id ∈ t.rooms.removedIds :=
  keeps_of_step (I := fun t => id ∈ t.rooms.removedIds) (fun hstep => hstep.marked) h hs

/-- To pick up a tile is to mark it. -/
theorem marked_pickUp {room position : Nat} {tile : Tile}
    (h : s.tileAt? room position = some tile) (sprite : Sprite) :
    tile.id ∈ (s.pickUp sprite room position).rooms.removedIds := by
  have hmarked : tile.mark ∈ (s.pickUp sprite room position).rooms.tiles := by
    obtain ⟨r, hr, ht⟩ := Option.bind_eq_some_iff.mp h
    have hat : (r.modifyAt position Tile.mark).tiles[position]? = some tile.mark := by
      rw [Room.getElem?_tiles_modifyAt, ht, Option.map_some, if_pos rfl]
    refine Rooms.mem_tiles_iff.mpr ⟨room, r.modifyAt position Tile.mark, ?_,
      List.mem_of_getElem? hat⟩
    exact (Rooms.getElem?_modifyAt ..).trans (by simp [addItem, hr])
  exact Rooms.mem_removedIds.mpr ⟨_, hmarked, rfl, rfl⟩

/-- The layout of rooms includes where their tiles are to be found. -/
theorem id_tileAt?_of_layout (h : t.rooms.layout = s.rooms.layout) (room position : Nat) :
    (t.tileAt? room position).map Tile.id = (s.tileAt? room position).map Tile.id := by
  have hid : ∀ s : Scene, (s.tileAt? room position).map Tile.id =
      s.rooms.layout[room]?.bind fun r => (r.2[position]?).map Prod.fst := by
    intro s
    unfold tileAt? Rooms.layout Room.layout
    cases hr : s.rooms[room]? with
    | none => simp [hr]
    | some r => cases ht : r.tiles[position]? <;> simp [hr, ht]
  rw [hid, hid, h]

end Scene

/-! ## Picking up -/

namespace Setting

variable (setting : Setting)

/-- Whether the avatar picks the tile up on meeting it. -/
def picksUp (tile : Tile) (scene : Scene) : Bool :=
  scene.isOnTarget tile &&
    (setting.sprites.find? tile.sprite).any fun sprite => !sprite.isAvatar && sprite.isItem

/-- The tiles that are picked up in meeting those at the given positions of the room. -/
def pickUpsAtTiles (avatarCell : Int × Int) (room : Nat) :
    List Nat → Encounter → Scene → List Tile
  | [], _, _ => []
  | position :: positions, met, scene =>
    match scene.tileAt? room position with
    | none => pickUpsAtTiles avatarCell room positions met scene
    | some tile =>
      (if setting.picksUp tile scene then [tile] else []) ++
        match setting.meetTile avatarCell room position tile met scene with
        | (.ok met, scene) => pickUpsAtTiles avatarCell room positions met scene
        | (.error _, _) => []

/-- The tiles that are picked up in meeting all those on the target's cell. -/
def pickUpsAtCell (avatarCell : Int × Int) (scene : Scene) : List Tile :=
  match scene.rooms[scene.target.room]? with
  | none => []
  | some r =>
    setting.pickUpsAtTiles avatarCell scene.target.room (List.range r.tiles.length) .nothing
      scene

variable {setting} {avatarCell : Int × Int} {room : Nat} {scene : Scene}

/-! ### What the encounter tells -/

/-- A tile is left alone, or it is met in the role of its sprite: if it is picked up, that
comes first. -/
theorem meetTile_cases (setting : Setting) (avatarCell : Int × Int) (room position : Nat)
    (tile : Tile) (met : Encounter) (scene : Scene) :
    (setting.picksUp tile scene = false ∧
        ∀ met', (setting.meetTile avatarCell room position tile met scene).1 = .ok met' →
          met' = met) ∨
      ∃ sprite, sprite.name = tile.sprite ∧ setting.picksUp tile scene = sprite.isItem ∧
        Scene.Changes setting (fun _ => True)
          (if sprite.isItem then scene.pickUp sprite room position else scene)
          (setting.meetTile avatarCell room position tile met scene).2 ∧
        ∀ met', (setting.meetTile avatarCell room position tile met scene).1 = .ok met' →
          met'.pickedUp = (met.note sprite).pickedUp := by
  unfold meetTile picksUp
  cases scene.isOnTarget tile with
  | false => exact Or.inl ⟨rfl, fun met' h => (Except.ok.inj h).symm⟩
  | true =>
    cases hfind : setting.sprites.find? tile.sprite with
    | none => exact Or.inl ⟨rfl, fun met' h => nomatch h⟩
    | some sprite =>
      cases ha : sprite.isAvatar with
      | true => exact Or.inl ⟨by simp [ha], fun met' h => by simpa [ha] using h.symm⟩
      | false =>
        refine Or.inr ⟨sprite, by simpa using List.find?_some hfind, by simp [ha], ?_⟩
        simp only [ha, Bool.not_true, Bool.false_eq_true, if_false]
        generalize (if sprite.isItem then scene.pickUp sprite room position else scene) = picked
        split
        · exact ⟨.refl, fun met' h => by rw [← Except.ok.inj h]⟩
        cases sprite.behavior? Behavior.pushEvent with
        | none => exact ⟨.refl, fun met' h => by rw [← Except.ok.inj h]⟩
        | some behavior =>
          refine ⟨changes_push setting.sprites.admits_true (fun _ _ => trivial) _ _,
            fun met' h => ?_⟩
          cases hpush : (setting.push behavior ⟨room, tile.id⟩ picked).1 with
          | error halt => simp [hpush, Except.map] at h
          | ok =>
            simp only [hpush, Except.map, Except.ok.injEq] at h
            rw [← h]

theorem pickedUp_meetTile {position : Nat} {tile : Tile} {met met' : Encounter} {scene' : Scene}
    (h : setting.meetTile avatarCell room position tile met scene = (.ok met', scene')) :
    met'.pickedUp =
      met.pickedUp ++ (if setting.picksUp tile scene then [tile] else []).map Tile.sprite := by
  rcases setting.meetTile_cases avatarCell room position tile met scene with
    ⟨hpick, hmet⟩ | ⟨sprite, hname, hpick, -, hmet⟩
  · rw [hmet met' (congrArg Prod.fst h), hpick]
    simp
  · rw [hmet met' (congrArg Prod.fst h), hpick]
    cases hi : sprite.isItem <;> simp [Encounter.note, hi, hname]

theorem pickedUp_meetTiles {positions : List Nat} {met met' : Encounter} {scene' : Scene}
    (h : setting.meetTiles avatarCell room positions met scene = (.ok met', scene')) :
    met'.pickedUp = met.pickedUp ++
      (setting.pickUpsAtTiles avatarCell room positions met scene).map Tile.sprite := by
  induction positions generalizing met scene with
  | nil =>
    cases h
    simp [pickUpsAtTiles]
  | cons position positions ih =>
    rw [meetTiles] at h
    rw [pickUpsAtTiles]
    cases htile : scene.tileAt? room position with
    | none =>
      rw [htile] at h
      exact ih h
    | some tile =>
      rw [htile] at h
      dsimp only at h ⊢
      rcases hmeet : setting.meetTile avatarCell room position tile met scene with
        ⟨halt | met₁, scene₁⟩
      · rw [hmeet] at h
        cases h
      · rw [hmeet] at h
        rw [ih h, pickedUp_meetTile hmeet, List.map_append, List.append_assoc]

/-- An encounter tells the names of the items that were picked up. -/
theorem pickedUp_meetCell {met : Encounter} {scene' : Scene}
    (h : setting.meetCell avatarCell scene = (.ok met, scene')) :
    met.pickedUp = (setting.pickUpsAtCell avatarCell scene).map Tile.sprite := by
  unfold meetCell at h
  unfold pickUpsAtCell
  dsimp only at h
  cases hr : scene.rooms[scene.target.room]? with
  | none => simp [hr] at h
  | some r =>
    rw [hr] at h
    exact (pickedUp_meetTiles h).trans (List.nil_append _)

/-! ### One position after another -/

theorem layout_meetTile (avatarCell : Int × Int) (room position : Nat) (tile : Tile)
    (met : Encounter) (scene : Scene) :
    (setting.meetTile avatarCell room position tile met scene).2.rooms.layout =
      scene.rooms.layout :=
  (changes_meetTile setting.sprites.admits_true avatarCell room position tile met scene).layout

theorem ids_pickUpsAtTiles (positions : List Nat) (met : Encounter) (scene : Scene) :
    ((setting.pickUpsAtTiles avatarCell room positions met scene).map Tile.id).Sublist
      (positions.filterMap fun position => (scene.tileAt? room position).map Tile.id) := by
  induction positions generalizing met scene with
  | nil => exact .refl _
  | cons position positions ih =>
    rw [pickUpsAtTiles, List.filterMap_cons]
    cases htile : scene.tileAt? room position with
    | none => exact ih met scene
    | some tile =>
      have hlayout := setting.layout_meetTile avatarCell room position tile met scene
      dsimp only [Option.map_some]
      rw [List.map_append, ← List.singleton_append (x := tile.id)]
      refine List.Sublist.append ?_ ?_
      · split
        · exact .refl _
        · exact List.nil_sublist _
      · -- the tiles met later are where they were in the scene of the start
        generalize setting.meetTile avatarCell room position tile met scene = attempt at hlayout ⊢
        obtain ⟨halt | met', after⟩ := attempt
        · exact List.nil_sublist _
        · have hrest := ih met' after
          simpa only [Scene.id_tileAt?_of_layout hlayout] using hrest

theorem filterMap_range_getElem? {α β : Type} (xs : List α) (f : α → β) :
    ((List.range xs.length).filterMap fun i => (xs[i]?).map f) = xs.map f := by
  have hsome : ((List.range xs.length).map fun i => (xs[i]?).map f) = (xs.map f).map some := by
    apply List.ext_getElem
    · simp
    · intro i hi _
      simp [List.getElem?_eq_getElem (show i < xs.length by simpa using hi)]
  calc ((List.range xs.length).filterMap fun i => (xs[i]?).map f)
      = ((List.range xs.length).map fun i => (xs[i]?).map f).filterMap id := by
        rw [List.filterMap_map]
        rfl
    _ = xs.map f := by rw [hsome, List.filterMap_map]; exact List.filterMap_some

/-- The tiles that are picked up stand in the room in this order. -/
theorem ids_pickUpsAtCell (avatarCell : Int × Int) (scene : Scene) :
    ((setting.pickUpsAtCell avatarCell scene).map Tile.id).Sublist scene.rooms.ids := by
  unfold pickUpsAtCell
  cases hr : scene.rooms[scene.target.room]? with
  | none => exact List.nil_sublist _
  | some r =>
    have hids : ((List.range r.tiles.length).filterMap fun position =>
        (scene.tileAt? scene.target.room position).map Tile.id) = r.tiles.map Tile.id := by
      simp only [Scene.tileAt?, hr, Option.bind_some]
      exact filterMap_range_getElem? ..
    have hroom : r.tiles.Sublist scene.rooms.tiles :=
      List.sublist_flatten_of_mem (List.mem_map_of_mem (List.mem_of_getElem? hr))
    exact (hids ▸ ids_pickUpsAtTiles _ _ scene).trans (hroom.map _)

/-! ### Marks -/

/-- A tile that is picked up is marked, whatever its push then does. -/
theorem marked_meetTile {position : Nat} {tile : Tile}
    (h : scene.tileAt? room position = some tile) (hpick : setting.picksUp tile scene = true)
    (avatarCell : Int × Int) (met : Encounter) :
    tile.id ∈ (setting.meetTile avatarCell room position tile met scene).2.rooms.removedIds := by
  rcases setting.meetTile_cases avatarCell room position tile met scene with
    ⟨hnot, -⟩ | ⟨sprite, -, hitem, hchanges, -⟩
  · cases hnot.symm.trans hpick
  · -- the mark comes first, and no change takes it back
    rw [hpick] at hitem
    rw [if_pos hitem.symm] at hchanges
    exact hchanges.marked (Scene.marked_pickUp h sprite)

theorem marked_pickUpsAtTiles (positions : List Nat) (met : Encounter) (scene : Scene) :
    ∀ tile ∈ setting.pickUpsAtTiles avatarCell room positions met scene,
      tile.id ∈
        (setting.meetTiles avatarCell room positions met scene).2.rooms.removedIds := by
  induction positions generalizing met scene with
  | nil => exact fun _ h => nomatch h
  | cons position positions ih =>
    rw [meetTiles, pickUpsAtTiles]
    cases hat : scene.tileAt? room position with
    | none => exact ih met scene
    | some tile =>
      intro picked hpicked
      have hmarked : setting.picksUp tile scene = true → tile.id ∈
          (setting.meetTile avatarCell room position tile met scene).2.rooms.removedIds :=
        fun hpick => marked_meetTile hat hpick avatarCell met
      dsimp only at hpicked ⊢
      generalize setting.meetTile avatarCell room position tile met scene = attempt
        at hpicked hmarked ⊢
      obtain ⟨halt | met', after⟩ := attempt
      · obtain ⟨hpick, rfl⟩ : setting.picksUp tile scene = true ∧ picked = tile := by
          simpa using hpicked
        exact hmarked hpick
      · rcases List.mem_append.mp hpicked with hfirst | hrest
        · obtain ⟨hpick, rfl⟩ : setting.picksUp tile scene = true ∧ picked = tile := by
            simpa using hfirst
          exact (changes_meetTiles setting.sprites.admits_true avatarCell room positions met'
            after).marked (hmarked hpick)
        · exact ih met' after picked hrest

/-- All tiles that are picked up in an encounter are marked for removal in the end. -/
theorem marked_pickUpsAtCell (avatarCell : Int × Int) (scene : Scene) :
    ∀ tile ∈ setting.pickUpsAtCell avatarCell scene,
      tile.id ∈ (setting.meetCell avatarCell scene).2.rooms.removedIds := by
  unfold pickUpsAtCell meetCell
  dsimp only
  cases scene.rooms[scene.target.room]? with
  | none => exact fun _ h => nomatch h
  | some r => exact marked_pickUpsAtTiles _ _ scene

end Setting

end TileAdventure
