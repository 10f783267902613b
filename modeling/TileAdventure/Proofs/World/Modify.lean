import TileAdventure.World.Basic

/-!
# Changing one tile

A tile is changed at its position (`Rooms.modifyAt`) or by its address, which comes to the same
at some position of the room (`Rooms.exists_modifyTile_eq`). Rooms and tiles stay where they
are, so what the change keeps of a tile it keeps of them all (`Rooms.map_tiles_modifyAt`), and
each tile is as it was or changed (`Rooms.mem_of_modifyAt`, `Rooms.exists_mem_modifyAt`).
-/

namespace TileAdventure

variable {f : Tile → Tile} {t t' : Tile}

namespace Room

variable {r r' : Room} {position : Nat}

/-- Rooms with the same palette and the same tiles at all positions are the same. -/
theorem ext_getElem? (hpalette : r.palette = r'.palette)
    (htiles : ∀ i : Nat, r.tiles[i]? = r'.tiles[i]?) : r = r' := by
  obtain ⟨palette, tiles⟩ := r
  obtain ⟨palette', tiles'⟩ := r'
  rw [mk.injEq]
  exact ⟨hpalette, List.ext_getElem? htiles⟩

/-- A change shows at its position and nowhere else. -/
theorem getElem?_tiles_modifyAt (r : Room) (position : Nat) (f : Tile → Tile) (i : Nat) :
    (r.modifyAt position f).tiles[i]? = r.tiles[i]?.map fun t => if position = i then f t else t :=
  List.getElem?_modify ..

theorem map_tiles_modifyAt {α : Type} {g : Tile → α} (hf : ∀ t, g (f t) = g t) (r : Room)
    (position : Nat) : (r.modifyAt position f).tiles.map g = r.tiles.map g := by
  refine List.ext_getElem? fun i => ?_
  rw [List.getElem?_map, List.getElem?_map, getElem?_tiles_modifyAt, Option.map_map]
  congr 1
  funext t
  by_cases hi : position = i <;> simp [hi, hf]

theorem mem_of_modifyAt (h : t' ∈ (r.modifyAt position f).tiles) :
    ∃ t ∈ r.tiles, t' = t ∨ t' = f t := by
  obtain ⟨i, hi⟩ := List.mem_iff_getElem?.mp h
  obtain ⟨t, ht, rfl⟩ := Option.map_eq_some_iff.mp ((getElem?_tiles_modifyAt ..).symm.trans hi)
  refine ⟨t, List.mem_of_getElem? ht, ?_⟩
  split
  · exact Or.inr rfl
  · exact Or.inl rfl

theorem exists_mem_modifyAt (h : t ∈ r.tiles) (position : Nat) (f : Tile → Tile) :
    ∃ t' ∈ (r.modifyAt position f).tiles, t' = t ∨ t' = f t := by
  obtain ⟨i, hi⟩ := List.mem_iff_getElem?.mp h
  refine ⟨_, List.mem_of_getElem? ((getElem?_tiles_modifyAt ..).trans (by rw [hi]; rfl)), ?_⟩
  split
  · exact Or.inr rfl
  · exact Or.inl rfl

end Room

namespace Rooms

variable {rooms : Rooms} {room position : Nat}

/-- A change of a tile is a change in its own room. -/
theorem getElem?_modifyAt (rooms : Rooms) (room position : Nat) (f : Tile → Tile) (i : Nat) :
    (rooms.modifyAt room position f)[i]? =
      rooms[i]?.map fun r => if room = i then r.modifyAt position f else r :=
  List.getElem?_modify ..

/-- A change in a room that is put in another's place. -/
theorem modifyAt_set (h : room < rooms.length) (r : Room) (position : Nat) (f : Tile → Tile) :
    modifyAt (rooms.set room r) room position f = rooms.set room (r.modifyAt position f) := by
  refine List.ext_getElem? fun i => ?_
  rw [getElem?_modifyAt, List.getElem?_set, List.getElem?_set]
  by_cases hi : room = i
  · simp [hi, hi ▸ h]
  · simp [hi]

/-- To change the tile at an address is to change the tile at a position of its room, where one
with this id stands if there is any. -/
theorem exists_modifyTile_eq (rooms : Rooms) (address : TileAddress) (f : Tile → Tile) :
    ∃ position, rooms.modifyTile address f = rooms.modifyAt address.room position f ∧
      ∀ r t, rooms[address.room]? = some r → r.tiles[position]? = some t →
        t.id = address.tile := by
  cases hr : rooms[address.room]? with
  | none =>
    have hnone : ∀ g : Room → Room, rooms.modify address.room g = rooms := fun g =>
      List.modify_eq_self (List.getElem?_eq_none_iff.mp hr)
    exact ⟨0, (hnone _).trans (hnone _).symm, nofun⟩
  | some r =>
    refine ⟨r.tiles.findIdx (·.id = address.tile), ?_, fun r' t hr' ht => ?_⟩
    · refine List.ext_getElem? fun i => ?_
      simp only [modifyTile, modifyAt, List.getElem?_modify]
      split
      · rename_i hi
        rw [← hi, hr]
        rfl
      · rfl
    · obtain rfl := Option.some.inj hr'
      obtain ⟨hlt, rfl⟩ := List.getElem?_eq_some_iff.mp ht
      simpa using List.findIdx_getElem (w := hlt)

theorem map_tiles_modifyAt {α : Type} {g : Tile → α} (hf : ∀ t, g (f t) = g t) (rooms : Rooms)
    (room position : Nat) : (rooms.modifyAt room position f).tiles.map g = rooms.tiles.map g := by
  have hrooms : (rooms.modifyAt room position f).map (fun r => r.tiles.map g) =
      rooms.map fun r => r.tiles.map g := by
    refine List.ext_getElem? fun i => ?_
    rw [List.getElem?_map, List.getElem?_map, getElem?_modifyAt, Option.map_map]
    congr 1
    funext r
    by_cases hi : room = i <;> simp [hi, Room.map_tiles_modifyAt hf]
  rw [tiles, tiles, List.map_flatMap, List.map_flatMap, List.flatMap_def, List.flatMap_def,
    hrooms]

theorem map_tiles_modifyTile {α : Type} {g : Tile → α} (hf : ∀ t, g (f t) = g t)
    (rooms : Rooms) (address : TileAddress) :
    (rooms.modifyTile address f).tiles.map g = rooms.tiles.map g := by
  obtain ⟨position, heq, -⟩ := rooms.exists_modifyTile_eq address f
  rw [heq, map_tiles_modifyAt hf]

/-- In each room a tile is one that was there, or a changed one. -/
theorem mem_of_modifyAt {i : Nat} {r' : Room} (hr : (rooms.modifyAt room position f)[i]? = some r')
    (h : t' ∈ r'.tiles) : ∃ r, rooms[i]? = some r ∧ ∃ t ∈ r.tiles, t' = t ∨ t' = f t := by
  obtain ⟨r, hbefore, rfl⟩ := Option.map_eq_some_iff.mp ((getElem?_modifyAt ..).symm.trans hr)
  refine ⟨r, hbefore, ?_⟩
  split at h
  · exact Room.mem_of_modifyAt h
  · exact ⟨t', h, Or.inl rfl⟩

/-- A tile of the rooms is one of some room. -/
theorem mem_tiles_iff :
    t ∈ rooms.tiles ↔ ∃ (i : Nat) (r : Room), rooms[i]? = some r ∧ t ∈ r.tiles := by
  rw [tiles, List.mem_flatMap]
  constructor
  · rintro ⟨r, hr, ht⟩
    obtain ⟨i, hi⟩ := List.mem_iff_getElem?.mp hr
    exact ⟨i, r, hi, ht⟩
  · rintro ⟨i, r, hr, ht⟩
    exact ⟨r, List.mem_of_getElem? hr, ht⟩

/-- A tile is there as it was, or changed. -/
theorem exists_mem_modifyAt (h : t ∈ rooms.tiles) (room position : Nat) (f : Tile → Tile) :
    ∃ t' ∈ (rooms.modifyAt room position f).tiles, t' = t ∨ t' = f t := by
  obtain ⟨i, r, hi, ht⟩ := mem_tiles_iff.mp h
  have hroom : (rooms.modifyAt room position f)[i]? =
      some (if room = i then r.modifyAt position f else r) := by
    rw [getElem?_modifyAt, hi, Option.map_some]
  have hmem := List.mem_of_getElem? hroom
  split at hmem
  · obtain ⟨t', ht', hcases⟩ := Room.exists_mem_modifyAt ht position f
    exact ⟨t', List.mem_flatMap.mpr ⟨_, hmem, ht'⟩, hcases⟩
  · exact ⟨t, List.mem_flatMap.mpr ⟨_, hmem, ht⟩, Or.inl rfl⟩

end Rooms

end TileAdventure
