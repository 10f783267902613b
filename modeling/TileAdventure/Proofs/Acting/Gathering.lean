import TileAdventure.Proofs.Acting.Standing

/-!
# Gathering

Where the avatar stands already nothing is pushed, so an encounter there performs no action.
Position by position the avatar takes the items on its cell (`Setting.meetUpTo_self`), and
nothing else changes (`Setting.meetCell_self`). Each of them counts as one
(`Inventory.count_gather`), and after the sweep the room is without the tiles that were marked
and without these items (`Rooms.sweep_mark_collects`).
-/

namespace TileAdventure

/-! ## Items on a cell -/

/-- An avatar on a cell takes the tile. -/
def Catalogue.collects (sprites : Catalogue) (l : Location) (tile : Tile) : Bool :=
  (sprites.roleAt? l tile).any (·.isItem)

/-- The tiles on a cell that an avatar there takes, in order. -/
def Rooms.itemsOn (rooms : Rooms) (sprites : Catalogue) (l : Location) : List Tile :=
  (rooms.tilesOn l).filter fun tile => (sprites.role? tile).any (·.isItem)

theorem Rooms.itemsOn_eq {rooms : Rooms} {l : Location} {r : Room}
    (hr : rooms[l.room]? = some r) (sprites : Catalogue) :
    rooms.itemsOn sprites l = r.tiles.filter (sprites.collects l) := by
  simp only [itemsOn, tilesOn, hr, Option.map_some, Option.getD_some, List.filter_filter]
  refine List.filter_congr fun tile _ => ?_
  unfold Catalogue.collects Catalogue.roleAt?
  split <;> simp_all

theorem Catalogue.rolesOn_eq {rooms : Rooms} {l : Location} {r : Room}
    (hr : rooms[l.room]? = some r) (sprites : Catalogue) :
    sprites.rolesOn rooms l = r.tiles.filterMap (sprites.roleAt? l) := by
  simp only [rolesOn, Rooms.tilesOn, hr, Option.map_some, Option.getD_some,
    List.filterMap_filter]
  rfl

/-! ## Counting items -/

/-- Take one of each of the items. -/
def Inventory.gather (inv : Inventory) (items : List String) : Inventory :=
  items.foldl (fun inv item => inv.add item 1) inv

/-- What is gathered counts one by one, up to the greatest count. -/
theorem Inventory.count_gather {inv : Inventory} {name : String}
    (h : inv.count name ≤ maxCount) (items : List String) :
    (inv.gather items).count name = min (inv.count name + items.count name) maxCount := by
  induction items generalizing inv with
  | nil => exact (Nat.min_eq_left h).symm
  | cons item items ih =>
    have hadd := inv.count_add item name 1
    have hle : (inv.add item 1).count name ≤ maxCount := by
      rw [hadd]
      split
      · exact clamped_le _ _
      · exact h
    have hgather : inv.gather (item :: items) = (inv.add item 1).gather items := rfl
    rw [hgather, ih hle, hadd, List.count_cons, clamped_eq]
    by_cases hname : name = item
    · subst hname
      simp
      omega
    · simp [hname, Ne.symm hname]

/-! ## Marking tiles of a room -/

/-- The tile, marked for removal if it is one of some. -/
def Tile.markIf (marks : Tile → Bool) (t : Tile) : Tile :=
  if marks t then t.mark else t

@[simp] theorem Tile.removed_markIf (marks : Tile → Bool) (t : Tile) :
    (t.markIf marks).removed = (t.removed || marks t) := by
  unfold markIf
  split <;> simp_all [mark]

@[simp] theorem Tile.id_markIf (marks : Tile → Bool) (t : Tile) : (t.markIf marks).id = t.id := by
  unfold markIf
  split <;> rfl

namespace Room

variable {r : Room} {marks : Tile → Bool} {position : Nat}

/-- Mark some of the tiles. -/
def mark (r : Room) (marks : Tile → Bool) : Room :=
  { r with tiles := r.tiles.map (Tile.markIf marks) }

/-- A sweep takes the tiles that were marked, and leaves the others as they were. -/
theorem sweep_mark (r : Room) (marks : Tile → Bool) :
    (r.mark marks).sweep = { r.sweep with tiles := r.sweep.tiles.filter fun t => !marks t } := by
  have hsame : ∀ t ∈ r.tiles.filter ((!·.removed) ∘ Tile.markIf marks), t.markIf marks = t := by
    intro t ht
    have hstays : t.removed = false ∧ marks t = false := by
      simpa using (List.mem_filter.mp ht).2
    simp [Tile.markIf, hstays.2]
  simp only [sweep, mark, List.filter_map, List.filter_filter]
  rw [List.map_congr_left hsame, List.map_id']
  congr 2
  funext t
  simp [Bool.and_comm]

/-- Mark some of the tiles, as far as the positions before one. -/
def markTo (r : Room) (position : Nat) (marks : Tile → Bool) : Room :=
  { r with tiles := r.tiles.mapIdx fun i t => if i < position then t.markIf marks else t }

theorem getElem?_tiles_markTo (r : Room) (position : Nat) (marks : Tile → Bool) (i : Nat) :
    (r.markTo position marks).tiles[i]? =
      r.tiles[i]?.map fun t => if i < position then t.markIf marks else t :=
  List.getElem?_mapIdx

@[simp] theorem markTo_zero (r : Room) (marks : Tile → Bool) : r.markTo 0 marks = r :=
  ext_getElem? rfl fun i => by simp [getElem?_tiles_markTo]

theorem markTo_length (r : Room) (marks : Tile → Bool) :
    r.markTo r.tiles.length marks = r.mark marks := by
  refine ext_getElem? rfl fun i => ?_
  rw [getElem?_tiles_markTo, mark, List.getElem?_map]
  refine Option.map_congr fun t ht => if_pos ?_
  obtain ⟨hlt, -⟩ := List.getElem?_eq_some_iff.mp ht
  exact hlt

/-- The tile at the position is marked next, if it is one of them. -/
theorem markTo_succ {t : Tile} (ht : r.tiles[position]? = some t) (marks : Tile → Bool) :
    r.markTo (position + 1) marks =
      if marks t then (r.markTo position marks).modifyAt position Tile.mark
      else r.markTo position marks := by
  refine ext_getElem? (by split <;> rfl) fun i => ?_
  rw [getElem?_tiles_markTo]
  by_cases hi : i = position
  · subst hi
    rw [ht, Option.map_some, if_pos (Nat.lt_succ_self i), Tile.markIf]
    cases marks t with
    | true => simp [getElem?_tiles_modifyAt, getElem?_tiles_markTo, ht]
    | false => simp [getElem?_tiles_markTo, ht]
  · have hlt : i < position + 1 ↔ i < position := by omega
    simp only [hlt]
    cases marks t with
    | true =>
      simp [getElem?_tiles_modifyAt, getElem?_tiles_markTo, Ne.symm hi, Function.comp_def]
    | false => simp [getElem?_tiles_markTo]

end Room

namespace Rooms

variable {rooms : Rooms} {room : Nat} {marks : Tile → Bool}

/-- Mark some of the tiles of a room. -/
def mark (rooms : Rooms) (room : Nat) (marks : Tile → Bool) : Rooms :=
  rooms.modify room fun r => r.mark marks

theorem getElem?_mark (rooms : Rooms) (room : Nat) (marks : Tile → Bool) (i : Nat) :
    (rooms.mark room marks)[i]? =
      rooms[i]?.map fun r => if room = i then r.mark marks else r := by
  simp only [mark, List.getElem?_modify]
  cases rooms[i]? with
  | none => rfl
  | some r => split <;> simp [*]

/-- The ids that are marked are those that were and those of the tiles that are marked now. -/
theorem mem_removedIds_mark {r : Room} (hr : rooms[room]? = some r) {id : TileId} :
    id ∈ (rooms.mark room marks).removedIds ↔
      id ∈ rooms.removedIds ∨ id ∈ (r.tiles.filter marks).map Tile.id := by
  simp only [mem_removedIds, mem_tiles_iff, getElem?_mark, Option.map_eq_some_iff,
    List.mem_map, List.mem_filter]
  constructor
  · rintro ⟨_, ⟨i, _, ⟨r', hr', rfl⟩, ht⟩, hremoved, rfl⟩
    split at ht
    · rename_i hroom
      subst hroom
      obtain rfl := Option.some.inj (hr.symm.trans hr')
      obtain ⟨t, htile, rfl⟩ := List.mem_map.mp ht
      rw [Tile.removed_markIf, Bool.or_eq_true] at hremoved
      rw [Tile.id_markIf]
      exact hremoved.imp (fun h => ⟨t, ⟨room, r, hr', htile⟩, h, rfl⟩)
        fun h => ⟨t, ⟨htile, h⟩, rfl⟩
    · exact Or.inl ⟨_, ⟨i, r', hr', ht⟩, hremoved, rfl⟩
  · rintro (⟨t, ⟨i, r', hr', ht⟩, hremoved, rfl⟩ | ⟨t, ⟨ht, hmarks⟩, rfl⟩)
    · by_cases hi : room = i
      · refine ⟨t.markIf marks, ⟨i, _, ⟨r', hr', if_pos hi⟩, List.mem_map_of_mem ht⟩, ?_,
          t.id_markIf marks⟩
        simp [hremoved]
      · exact ⟨t, ⟨i, _, ⟨r', hr', if_neg hi⟩, ht⟩, hremoved, rfl⟩
    · refine ⟨t.markIf marks, ⟨room, _, ⟨r, hr, if_pos rfl⟩, List.mem_map_of_mem ht⟩, ?_,
        t.id_markIf marks⟩
      simp [hmarks]

/-- The rooms are swept, and the items on a cell are gone with the tiles that were marked. -/
def gathered (rooms : Rooms) (sprites : Catalogue) (l : Location) : Rooms :=
  rooms.sweep.modify l.room fun r =>
    { r with tiles := r.tiles.filter fun t => !sprites.collects l t }

theorem getElem?_gathered (rooms : Rooms) (sprites : Catalogue) (l : Location) (i : Nat) :
    (rooms.gathered sprites l)[i]? = rooms[i]?.map fun r =>
      if l.room = i then
        { r.sweep with tiles := r.sweep.tiles.filter fun t => !sprites.collects l t }
      else r.sweep := by
  simp only [gathered, sweep, List.getElem?_modify, List.getElem?_map]
  cases rooms[i]? with
  | none => rfl
  | some r => split <;> simp [*]

/-- The items on a cell are marked, and the sweep takes just them and the tiles that were marked
before. -/
theorem sweep_mark_collects (rooms : Rooms) (sprites : Catalogue) (l : Location) :
    (rooms.mark l.room (sprites.collects l)).sweep = rooms.gathered sprites l := by
  refine List.ext_getElem? fun i => ?_
  rw [sweep, List.getElem?_map, getElem?_mark, getElem?_gathered, Option.map_map]
  congr 1
  funext r
  dsimp only [Function.comp_apply]
  split
  · exact r.sweep_mark _
  · rfl

/-- No tile is marked any more. -/
theorem removedIds_gathered (rooms : Rooms) (sprites : Catalogue) (l : Location) :
    (rooms.gathered sprites l).removedIds = [] := by
  refine List.eq_nil_iff_forall_not_mem.mpr fun id hid => ?_
  obtain ⟨t, ht, hremoved, -⟩ := mem_removedIds.mp hid
  obtain ⟨i, r, hr, ht⟩ := mem_tiles_iff.mp ht
  obtain ⟨r, -, rfl⟩ := Option.map_eq_some_iff.mp ((getElem?_gathered ..).symm.trans hr)
  have hswept : t ∈ r.sweep.tiles := by
    split at ht
    · exact (List.mem_filter.mp ht).1
    · exact ht
  simp [Room.sweep, hremoved] at hswept

/-- No item is on the cell any more. -/
theorem itemsOn_gathered (rooms : Rooms) (sprites : Catalogue) (l : Location) :
    (rooms.gathered sprites l).itemsOn sprites l = [] := by
  cases hr : rooms[l.room]? with
  | none => simp [itemsOn, tilesOn, getElem?_gathered, hr]
  | some r =>
    have hthere : (rooms.gathered sprites l)[l.room]? = some
        { r.sweep with tiles := r.sweep.tiles.filter fun t => !sprites.collects l t } := by
      simp [getElem?_gathered, hr]
    simp [itemsOn_eq hthere]

/-- Where no tile is marked and no item is on the cell, all tiles stay. -/
theorem gathered_of_clean {sprites : Catalogue} {l : Location} (hmarks : rooms.removedIds = [])
    (hitems : rooms.itemsOn sprites l = []) : rooms.gathered sprites l = rooms := by
  refine List.ext_getElem? fun i => ?_
  rw [getElem?_gathered]
  cases hr : rooms[i]? with
  | none => rfl
  | some r =>
    have hkept : ∀ t ∈ r.tiles, t.removed = false := fun t ht => by
      by_contra hremoved
      have hid := mem_removedIds.mpr
        ⟨t, mem_tiles_iff.mpr ⟨i, r, hr, ht⟩, by simpa using hremoved, rfl⟩
      simp [hmarks] at hid
    have hswept : r.sweep = r := by
      rw [Room.sweep, List.filter_eq_self.mpr fun t ht => by rw [hkept t ht]; rfl]
    rw [Option.map_some, hswept]
    split
    · rename_i hroom
      subst hroom
      rw [itemsOn_eq hr, List.filter_eq_nil_iff] at hitems
      rw [List.filter_eq_self.mpr fun t ht => by simpa using hitems t ht]
    · rfl

end Rooms

namespace Bookmarks

/-- What is forgotten depends on the tiles only, not on how they are listed. -/
theorem forget_congr (marks : Bookmarks) {tiles tiles' : List TileId}
    (h : ∀ id, id ∈ tiles ↔ id ∈ tiles') : marks.forget tiles = marks.forget tiles' := by
  unfold forget
  simp only [h]

@[simp] theorem forget_nil (marks : Bookmarks) : marks.forget [] = marks := by
  simp [forget]

/-- Where the items on a cell are marked, their bookmarks are forgotten with those of the tiles
that were marked before. -/
theorem forget_mark_collects (marks : Bookmarks) {rooms : Rooms} (sprites : Catalogue)
    {l : Location} {r : Room} (hr : rooms[l.room]? = some r) :
    marks.forget (rooms.mark l.room (sprites.collects l)).removedIds =
      marks.forget (rooms.removedIds ++ (rooms.itemsOn sprites l).map Tile.id) :=
  marks.forget_congr fun id => by
    rw [Rooms.mem_removedIds_mark hr, List.mem_append, Rooms.itemsOn_eq hr]

end Bookmarks

/-! ## What an encounter tells -/

namespace Encounter

/-- Sprites that are only met in their roles are told one by one. -/
theorem foldl_note (roles : List Sprite) (e : Encounter) :
    roles.foldl note e = ⟨e.passable && roles.all (!·.isWall),
      e.pickedUp ++ (roles.filter (·.isItem)).map Sprite.name, e.pushed⟩ := by
  induction roles generalizing e with
  | nil => simp
  | cons sprite roles ih =>
    rw [List.foldl_cons, ih]
    cases hitem : sprite.isItem <;> simp [note, hitem, Bool.and_assoc]

theorem foldl_note_nothing (roles : List Sprite) :
    roles.foldl note nothing = .ofRoles false roles := by
  simp [foldl_note, nothing, ofRoles]

end Encounter

/-! ## Encounters on the own cell -/

namespace Scene

/-- Take the items on the target's cell. -/
def gathered (scene : Scene) (sprites : Catalogue) : Scene :=
  { scene with
    rooms := scene.rooms.mark scene.target.room (sprites.collects scene.target)
    inventory := scene.inventory.gather
      ((scene.rooms.itemsOn sprites scene.target).map Tile.sprite) }

/-- Take the items on the target's cell among the tiles of its room `r` before a position. -/
def gatheredTo (scene : Scene) (sprites : Catalogue) (r : Room) (position : Nat) : Scene :=
  { scene with
    rooms := scene.rooms.set scene.target.room
      (r.markTo position (sprites.collects scene.target))
    inventory := scene.inventory.gather
      (((r.tiles.take position).filter (sprites.collects scene.target)).map Tile.sprite) }

variable {scene : Scene} {r : Room} {position : Nat}

theorem target_gatheredTo (scene : Scene) (sprites : Catalogue) (r : Room)
    (position : Nat) : (scene.gatheredTo sprites r position).target = scene.target :=
  rfl

theorem gatheredTo_zero (hr : scene.rooms[scene.target.room]? = some r)
    (sprites : Catalogue) : scene.gatheredTo sprites r 0 = scene := by
  obtain ⟨hlt, rfl⟩ := List.getElem?_eq_some_iff.mp hr
  simp [gatheredTo, Inventory.gather]

theorem gatheredTo_length (hr : scene.rooms[scene.target.room]? = some r)
    (sprites : Catalogue) :
    scene.gatheredTo sprites r r.tiles.length = scene.gathered sprites := by
  have hrooms : scene.rooms.mark scene.target.room (sprites.collects scene.target) =
      scene.rooms.set scene.target.room (r.mark (sprites.collects scene.target)) := by
    rw [Rooms.mark, List.modify_eq_set_getElem?, hr]
    rfl
  rw [gatheredTo, gathered, Room.markTo_length, List.take_length, Rooms.itemsOn_eq hr, hrooms]

/-- At the next position the tile is taken if it is an item on the target's cell. -/
theorem gatheredTo_succ {tile : Tile} (hr : scene.rooms[scene.target.room]? = some r)
    (ht : r.tiles[position]? = some tile) (sprites : Catalogue) :
    scene.gatheredTo sprites r (position + 1) =
      if sprites.collects scene.target tile then
        ((scene.gatheredTo sprites r position).addItem tile.sprite 1).markAt
          scene.target.room position
      else scene.gatheredTo sprites r position := by
  obtain ⟨hlt, -⟩ := List.getElem?_eq_some_iff.mp hr
  rw [gatheredTo, Room.markTo_succ ht, List.take_add_one, ht]
  cases hcollects : sprites.collects scene.target tile with
  | true =>
    rw [if_pos rfl, if_pos rfl, ← Rooms.modifyAt_set hlt]
    simp [gatheredTo, markAt, addItem, Inventory.gather, hcollects]
  | false => simp [gatheredTo, hcollects]

/-- The tile at the next position is as it was. -/
theorem tileAt?_gatheredTo (hr : scene.rooms[scene.target.room]? = some r)
    (sprites : Catalogue) (position : Nat) :
    (scene.gatheredTo sprites r position).tileAt? scene.target.room position =
      r.tiles[position]? := by
  obtain ⟨hlt, -⟩ := List.getElem?_eq_some_iff.mp hr
  rw [tileAt?, gatheredTo, List.getElem?_set_self hlt, Option.bind_some,
    Room.getElem?_tiles_markTo]
  simp

end Scene

namespace Setting

variable {setting : Setting} {avatarCell : Int × Int} {scene : Scene}

/-- On the avatar's own cell a tile is met in its role, and if it is an item, taken. -/
theorem meetTile_self (hself : scene.targetIs avatarCell = true) {tile : Tile}
    (hknown : (setting.sprites.find? tile.sprite).isSome) (room position : Nat)
    (met : Encounter) :
    setting.meetTile avatarCell room position tile met scene =
      (.ok ((setting.sprites.roleAt? scene.target tile).toList.foldl .note met),
        if setting.sprites.collects scene.target tile then
          (scene.addItem tile.sprite 1).markAt room position
        else scene) := by
  obtain ⟨sprite, hfind⟩ := Option.isSome_iff_exists.mp hknown
  have hname : sprite.name = tile.sprite := by
    simpa using List.find?_some hfind
  have hstill : ((scene.addItem sprite.name 1).markAt room position).targetIs avatarCell =
      true := hself
  rw [← hname]
  unfold meetTile Catalogue.collects Catalogue.roleAt? Catalogue.role? Scene.isOnTarget
  by_cases hon : (tile.x = scene.target.x && tile.y = scene.target.y) = true
  · simp only [hon, hfind, Bool.not_true, Bool.false_eq_true, if_false, if_true]
    cases ha : sprite.isAvatar
    · rw [Option.filter_some_pos (by simp [ha])]
      cases hitem : sprite.isItem
      · simp [hitem, hself]
      · simp [hitem, hstill, Scene.pickUp]
    · rw [Option.filter_some_neg (by simp [ha])]
      simp
  · simp [hon]

/-- As far as an encounter on the avatar's own cell has got, it tells the roles of the tiles
there, and the items among them are taken. -/
theorem meetUpTo_self (hself : scene.targetIs avatarCell = true) {r : Room}
    (hr : scene.rooms[scene.target.room]? = some r)
    (hknown : ∀ tile ∈ r.tiles, (setting.sprites.find? tile.sprite).isSome) {position : Nat}
    (hle : position ≤ r.tiles.length) :
    setting.meetUpTo avatarCell scene position =
      (.ok (((r.tiles.take position).filterMap (setting.sprites.roleAt? scene.target)).foldl
          .note .nothing),
        scene.gatheredTo setting.sprites r position) := by
  induction position with
  | zero =>
    rw [Scene.gatheredTo_zero hr]
    rfl
  | succ position ih =>
    have htile : r.tiles[position]? = some r.tiles[position] := List.getElem?_eq_getElem hle
    have hfind := hknown _ (List.getElem_mem hle)
    have hstill : (scene.gatheredTo setting.sprites r position).targetIs avatarCell = true :=
      hself
    rw [meetUpTo_succ (ih (Nat.le_of_succ_le hle)), Scene.tileAt?_gatheredTo hr, htile]
    dsimp only
    rw [meetTile_self hstill hfind, Scene.target_gatheredTo, Scene.gatheredTo_succ hr htile,
      List.take_add_one, htile, List.filterMap_append, List.foldl_append]
    cases hrole : setting.sprites.roleAt? scene.target r.tiles[position] <;> simp [hrole]

/-- An encounter on the avatar's own cell tells the roles of the tiles there, and the avatar
takes the items among them. -/
theorem meetCell_self (hself : scene.targetIs avatarCell = true) {r : Room}
    (hr : scene.rooms[scene.target.room]? = some r)
    (hknown : ∀ tile ∈ r.tiles, (setting.sprites.find? tile.sprite).isSome) :
    setting.meetCell avatarCell scene =
      (.ok (.ofRoles false (setting.sprites.rolesOn scene.rooms scene.target)),
        scene.gathered setting.sprites) := by
  rw [meetCell_eq_meetUpTo hr, meetUpTo_self hself hr hknown le_rfl, List.take_length,
    Scene.gatheredTo_length hr, Encounter.foldl_note_nothing, Catalogue.rolesOn_eq hr]

end Setting

end TileAdventure
