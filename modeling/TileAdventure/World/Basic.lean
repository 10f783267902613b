import TileAdventure.Grid.Dimensions
import TileAdventure.World.Palette
import TileAdventure.World.Sprite

/-!
# Worlds

A world has measures, rooms of tiles, sprites and palettes. `World.ofParts` numbers the
tiles in order, so an id names one tile for good. Play marks tiles for removal and sweeps
them all at once (`World.sweep`).
-/

namespace TileAdventure

/-- The number of a tile. -/
structure TileId where
  index : Nat
  deriving DecidableEq, Repr

/-- A sprite on a cell of a room. -/
structure Tile where
  id : TileId
  sprite : String
  x : Int
  y : Int
  /-- Whether the next sweep drops the tile. -/
  removed : Bool
  deriving DecidableEq, Repr

/-- Mark a tile for removal. -/
def Tile.mark (t : Tile) : Tile :=
  { t with removed := true }

/-- A room: the name of its palette, and its tiles in drawing order. -/
structure Room where
  palette : String
  tiles : List Tile
  deriving DecidableEq, Repr

namespace Room

/-- The tile numbered `id`. -/
def tile? (r : Room) (id : TileId) : Option Tile :=
  r.tiles.find? (·.id = id)

/-- Change the tile at a position, if there is one. -/
def modifyAt (r : Room) (position : Nat) (f : Tile → Tile) : Room :=
  { r with tiles := r.tiles.modify position f }

/-- Change the tile numbered `id`, if it is there: the first one, as for `tile?`. -/
def modifyTile (r : Room) (id : TileId) (f : Tile → Tile) : Room :=
  r.modifyAt (r.tiles.findIdx (·.id = id)) f

/-- The room without the tiles marked for removal. -/
def sweep (r : Room) : Room :=
  { r with tiles := r.tiles.filter (!·.removed) }

/-- Number the tiles in order from `next`, with no tile marked. -/
def numbered (r : Room) (next : Nat) : Room :=
  { r with tiles := r.tiles.mapIdx fun i t => { t with id := ⟨next + i⟩, removed := false } }

end Room

/-- Where a tile is to be found. -/
structure TileAddress where
  room : Nat
  tile : TileId
  deriving DecidableEq, Repr

/-- The rooms of a world in order. -/
abbrev Rooms := List Room

namespace Rooms

/-- Every tile in order. -/
def tiles (rooms : Rooms) : List Tile :=
  rooms.flatMap Room.tiles

/-- Where every tile is, in order. -/
def addresses (rooms : Rooms) : List TileAddress :=
  rooms.zipIdx.flatMap fun (room, i) => room.tiles.map fun t => ⟨i, t.id⟩

/-- The tile at an address. -/
def tile? (rooms : Rooms) (address : TileAddress) : Option Tile :=
  rooms[address.room]?.bind fun room => room.tile? address.tile

/-- Change the tile at a position of a room, if there is one. -/
def modifyAt (rooms : Rooms) (room position : Nat) (f : Tile → Tile) : Rooms :=
  rooms.modify room fun r => r.modifyAt position f

/-- Change the tile at an address, if it is there. -/
def modifyTile (rooms : Rooms) (address : TileAddress) (f : Tile → Tile) : Rooms :=
  rooms.modify address.room fun room => room.modifyTile address.tile f

/-- The rooms without the tiles marked for removal. -/
def sweep (rooms : Rooms) : Rooms :=
  rooms.map Room.sweep

/-- The ids of the tiles marked for removal, in order. -/
def removedIds (rooms : Rooms) : List TileId :=
  (rooms.tiles.filter (·.removed)).map Tile.id

/-- Number the tiles of all rooms in order from `next`. -/
def numbered : Nat → Rooms → Rooms
  | _, [] => []
  | next, room :: rooms => room.numbered next :: numbered (next + room.tiles.length) rooms

/-- A sweep drops the tiles marked for removal and keeps the order of the others. -/
theorem tiles_sweep (rooms : Rooms) : rooms.sweep.tiles = rooms.tiles.filter (!·.removed) := by
  simp only [sweep, tiles, List.flatMap_map, List.filter_flatMap]
  rfl

/-- After a sweep no tile is marked. -/
@[simp] theorem removedIds_sweep (rooms : Rooms) : rooms.sweep.removedIds = [] := by
  simp [removedIds, tiles_sweep]

/-- The tiles are numbered without gaps, so no two have the same number. -/
theorem ids_numbered (next : Nat) (rooms : Rooms) :
    (numbered next rooms).tiles.map (·.id.index) = List.range' next rooms.tiles.length := by
  induction rooms generalizing next with
  | nil => rfl
  | cons room rooms ih =>
    have hroom : (room.numbered next).tiles.map (·.id.index) =
        List.range' next room.tiles.length := by
      apply List.ext_getElem <;> simp [Room.numbered]
    have htiles : (numbered next (room :: rooms)).tiles =
        (room.numbered next).tiles ++ (numbered (next + room.tiles.length) rooms).tiles := by
      simp [numbered, tiles]
    have hlength : tiles (room :: rooms) = room.tiles ++ tiles rooms := by simp [tiles]
    rw [htiles, List.map_append, hroom, ih, hlength, List.length_append,
      List.range'_append_1]

end Rooms

/-- A world. Sprites, palettes and measures stay as they are, rooms change in play. -/
structure World where
  dimensions : Dimensions
  rooms : Rooms
  sprites : Catalogue
  palettes : List Palette

namespace World

/-- A world of the given parts, its tiles numbered in order. -/
def ofParts (dimensions : Dimensions) (sprites : List Sprite) (palettes : List Palette)
    (rooms : Rooms) : World :=
  ⟨dimensions, Rooms.numbered 0 rooms, ⟨sprites⟩, palettes⟩

/-- The first palette called `name`, and its index. -/
def palette? (w : World) (name : String) : Option (Palette × Nat) :=
  w.palettes.zipIdx.find? fun (p, _) => p.name = name

/-- The number of tiles. -/
def tileCount (w : World) : Nat :=
  w.rooms.tiles.length

end World

end TileAdventure
