import TileAdventure.Grid.Dimensions
import TileAdventure.Grid.Direction

/-!
# Locations and steps

A location is a cell of a room. `Location.step?` takes one step or none from it: past the
edge of a room lies the opposite edge of the neighbouring room, and past the edge of the
world the opposite side of the world if that axis wraps, else nothing.
-/

namespace TileAdventure

/-- A cell of a room. -/
structure Location where
  room : Nat
  x : Int
  y : Int
  deriving DecidableEq, Repr

/-- Move a coordinate that has left `0 ≤ x < extent` by a step to the opposite edge. The
second number is the change of the room's coordinate. -/
def crossEdge (x extent : Int) : Int × Int :=
  let (x, change) := if x < 0 then (extent - 1, -1) else (x, 0)
  if extent ≤ x then (0, change + 1) else (x, change)

/-- Bring a coordinate that has left `0 ≤ n < extent` by a step back to the opposite side,
if the axis wraps. -/
def wrapAxis? (n extent : Int) (wraps : Bool) : Option Int :=
  if n < 0 then if wraps then some (extent - 1) else none
  else if extent ≤ n then if wraps then some 0 else none
  else some n

/-- Where a step in `direction`, or no step, leads from `start`, if it stays in the world. Meant
for a cell of a room, with measures and a count of rooms that fit 32 bits with a sign: then so do
all numbers on the way, for any room numbered below `2 ^ 31 - 1`. -/
def Location.step? (d : Dimensions) (start : Location) (direction : Option Direction) :
    Option Location :=
  let (dx, dy) := (direction.map Direction.delta).getD (0, 0)
  let (column, row) := d.roomCoords start.room
  let (x, columnChange) := crossEdge (start.x + dx) d.roomWidth
  let (y, rowChange) := crossEdge (start.y + dy) d.roomHeight
  match wrapAxis? (column + columnChange) d.worldWidth d.wrapHorizontal,
    wrapAxis? (row + rowChange) d.worldHeight d.wrapVertical with
  | some column, some row => some ⟨d.roomAt column row, x, y⟩
  | _, _ => none

end TileAdventure
