import TileAdventure.Grid.Direction

/-!
# Keys

A key is one of the four arrows, which stand for directions, or any other key by its name.
-/

namespace TileAdventure

/-- A key. -/
inductive Key where
  | arrow (direction : Direction)
  | other (name : String)
  deriving DecidableEq, Repr

namespace Key

/-- The key with an identifier. -/
def ofIdentifier : String → Key
  | "ArrowUp" => .arrow .up
  | "ArrowDown" => .arrow .down
  | "ArrowLeft" => .arrow .left
  | "ArrowRight" => .arrow .right
  | name => .other name

/-- The direction of an arrow. -/
def direction? : Key → Option Direction
  | .arrow direction => some direction
  | .other _ => none

/-- Whether the key is an arrow. -/
def isArrow (key : Key) : Bool :=
  key.direction?.isSome

end Key

end TileAdventure
