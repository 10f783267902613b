/-!
# Directions

The four directions of movement, the facing that a move along a row gives the avatar, and
the direction of a drag (`Direction.ofDrag`).
-/

namespace TileAdventure

/-- Which way the avatar looks. -/
inductive Facing where
  | left
  | right
  deriving DecidableEq, Repr

namespace Facing

/-- Whether the avatar is drawn flipped. -/
def isFlipped (f : Facing) : Bool :=
  f = .left

/-- The word for a facing. -/
def name : Facing → String
  | .left => "left"
  | .right => "right"

end Facing

/-- A direction of movement. -/
inductive Direction where
  | up
  | down
  | left
  | right
  deriving DecidableEq, Repr

namespace Direction

/-- The change of column and row. -/
def delta : Direction → Int × Int
  | .up => (0, -1)
  | .down => (0, 1)
  | .left => (-1, 0)
  | .right => (1, 0)

/-- The facing a move leads to. Only moves along a row turn the avatar. -/
def facing? : Direction → Option Facing
  | .left => some .left
  | .right => some .right
  | .up | .down => none

/-- Degrees in a radian. -/
def degreesPerRadian : Float32 := Float32.ofBits 0x42652EE1

/-- The direction of a drag, by its angle in degrees past the negative x axis, with y
downwards: a quadrant around each axis, which has its upper border. An angle that is not a
number counts as left. -/
def ofDrag (dx dy : Float32) : Direction :=
  let angle := Float32.atan2 dy dx * degreesPerRadian + 180
  if 45 < angle && angle ≤ 135 then .up
  else if 135 < angle && angle ≤ 225 then .right
  else if 225 < angle && angle ≤ 315 then .down
  else .left

end Direction

end TileAdventure
