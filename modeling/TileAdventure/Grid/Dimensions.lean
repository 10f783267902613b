import TileAdventure.Power

/-!
# The measures of a world

Every room is a grid of `roomWidth` by `roomHeight` cells, and the rooms form a grid of
`worldWidth` by `worldHeight`, numbered row by row. On each axis the world may wrap.

Measures and coordinates have 32 bits with a sign. What is computed from them here are whole
numbers without bounds, so that definitions say within which range they are meant.
-/

namespace TileAdventure

/-- The measures of a world. -/
structure Dimensions where
  roomWidth : Int
  roomHeight : Int
  worldWidth : Int
  worldHeight : Int
  /-- Whether the columns of rooms form a circle. -/
  wrapHorizontal : Bool
  /-- Whether the rows of rooms form a circle. -/
  wrapVertical : Bool
  spriteWidth : Nat
  spriteHeight : Nat
  deriving DecidableEq, Repr

namespace Dimensions

/-- The side of a sprite where a world gives none. -/
def defaultSpriteSize : Nat := 8

/-- Measures with sprites of the default size. -/
def ofGrid (roomWidth roomHeight worldWidth worldHeight : Int)
    (wrapHorizontal wrapVertical : Bool) : Dimensions :=
  ⟨roomWidth, roomHeight, worldWidth, worldHeight, wrapHorizontal, wrapVertical,
    defaultSpriteSize, defaultSpriteSize⟩

/-- The low 32 bits of a number, as a signed number. -/
def signedLow (n : Nat) : Int :=
  let low : Nat := n % 2 ^ 32
  if low < 2 ^ 31 then (low : Int) else low - 2 ^ 32

theorem signedLow_of_lt {n : Nat} (h : n < 2 ^ 31) : signedLow n = n := by
  have hmod : n % 2 ^ 32 = n := Nat.mod_eq_of_lt (by omega)
  unfold signedLow
  dsimp only
  rw [hmod, if_pos h]

/-- The column and row of room `room` in the world's grid. Of the number only the low 32
bits count, as a signed number. -/
def roomCoords (d : Dimensions) (room : Nat) : Int × Int :=
  let n := signedLow room
  (Int.tmod n d.worldWidth, Int.tdiv n d.worldWidth)

/-- The room at a column and row of the world's grid. Before the first room the numbers
count down from `2 ^ 64`. Meant for numbers that fit 32 bits with a sign, as those of all rooms
do if their count fits. -/
def roomAt (d : Dimensions) (column row : Int) : Nat :=
  let n := row * d.worldWidth + column
  if 0 ≤ n then n.toNat else (n + 2 ^ 64).toNat

/-- Whether `(x, y)` is a cell of a room. -/
def containsCell (d : Dimensions) (x y : Int) : Bool :=
  0 ≤ x && x < d.roomWidth && 0 ≤ y && y < d.roomHeight

/-- The measures that have to be positive, with their names, in order. -/
def extents (d : Dimensions) : List (String × Int) :=
  [("roomWidth", d.roomWidth), ("roomHeight", d.roomHeight), ("worldWidth", d.worldWidth),
    ("worldHeight", d.worldHeight)]

/-- The first measure that is not positive. -/
def improper? (d : Dimensions) : Option (String × Int) :=
  d.extents.find? fun (_, value) => value ≤ 0

end Dimensions

end TileAdventure
