import TileAdventure.Grid.Direction

/-!
# The pointer

A touch begins at a point, drags to others and is lifted. A drag longer than the threshold
gives a direction as often as it is asked for one while the touch lasts, and once more
afterwards if it was never asked before it was lifted.
-/

namespace TileAdventure

/-- A point of the screen. -/
structure Point where
  x : Float32
  y : Float32

/-- The state of the pointer. -/
structure Pointer where
  isDown : Bool
  start : Point
  finish : Point
  /-- How many directions the touch has given. -/
  moves : Nat
  /-- Whether a lifted drag waits to be replayed. -/
  replay : Bool

/-- What lifting the pointer does. -/
inductive Lift where
  | notDown
  | released
  /-- The drag had given no direction yet and will be replayed. -/
  | replayArmed
  deriving DecidableEq, Repr

namespace Pointer

/-- A pointer that has touched nothing. -/
def idle : Pointer :=
  ⟨false, ⟨0, 0⟩, ⟨0, 0⟩, 0, false⟩

/-- A touch begins. -/
def touch (p : Pointer) (point : Point) : Pointer :=
  { p with isDown := true, moves := 0, start := point, finish := point }

/-- The pointer moves. -/
def drag (p : Pointer) (point : Point) : Pointer :=
  if p.isDown then { p with finish := point } else p

/-- The touch ends without effect. -/
def cancel (p : Pointer) : Pointer :=
  { p with isDown := false }

/-- The touch ends. Where that confirms a dialog, nothing is replayed. -/
def lift (p : Pointer) (dialogShowing : Bool) : Lift × Pointer :=
  if p.isDown then
    if !dialogShowing && p.moves = 0 then (.replayArmed, { p with isDown := false, replay := true })
    else (.released, { p with isDown := false })
  else (.notDown, p)

/-- The direction of the drag, unless it is no longer than `threshold`. -/
def drag? (p : Pointer) (threshold : Float32) : Option Direction :=
  let dx := p.finish.x - p.start.x
  let dy := p.finish.y - p.start.y
  if dx * dx + dy * dy ≤ threshold * threshold then none else some (.ofDrag dx dy)

/-- The direction for the next evaluation. -/
def next (p : Pointer) (threshold : Float32) : Option Direction × Pointer :=
  if p.isDown || p.replay then
    match p.drag? threshold with
    | some direction => (some direction, { p with moves := p.moves + 1, replay := false })
    | none => (none, p)
  else (none, p)

end Pointer

end TileAdventure
