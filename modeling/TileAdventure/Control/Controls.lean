import TileAdventure.Control.Key
import TileAdventure.Control.Pointer

/-!
# Keys and pointer together

The controls turn what the player does into one direction at a time. The key pressed last
decides as long as it is held, and hides the pointer.
-/

namespace TileAdventure

/-- Something the player does. -/
inductive Input where
  /-- A key goes down, or repeats while held. -/
  | keyDown (key : Key) (repeated : Bool)
  | keyUp (key : Key)
  | touch (point : Point)
  | drag (point : Point)
  | lift

/-- The keys held, in the order of their presses, and the pointer. -/
structure Controls where
  held : List Key
  pointer : Pointer
  threshold : Float32

namespace Controls

/-- Nothing held. -/
def ofThreshold (threshold : Float32) : Controls :=
  ⟨[], .idle, threshold⟩

/-- A key is pressed. -/
def press (c : Controls) (key : Key) : Controls :=
  { c with held := c.held ++ [key] }

/-- A key is released, however often it was pressed. -/
def release (c : Controls) (key : Key) : Controls :=
  { c with held := c.held.filter (· ≠ key) }

/-- A touch begins. -/
def touch (c : Controls) (point : Point) : Controls :=
  { c with pointer := c.pointer.touch point }

/-- The pointer moves. -/
def drag (c : Controls) (point : Point) : Controls :=
  { c with pointer := c.pointer.drag point }

/-- The touch ends. -/
def lift (c : Controls) (dialogShowing : Bool) : Lift × Controls :=
  let (lift, pointer) := c.pointer.lift dialogShowing
  (lift, { c with pointer })

/-- The touch ends without effect. -/
def cancel (c : Controls) : Controls :=
  { c with pointer := c.pointer.cancel }

/-- The direction for the next evaluation. -/
def next (c : Controls) : Option Direction × Controls :=
  match c.held.getLast? with
  | some key => (key.direction?, c)
  | none =>
    let (direction, pointer) := c.pointer.next c.threshold
    (direction, { c with pointer })

end Controls

end TileAdventure
