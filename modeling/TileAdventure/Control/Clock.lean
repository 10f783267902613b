/-!
# The clock

The clock splits the time that passes into two cadences: the frames of the animation, and
the evaluations of the input. Each counts down to its next turn on its own, and both start
due. Times are in milliseconds.
-/

namespace TileAdventure

/-- The two cadences: their periods, the time left in each, and the frame shown. -/
structure Clock where
  frameInterval : Float
  inputInterval : Float
  frameCount : Nat
  untilFrame : Float
  untilInput : Float
  frame : Nat

/-- What became due when time passed. -/
structure Due where
  frame : Bool
  input : Bool
  deriving DecidableEq, Repr

namespace Clock

/-- A clock with both cadences due, for an animation of at least one frame. -/
def start (frameInterval inputInterval : Float) (frames : Nat) : Clock where
  frameInterval := frameInterval
  inputInterval := inputInterval
  frameCount := max frames 1
  untilFrame := 0
  untilInput := 0
  frame := 0

/-- Count `left` down by `elapsed`: whether the turn has come, and the time then left. -/
def countDown (left elapsed period : Float) : Bool × Float :=
  let left := left - elapsed
  if left ≤ 0 then (true, period) else (false, left)

/-- Let time pass. -/
def advance (clock : Clock) (elapsed : Float) : Due × Clock :=
  let (frameDue, untilFrame) := countDown clock.untilFrame elapsed clock.frameInterval
  let (inputDue, untilInput) := countDown clock.untilInput elapsed clock.inputInterval
  let frame := if frameDue then (clock.frame + 1) % clock.frameCount else clock.frame
  (⟨frameDue, inputDue⟩, { clock with untilFrame, untilInput, frame })

/-- Make the next evaluation of the input due. -/
def resetInput (clock : Clock) : Clock :=
  { clock with untilInput := 0 }

end Clock

end TileAdventure
