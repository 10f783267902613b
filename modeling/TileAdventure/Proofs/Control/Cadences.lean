import TileAdventure.Control.Clock

/-!
# The two cadences of the clock

Of its own, a cadence counts down to its next turn and starts over (`Cadence`). The clock is two
of them side by side: the frames take their turns as time passes, whatever is done to the input
(`map_frame_dues`), and the evaluations of the input take theirs as if there were no frames
(`map_input_dues`). The frame shown counts the turns of the frames, modulo their number
(`frame_run`). So neither cadence notices the other (`cadences_apart`). The times that pass may
be any floats, infinite ones and NaN included.
-/

namespace TileAdventure

namespace Clock

/-- Something done to a clock. -/
inductive Operation where
  | advance (elapsed : Float)
  | resetInput

/-- The time that passes in an operation. -/
def Operation.elapsed? : Operation → Option Float
  | advance elapsed => some elapsed
  | resetInput => none

/-- The times that pass in the course of operations. -/
def times (ops : List Operation) : List Float :=
  ops.filterMap Operation.elapsed?

/-- What becomes due in an operation, if time passes in it. -/
def due? (clock : Clock) : Operation → Option Due
  | .advance elapsed => some (clock.advance elapsed).1
  | .resetInput => none

/-- The clock after an operation. -/
def step (clock : Clock) : Operation → Clock
  | .advance elapsed => (clock.advance elapsed).2
  | .resetInput => clock.resetInput

/-- The clock after operations one after another. -/
def run (clock : Clock) (ops : List Operation) : Clock :=
  ops.foldl step clock

/-- What becomes due in the course of operations, each time that time passes. -/
def dues (clock : Clock) : List Operation → List Due
  | [] => []
  | op :: ops => (clock.due? op).toList ++ (clock.step op).dues ops

variable {clock : Clock} {op : Operation} {ops : List Operation}

@[simp] theorem run_cons (clock : Clock) (op : Operation) (ops : List Operation) :
    clock.run (op :: ops) = (clock.step op).run ops := rfl

/-! ## A cadence of its own -/

/-- A cadence: its period, and the time left to its next turn. -/
structure Cadence where
  period : Float
  left : Float

namespace Cadence

/-- Let time pass: whether the turn has come, and the cadence then. -/
def pass (cadence : Cadence) (elapsed : Float) : Bool × Cadence :=
  let (due, left) := countDown cadence.left elapsed cadence.period
  (due, { cadence with left })

/-- The cadence with its next turn due. -/
def expire (cadence : Cadence) : Cadence :=
  { cadence with left := 0 }

/-- Whether the turn comes, each time that time passes. -/
def turns (cadence : Cadence) : List Operation → List Bool
  | [] => []
  | .advance elapsed :: ops => (cadence.pass elapsed).1 :: (cadence.pass elapsed).2.turns ops
  | .resetInput :: ops => cadence.expire.turns ops

end Cadence

/-- The cadence of the frames. -/
def frames (clock : Clock) : Cadence :=
  ⟨clock.frameInterval, clock.untilFrame⟩

/-- The cadence of the input. -/
def inputs (clock : Clock) : Cadence :=
  ⟨clock.inputInterval, clock.untilInput⟩

/-! ## The clock as two cadences -/

/-- The frames come due as the times that pass let them. -/
theorem map_frame_dues (clock : Clock) (ops : List Operation) :
    (clock.dues ops).map Due.frame = clock.frames.turns ((times ops).map .advance) := by
  induction ops generalizing clock with
  | nil => rfl
  | cons op ops ih =>
    have hrest := ih (clock.step op)
    cases op with
    | advance elapsed => exact congrArg (List.cons _) hrest
    | resetInput => exact hrest

/-- The evaluations of the input come due as the times that pass and the resets let them. -/
theorem map_input_dues (clock : Clock) (ops : List Operation) :
    (clock.dues ops).map Due.input = clock.inputs.turns ops := by
  induction ops generalizing clock with
  | nil => rfl
  | cons op ops ih =>
    have hrest := ih (clock.step op)
    cases op with
    | advance elapsed => exact congrArg (List.cons _) hrest
    | resetInput => exact hrest

/-! ## The frame shown -/

@[simp] theorem frameCount_step (clock : Clock) (op : Operation) :
    (clock.step op).frameCount = clock.frameCount := by
  cases op <;> rfl

/-- The frame moves on by one when it is due, and only then. -/
theorem frame_step (clock : Clock) (op : Operation) (h : clock.frame < clock.frameCount) :
    (clock.step op).frame =
      (clock.frame + (clock.due? op).toList.countP (·.frame)) % clock.frameCount := by
  cases op with
  | advance elapsed =>
    simp only [step, due?, advance]
    cases (countDown clock.untilFrame elapsed clock.frameInterval).1 with
    | true => rfl
    | false => exact (Nat.mod_eq_of_lt h).symm
  | resetInput => exact (Nat.mod_eq_of_lt h).symm

/-- The frame has moved on once for each time that it was due. -/
theorem frame_run (h : clock.frame < clock.frameCount) : (clock.run ops).frame =
    (clock.frame + (clock.dues ops).countP (·.frame)) % clock.frameCount := by
  induction ops generalizing clock with
  | nil => exact (Nat.mod_eq_of_lt h).symm
  | cons op ops ih =>
    have hstep := frame_step clock op h
    have hlt : (clock.step op).frame < (clock.step op).frameCount := by
      rw [hstep, frameCount_step]
      exact Nat.mod_lt _ (Nat.zero_lt_of_lt h)
    rw [run_cons, ih hlt, hstep, frameCount_step, Nat.mod_add_mod, dues, List.countP_append,
      Nat.add_assoc]

@[simp] theorem frame_start (frameInterval inputInterval : Float) (frames : Nat) :
    (start frameInterval inputInterval frames).frame = 0 := rfl

@[simp] theorem frameCount_start (frameInterval inputInterval : Float) (frames : Nat) :
    (start frameInterval inputInterval frames).frameCount = max 1 frames :=
  Nat.max_comm _ _

/-- From the start, the frame shown counts how often a frame was due. -/
theorem frame_run_start (frameInterval inputInterval : Float) (frames : Nat)
    (ops : List Operation) : ((start frameInterval inputInterval frames).run ops).frame =
      ((start frameInterval inputInterval frames).dues ops).countP (·.frame) % max 1 frames := by
  have hlt : (start frameInterval inputInterval frames).frame <
      (start frameInterval inputInterval frames).frameCount := by
    rw [frame_start, frameCount_start]
    omega
  rw [frame_run hlt, frame_start, frameCount_start, Nat.zero_add]

/-- Neither cadence notices the other, after any operations from the start. The frame shown
counts how often a frame was due, modulo the number of frames but at least one. When frames are
due, and so which one is shown, depends on the times that pass alone: not on where the input is
reset in between, nor on its period. When evaluations of the input are due does not depend on the
period of the frames or their number. -/
theorem cadences_apart (frameInterval inputInterval : Float) (frames : Nat)
    (ops : List Operation) :
    (((start frameInterval inputInterval frames).run ops).frame =
        ((start frameInterval inputInterval frames).dues ops).countP (·.frame) % max 1 frames ∧
      ((start frameInterval inputInterval frames).run ops).frame < max 1 frames) ∧
    (∀ (otherInterval : Float) (otherOps : List Operation), times otherOps = times ops →
      ((start frameInterval otherInterval frames).dues otherOps).map Due.frame =
          ((start frameInterval inputInterval frames).dues ops).map Due.frame ∧
        ((start frameInterval otherInterval frames).run otherOps).frame =
          ((start frameInterval inputInterval frames).run ops).frame) ∧
    ∀ (otherInterval : Float) (otherFrames : Nat),
      ((start otherInterval inputInterval otherFrames).dues ops).map Due.input =
        ((start frameInterval inputInterval frames).dues ops).map Due.input := by
  refine ⟨⟨frame_run_start _ _ _ _, ?_⟩, fun otherInterval otherOps htimes => ?_,
    fun otherInterval otherFrames => ?_⟩
  · rw [frame_run_start]
    exact Nat.mod_lt _ (by omega)
  · have hdues : ((start frameInterval otherInterval frames).dues otherOps).map Due.frame =
        ((start frameInterval inputInterval frames).dues ops).map Due.frame := by
      rw [map_frame_dues, map_frame_dues, htimes]
      rfl
    have hcount := congrArg (List.countP id) hdues
    rw [List.countP_map, List.countP_map] at hcount
    refine ⟨hdues, ?_⟩
    rw [frame_run_start, frame_run_start]
    exact congrArg (· % max 1 frames) hcount
  · rw [map_input_dues, map_input_dues]
    rfl

/-- Times that pass, not all of them numbers. -/
def oddTimes : List Operation :=
  [.advance 0, .advance 150, .advance (1 / 0), .advance 400, .advance (0 / 0), .advance 50]

/-- The same times, with the input reset in between. -/
def oddTimesReset : List Operation :=
  [.advance 0, .resetInput, .advance 150, .advance (1 / 0), .advance 400, .advance (0 / 0),
    .resetInput, .resetInput, .advance 50]

/-- Resets and another period of the input change no frame, although they change when the input
is due. -/
theorem cadences_apart_odd :
    times oddTimesReset = times oddTimes ∧
      ((start 400 100 3).dues oddTimesReset).map Due.frame =
        ((start 400 200 3).dues oddTimes).map Due.frame ∧
      ((start 400 100 3).run oddTimesReset).frame = ((start 400 200 3).run oddTimes).frame ∧
      ((start 400 100 3).dues oddTimesReset).map Due.input ≠
        ((start 400 200 3).dues oddTimes).map Due.input := by
  have htimes : times oddTimesReset = times oddTimes := rfl
  obtain ⟨hdues, hframe⟩ := (cadences_apart 400 200 3 oddTimes).2.1 100 oddTimesReset htimes
  exact ⟨htimes, hdues, hframe, by decide⟩

-- Of six times that pass, three show the next frame of three.
example : ((start 400 200 3).dues oddTimes).countP (·.frame) = 3 ∧
    ((start 400 200 3).run oddTimes).frame = 0 := by decide

end Clock

end TileAdventure
