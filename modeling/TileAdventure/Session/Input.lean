import TileAdventure.Session.Confirm

/-!
# Input and time

A session takes what the player does (`Session.handle`) and lets time pass (`Session.tick`).
While a dialog shows, an arrow key or the end of a touch confirms it, and no move is
evaluated.
-/

namespace TileAdventure

/-- What the passing of time did. -/
structure TickReport where
  frameAdvanced : Bool
  /-- The frame of the animation that shows. -/
  frame : Nat
  /-- What became of the move, if one was evaluated. -/
  move : Option MoveResult
  deriving DecidableEq, Repr

namespace Session

/-- Make the next evaluation of the input due. -/
def resetInput (s : Session) : Session :=
  { s with clock := s.clock.resetInput }

/-- Take what the player does. -/
def handle (s : Session) (input : Input) : Except Halt Unit × Session :=
  match input with
  | .keyDown _ true => (.ok (), s)
  | .keyDown key false =>
    if s.dialogShowing then if key.isArrow then s.confirm else (.ok (), s)
    else (.ok (), resetInput { s with controls := s.controls.press key })
  | .keyUp key => (.ok (), { s with controls := s.controls.release key })
  | .touch point => (.ok (), resetInput { s with controls := s.controls.touch point })
  | .drag point => (.ok (), { s with controls := s.controls.drag point })
  | .lift =>
    let (lift, controls) := s.controls.lift s.dialogShowing
    let s := { s with controls }
    match lift with
    | .notDown => (.ok (), s)
    | .released => if s.dialogShowing then s.confirm else (.ok (), s)
    | .replayArmed => (.ok (), s.resetInput)

/-- Evaluate the move that the controls ask for, if one is due and no dialog shows. -/
def evaluateInput (s : Session) (due : Bool) : Except Halt (Option MoveResult) × Session :=
  if due && !s.dialogShowing then
    let (direction, controls) := s.controls.next
    let (result, s) := { s with controls }.move direction
    (result.map some, s)
  else (.ok none, s)

/-- Let time pass, evaluate the input if due, and draw. -/
def tick (s : Session) (elapsed : Float) : Except Halt TickReport × Session :=
  let (due, clock) := s.clock.advance elapsed
  match { s with clock }.evaluateInput due.input with
  | (.error halt, s) => (.error halt, s)
  | (.ok move, s) =>
    let (drawn, game) := s.game.draw s.avatarName s.clock.frame
    let report : TickReport := ⟨due.frame, s.clock.frame, move⟩
    ((drawn.map fun _ => report).mapError .failed, { s with game })

end Session

end TileAdventure
