import TileAdventure.Session.Move

/-!
# Confirming a dialog

The player confirms each page of a dialog. Confirming the last one ends the dialog and
resumes what it held back, first come first, until nothing waits or a dialog shows again
(`Session.confirm`).
-/

namespace TileAdventure.Session

/-- Perform an action that was held back. -/
def tryResume (d : Deferred) (s : Session) : Except Halt Outcome × Session :=
  let attempt (setting : Setting) := setting.resume d
  let (result, _, game) := s.game.inScene s.config.depthLimit s.game.state.location attempt
  (result, { s with game })

/-- Resume at most `n` actions, until none waits or a dialog shows again. An action that fails
is undone on its own and dropped; the first failure is kept. -/
def drain : Nat → Option Failure → Session → Except Halt (Option Failure) × Session
  | 0, first, s => (.ok first, s)
  | n + 1, first, s =>
    match s.game.state.gate.next? with
    | none => (.ok first, s)
    | some (d, gate) =>
      let s := { s with game := { s.game with state := { s.game.state with gate } } }
      match s.undoing (tryResume d) with
      | (.ok _, s) => drain n first s
      | (.error (.failed f), s) => drain n (first.or (some f)) s
      | (.error .lostPlace, s) => (.error .lostPlace, s)

/-- End the dialog. -/
def endDialog (s : Session) : Session :=
  let state := { s.game.state with gate := s.game.state.gate.lift }
  { s with game := { s.game with state, stage := s.game.stage.endDialog } }

/-- The player confirms what the dialog shows. Each action that waits is resumed at most once:
one that is resumed defers others only under a dialog of its own. -/
def confirm (s : Session) : Except Halt Unit × Session :=
  if !s.dialogShowing then (.ok (), s)
  else if !s.game.stage.pager.isComplete then
    (.ok (), { s with game := { s.game with stage := s.game.stage.finishPage } })
  else
    match drain s.game.state.gate.queue.length none s.endDialog with
    | (.error halt, s) => (.error halt, s)
    | (.ok none, s) => (.ok (), s.settlePointer)
    | (.ok (some f), s) => (.error (.failed f), s.settlePointer)

end TileAdventure.Session
