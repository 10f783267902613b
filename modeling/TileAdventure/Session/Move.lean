import TileAdventure.Acting.Encounter
import TileAdventure.Session.Basic

/-!
# Moves

A move turns the avatar, finds the cell it leads to, lets the avatar meet the tiles there,
sweeps the tiles that are to go, and occupies the cell (`Session.tryMove`). Such an
evaluation is undone if it fails (`Session.undoing`): rooms and state are as before it, and a
dialog it began is ended.
-/

namespace TileAdventure

/-- What became of a move. -/
inductive MoveResult where
  /-- The avatar moved, perhaps into another room. -/
  | moved (enteredRoom : Bool)
  /-- A wall was in the way. -/
  | blocked
  /-- The move led out of the world. -/
  | leftWorld
  deriving DecidableEq, Repr

namespace Session

/-! ## Undoing -/

/-- Go back to the rooms and the state of `before`. A dialog that has begun since is
ended. -/
def restore (before after : Session) : Session :=
  let game := after.game
  let opened := after.dialogShowing && !before.dialogShowing
  { after with
    game := {
      game with
      world := { game.world with rooms := before.game.world.rooms }
      state := before.game.state
      stage := if opened then game.stage.endDialog else game.stage } }

/-- Make an evaluation, and undo it if it fails. -/
def undoing {α : Type} (s : Session) (evaluate : Session → Except Halt α × Session) :
    Except Halt α × Session :=
  match evaluate s with
  | (.error (.failed f), after) => (.error (.failed f), s.restore after)
  | result => result

/-- If a dialog shows, end the touch under way, so that lifting it confirms nothing. -/
def settlePointer (s : Session) : Session :=
  if s.dialogShowing then { s with controls := s.controls.cancel } else s

/-! ## Moving -/

/-- Turn the avatar the way of a move along a row. -/
def turn (s : Session) (direction : Option Direction) : Session :=
  match direction.bind Direction.facing? with
  | none => s
  | some facing =>
    let state := { s.game.state with avatar := { s.game.state.avatar with facing } }
    { s with game := { s.game with state } }

/-- Evaluate a move in `direction` or, without one, the avatar's own cell. -/
def tryMove (direction : Option Direction) (s : Session) : Except Halt MoveResult × Session :=
  let s := s.turn direction
  let state := s.game.state
  match state.location.step? s.game.world.dimensions direction with
  | none => (.ok .leftWorld, s)
  | some target =>
    let meet (setting : Setting) := setting.meetCell (state.avatar.x, state.avatar.y)
    match s.game.inScene s.config.depthLimit target meet with
    | (.error halt, _, game) => (.error halt, { s with game })
    | (.ok met, target, game) =>
      let s := settlePointer { s with game := game.sweep }
      if !met.passable then (.ok .blocked, s)
      else
        match s.game.occupy s.avatarName target with
        | .error f => (.error (.failed f), s)
        | .ok (entered, game) => (.ok (.moved entered), { s with game })

/-- Evaluate a move, and undo it if it fails. -/
def move (s : Session) (direction : Option Direction) : Except Halt MoveResult × Session :=
  s.undoing (tryMove direction)

end Session

end TileAdventure
