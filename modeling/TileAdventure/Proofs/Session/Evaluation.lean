import TileAdventure.Proofs.Play.Change
import TileAdventure.Session.Confirm

/-!
# Evaluations

An evaluation is a move, or an action that waited and is resumed. It is undone if it fails.
An `Episode` is an evaluation with the session it begins in; all it does and leaves can be
read off (`Episode.result`, `Episode.after`). Whatever an evaluation tries changes the game
by `Game.Change`s only (`Evaluation.changes_attempt`), and what it leaves is either that or
the rooms and the state it began with (`Episode.cases`).
-/

namespace TileAdventure

open Relation

/-- What an evaluation is to do. -/
inductive Evaluation where
  | move (direction : Option Direction)
  /-- Perform an action that was held back. -/
  | resume (d : Deferred)

namespace Evaluation

/-- Try it. The result of a move tells what became of it. -/
def attempt (evaluation : Evaluation) (s : Session) :
    Except Halt (Option MoveResult) × Session :=
  match evaluation with
  | .move direction =>
    ((Session.tryMove direction s).1.map some, (Session.tryMove direction s).2)
  | .resume d =>
    ((Session.tryResume d s).1.map fun _ => none, (Session.tryResume d s).2)

/-- The action that is resumed, if one is. -/
def resumed? : Evaluation → Option Deferred
  | move _ => none
  | resume d => some d

end Evaluation

/-- An evaluation, and the session in which it begins. -/
structure Episode where
  before : Session
  evaluation : Evaluation

namespace Episode

/-- What the evaluation results in. -/
def result (e : Episode) : Except Halt (Option MoveResult) :=
  (e.before.undoing e.evaluation.attempt).1

/-- The session after the evaluation, which is undone if it failed. -/
def after (e : Episode) : Session :=
  (e.before.undoing e.evaluation.attempt).2

/-- Whether the evaluation failed and was undone. -/
def failed (e : Episode) : Bool :=
  match e.result with
  | .ok _ => false
  | .error _ => true

/-- The failure of the evaluation. -/
def failure? (e : Episode) : Option Failure :=
  match e.result with
  | .error (.failed f) => some f
  | _ => none

theorem failure?_eq_some {e : Episode} {f : Failure} :
    e.failure? = some f ↔ e.result = .error (.failed f) := by
  unfold failure?
  split
  · simp [*]
  · rename_i hne
    exact ⟨fun h => (nomatch h), fun h => (hne f h).elim⟩

end Episode

namespace Session

theorem undoing_map {α β : Type} (s : Session) (evaluate : Session → Except Halt α × Session)
    (f : α → β) :
    s.undoing (fun s => ((evaluate s).1.map f, (evaluate s).2)) =
      ((s.undoing evaluate).1.map f, (s.undoing evaluate).2) := by
  unfold undoing
  dsimp only
  rcases evaluate s with ⟨(_ | _) | _, after⟩ <;> rfl

/-- The episode of a move is the move. -/
theorem move_eq (s : Session) (direction : Option Direction) :
    (Episode.result ⟨s, .move direction⟩ = (s.move direction).1.map some) ∧
      Episode.after ⟨s, .move direction⟩ = (s.move direction).2 := by
  have h := s.undoing_map (tryMove direction) some
  exact ⟨congrArg Prod.fst h, congrArg Prod.snd h⟩

/-- The episode of a resumption is the resumption. -/
theorem resume_eq (s : Session) (d : Deferred) :
    (Episode.result ⟨s, .resume d⟩ = (s.undoing (tryResume d)).1.map fun _ => none) ∧
      Episode.after ⟨s, .resume d⟩ = (s.undoing (tryResume d)).2 := by
  have h := s.undoing_map (tryResume d) fun _ => (none : Option MoveResult)
  exact ⟨congrArg Prod.fst h, congrArg Prod.snd h⟩

end Session

/-! ## Outcomes -/

/-- An evaluation succeeds, or fails and is undone, or loses its place. -/
theorem Episode.cases (e : Episode) :
    (∃ move, e.result = .ok move ∧ (e.evaluation.attempt e.before).1 = .ok move ∧
        e.after = (e.evaluation.attempt e.before).2) ∨
      (∃ f, e.result = .error (.failed f) ∧
        (e.evaluation.attempt e.before).1 = .error (.failed f) ∧
        e.after = e.before.restore (e.evaluation.attempt e.before).2) ∨
      e.result = .error .lostPlace ∧ (e.evaluation.attempt e.before).1 = .error .lostPlace ∧
        e.after = (e.evaluation.attempt e.before).2 := by
  unfold result after Session.undoing
  rcases e.evaluation.attempt e.before with ⟨((f | _) | move), after⟩
  · exact Or.inr (Or.inl ⟨f, rfl, rfl, rfl⟩)
  · exact Or.inr (Or.inr ⟨rfl, rfl, rfl⟩)
  · exact Or.inl ⟨move, rfl, rfl, rfl⟩

/-! ## The course of a move -/

namespace Session

/-- The session after a scene. -/
def absorb (s : Session) (scene : Scene) : Session :=
  { s with game := s.game.absorb scene }

/-- The session after a scene whose tiles have been swept. -/
def sweepAfter (s : Session) (scene : Scene) : Session :=
  settlePointer { s with game := (s.game.absorb scene).sweep }

/-- The encounter of a move that leads to `target`. -/
def encounter (s : Session) (palette : Palette) (target : Location) : Attempt Encounter :=
  (s.game.setting palette s.config.depthLimit).meetCell
    (s.game.state.avatar.x, s.game.state.avatar.y) (s.game.scene target)

/-- The ways a move goes once the avatar has turned: what it results in and the session it
leaves, before any undoing. -/
inductive Course (s : Session) (direction : Option Direction) :
    Except Halt MoveResult × Session → Prop
  | leftWorld : s.game.state.location.step? s.game.world.dimensions direction = none →
      Course s direction (.ok .leftWorld, s)
  | unpainted {target : Location} {f : Failure} :
      s.game.state.location.step? s.game.world.dimensions direction = some target →
      s.game.palette? = .error f → Course s direction (.error (.failed f), s)
  | halted {target : Location} {palette : Palette} {halt : Halt} {scene : Scene} :
      s.game.state.location.step? s.game.world.dimensions direction = some target →
      s.game.palette? = .ok palette → s.encounter palette target = (.error halt, scene) →
      Course s direction (.error halt, s.absorb scene)
  | blocked {target : Location} {palette : Palette} {met : Encounter} {scene : Scene} :
      s.game.state.location.step? s.game.world.dimensions direction = some target →
      s.game.palette? = .ok palette → s.encounter palette target = (.ok met, scene) →
      met.passable = false → Course s direction (.ok .blocked, s.sweepAfter scene)
  | refused {target : Location} {palette : Palette} {met : Encounter} {scene : Scene}
      {f : Failure} :
      s.game.state.location.step? s.game.world.dimensions direction = some target →
      s.game.palette? = .ok palette → s.encounter palette target = (.ok met, scene) →
      met.passable = true →
      (s.sweepAfter scene).game.occupy s.avatarName scene.target = .error f →
      Course s direction (.error (.failed f), s.sweepAfter scene)
  | moved {target : Location} {palette : Palette} {met : Encounter} {scene : Scene}
      {entered : Bool} {game : Game} :
      s.game.state.location.step? s.game.world.dimensions direction = some target →
      s.game.palette? = .ok palette → s.encounter palette target = (.ok met, scene) →
      met.passable = true →
      (s.sweepAfter scene).game.occupy s.avatarName scene.target = .ok (entered, game) →
      Course s direction (.ok (.moved entered), { s.sweepAfter scene with game })

@[simp] theorem settlePointer_game (s : Session) : s.settlePointer.game = s.game := by
  unfold settlePointer
  split <;> rfl

@[simp] theorem settlePointer_config (s : Session) : s.settlePointer.config = s.config := by
  unfold settlePointer
  split <;> rfl

@[simp] theorem settlePointer_avatarName (s : Session) :
    s.settlePointer.avatarName = s.avatarName := by
  unfold settlePointer
  split <;> rfl

/-- Turning changes the facing at most. -/
theorem turn_eq (s : Session) (direction : Option Direction) :
    ∃ facing, s.turn direction = { s with game := { s.game with state := { s.game.state with
      avatar := { s.game.state.avatar with facing } } } } := by
  unfold turn
  split
  · exact ⟨s.game.state.avatar.facing, rfl⟩
  · exact ⟨_, rfl⟩

@[simp] theorem sweepAfter_game (s : Session) (scene : Scene) :
    (s.sweepAfter scene).game = (s.game.absorb scene).sweep := by
  rw [sweepAfter, settlePointer_game]

/-- A move takes one of its courses from where the avatar has turned. -/
theorem course_tryMove (s : Session) (direction : Option Direction) :
    Course (s.turn direction) direction (tryMove direction s) := by
  unfold tryMove
  generalize s.turn direction = s
  dsimp only
  cases hstep : s.game.state.location.step? s.game.world.dimensions direction with
  | none => exact .leftWorld hstep
  | some target =>
    dsimp only
    cases hp : s.game.palette? with
    | error f =>
      rw [Game.inScene_of_failure hp]
      exact .unpainted hstep hp
    | ok palette =>
      rw [Game.inScene_of_palette hp]
      rcases hmeet : s.encounter palette target with ⟨halt | met, scene⟩
      · have hrun := hmeet
        unfold encounter at hrun
        rw [hrun]
        exact .halted hstep hp hmeet
      · have hrun := hmeet
        unfold encounter at hrun
        rw [hrun]
        dsimp only
        cases hpass : met.passable with
        | false => exact .blocked hstep hp hmeet hpass
        | true =>
          have hname : (s.sweepAfter scene).avatarName = s.avatarName :=
            settlePointer_avatarName _
          rcases hocc : (s.sweepAfter scene).game.occupy s.avatarName scene.target with
            f | ⟨entered, game⟩
          · have hrefused := hocc
            rw [← hname] at hrefused
            unfold sweepAfter at hrefused
            rw [hrefused]
            exact .refused hstep hp hmeet hpass hocc
          · have hmoved := hocc
            rw [← hname] at hmoved
            unfold sweepAfter at hmoved
            rw [hmoved]
            exact .moved hstep hp hmeet hpass hocc

end Session

/-! ## The course of a resumption -/

namespace Session

/-- The run of an action that is resumed. -/
def resumption (s : Session) (palette : Palette) (d : Deferred) : Attempt Outcome :=
  (s.game.setting palette s.config.depthLimit).run d.action d.tile d.path
    (s.game.scene d.target)

theorem tryResume_of_palette {s : Session} {palette : Palette}
    (h : s.game.palette? = .ok palette) (d : Deferred) :
    tryResume d s = ((s.resumption palette d).1, s.absorb (s.resumption palette d).2) := by
  unfold tryResume
  dsimp only
  rw [Game.inScene_of_palette h]
  rfl

theorem tryResume_of_failure {s : Session} {f : Failure} (h : s.game.palette? = .error f)
    (d : Deferred) : tryResume d s = (.error (.failed f), s) := by
  unfold tryResume
  dsimp only
  rw [Game.inScene_of_failure h]

end Session

/-! ## What an evaluation changes -/

namespace Session

variable {allowed : Action → Prop}

/-- Resuming an action acts in one scene. -/
theorem changes_tryResume (s : Session) {d : Deferred}
    (ha : s.game.world.sprites.Admits allowed) (hd : allowed d.action) :
    Game.Changes s.config.depthLimit allowed s.avatarName s.game (tryResume d s).2.game := by
  cases hp : s.game.palette? with
  | error f => rw [tryResume_of_failure hp]
  | ok palette =>
    rw [tryResume_of_palette hp]
    exact .single (.act hp (Setting.changes_perform ha _ hd _ _ _))

theorem Course.changes {s : Session} {direction : Option Direction}
    {r : Except Halt MoveResult × Session} (h : Course s direction r)
    (ha : s.game.world.sprites.Admits allowed) :
    Game.Changes s.config.depthLimit allowed s.avatarName s.game r.2.game := by
  have hact : ∀ {palette target result scene}, s.game.palette? = .ok palette →
      s.encounter palette target = (result, scene) →
      Game.Changes s.config.depthLimit allowed s.avatarName s.game (s.game.absorb scene) := by
    intro palette target result scene hp hmeet
    have hchanges : Scene.Changes (s.game.setting palette s.config.depthLimit) allowed
        (s.game.scene target) (s.encounter palette target).2 :=
      Setting.changes_meetCell ha _ _
    rw [hmeet] at hchanges
    exact .single (.act hp hchanges)
  cases h with
  | leftWorld | unpainted => exact .refl
  | halted _ hp hmeet => exact hact hp hmeet
  | blocked _ hp hmeet | refused _ hp hmeet =>
    simpa using (hact hp hmeet).tail (.sweep _)
  | moved _ hp hmeet _ hocc =>
    rw [sweepAfter_game] at hocc
    exact ((hact hp hmeet).tail (.sweep _)).tail (.occupy hocc)

/-- A move turns the avatar, acts in one scene, sweeps, and occupies a cell. -/
theorem changes_tryMove (s : Session) (direction : Option Direction)
    (ha : s.game.world.sprites.Admits allowed) :
    Game.Changes s.config.depthLimit allowed s.avatarName s.game
      (tryMove direction s).2.game := by
  have hcourse := s.course_tryMove direction
  obtain ⟨facing, hturn⟩ := s.turn_eq direction
  rw [hturn] at hcourse
  exact .head (.turn s.game facing) (hcourse.changes ha)

theorem tryMove_fixed (s : Session) (direction : Option Direction) :
    (tryMove direction s).2.config = s.config ∧
      (tryMove direction s).2.avatarName = s.avatarName := by
  have hcourse := s.course_tryMove direction
  obtain ⟨facing, hturn⟩ := s.turn_eq direction
  rw [hturn] at hcourse
  generalize tryMove direction s = r at hcourse
  cases hcourse <;> simp [absorb, sweepAfter]

theorem tryResume_fixed (s : Session) (d : Deferred) :
    (tryResume d s).2.config = s.config ∧ (tryResume d s).2.avatarName = s.avatarName :=
  ⟨rfl, rfl⟩

end Session

/-- Whatever an evaluation tries, it changes the game by single changes. -/
theorem Evaluation.changes_attempt {allowed : Action → Prop} (evaluation : Evaluation)
    (s : Session) (ha : s.game.world.sprites.Admits allowed)
    (hd : ∀ d ∈ evaluation.resumed?, allowed d.action) :
    Game.Changes s.config.depthLimit allowed s.avatarName s.game
      (evaluation.attempt s).2.game := by
  cases evaluation with
  | move direction => exact s.changes_tryMove direction ha
  | resume d => exact s.changes_tryResume ha (hd d rfl)

/-- Whatever is allowed, an evaluation makes single changes. -/
theorem Episode.changes_attempt (e : Episode) :
    Game.Changes e.before.config.depthLimit (fun _ => True) e.before.avatarName e.before.game
      (e.evaluation.attempt e.before).2.game :=
  e.evaluation.changes_attempt e.before (Catalogue.admits_true _) fun _ _ => trivial

/-- An evaluation keeps the configuration and the avatar's name. -/
theorem Episode.after_fixed (e : Episode) :
    e.after.config = e.before.config ∧ e.after.avatarName = e.before.avatarName := by
  have hattempt : (e.evaluation.attempt e.before).2.config = e.before.config ∧
      (e.evaluation.attempt e.before).2.avatarName = e.before.avatarName := by
    cases e.evaluation with
    | move direction => exact e.before.tryMove_fixed direction
    | resume d => exact e.before.tryResume_fixed d
  rcases e.cases with ⟨_, _, _, h⟩ | ⟨_, _, _, h⟩ | ⟨_, _, h⟩ <;> rw [h] <;> exact hattempt

end TileAdventure
