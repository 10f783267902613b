import TileAdventure.Proofs.Acting.Effect
import TileAdventure.Proofs.Session.Dialogs

/-!
# The order of actions that wait

Actions join the queue at its end and leave it at its front, and undoing takes back just
those that the evaluation has put off. So along a run the actions that were put off for good
are, in order, those that were resumed and then those that still wait (`Step.queue`). Each
one that is resumed is dispatched once, as it was captured (`dispatches_resume`).
-/

namespace TileAdventure

namespace Session

/-- What comes up in a move, once the avatar has turned. -/
def dispatchesInMove (s : Session) (direction : Option Direction) : List Dispatch :=
  match s.game.state.location.step? s.game.world.dimensions direction, s.game.palette? with
  | some target, .ok palette =>
    (s.game.setting palette s.config.depthLimit).dispatchesAtCell
      (s.game.state.avatar.x, s.game.state.avatar.y) (s.game.scene target)
  | _, _ => []

/-- What comes up in resuming an action. -/
def dispatchesInResumption (s : Session) (d : Deferred) : List Dispatch :=
  match s.game.palette? with
  | .ok palette =>
    (s.game.setting palette s.config.depthLimit).dispatches 0 (s.config.depthLimit + 1)
      d.action d.tile d.path (s.game.scene d.target)
  | .error _ => []

end Session

namespace Episode

/-- What comes up in an evaluation. -/
def dispatches (e : Episode) : List Dispatch :=
  match e.evaluation with
  | .move direction => (e.before.turn direction).dispatchesInMove direction
  | .resume d => e.before.dispatchesInResumption d

/-- The actions that an evaluation has put off for good: none if it was undone. -/
def deferrals (e : Episode) : List Deferred :=
  if e.failed then [] else heldBack e.dispatches

end Episode

/-- The actions that were put off for good in evaluations. -/
def deferrals (es : List Episode) : List Deferred :=
  es.flatMap Episode.deferrals

/-- The actions that were taken off the queue and resumed, also those that then failed. -/
def resumptions (es : List Episode) : List Deferred :=
  es.filterMap (·.evaluation.resumed?)

/-! ## What an evaluation puts off -/

namespace Session

/-- A course of a move puts those off that are held back in it. -/
theorem Course.queue {s : Session} {direction : Option Direction}
    {r : Except Halt MoveResult × Session} (h : Course s direction r) :
    r.2.game.state.gate.queue =
      s.game.state.gate.queue ++ heldBack (s.dispatchesInMove direction) := by
  have hscene : ∀ {target palette result scene},
      s.game.state.location.step? s.game.world.dimensions direction = some target →
      s.game.palette? = .ok palette → s.encounter palette target = (result, scene) →
      scene.gate.queue = s.game.state.gate.queue ++ heldBack (s.dispatchesInMove direction) := by
    intro target palette result scene hstep hp hmeet
    have hqueue := (s.game.setting palette s.config.depthLimit).queue_meetCell
      (s.game.state.avatar.x, s.game.state.avatar.y) (s.game.scene target)
    have hscene : ((s.game.setting palette s.config.depthLimit).meetCell
        (s.game.state.avatar.x, s.game.state.avatar.y) (s.game.scene target)).2 = scene :=
      congrArg Prod.snd hmeet
    rw [hscene] at hqueue
    unfold dispatchesInMove
    rw [hstep, hp]
    exact hqueue
  cases h with
  | leftWorld hstep => simp [dispatchesInMove, hstep]
  | unpainted hstep hp => simp [dispatchesInMove, hstep, hp]
  | halted hstep hp hmeet => exact hscene hstep hp hmeet
  | blocked hstep hp hmeet | refused hstep hp hmeet =>
    rw [sweepAfter_game]
    exact hscene hstep hp hmeet
  | moved hstep hp hmeet _ hocc =>
    rw [sweepAfter_game] at hocc
    obtain ⟨-, hgate, -⟩ := Game.occupy_fixed hocc
    dsimp only
    rw [hgate]
    exact hscene hstep hp hmeet

end Session

/-- A resumption puts those off that are held back in it. -/
theorem Session.queue_tryResume (s : Session) (d : Deferred) :
    (tryResume d s).2.game.state.gate.queue =
      s.game.state.gate.queue ++ heldBack (s.dispatchesInResumption d) := by
  unfold dispatchesInResumption
  cases hp : s.game.palette? with
  | error f =>
    rw [tryResume_of_failure hp]
    simp
  | ok palette =>
    rw [tryResume_of_palette hp]
    exact (s.game.setting palette s.config.depthLimit).queue_perform 0
      (s.config.depthLimit + 1) d.action d.tile d.path (s.game.scene d.target)

/-- An evaluation, before any undoing, puts those off that are held back in it. -/
theorem Episode.queue_attempt (e : Episode) :
    (e.evaluation.attempt e.before).2.game.state.gate.queue =
      e.before.game.state.gate.queue ++ heldBack e.dispatches := by
  obtain ⟨s, direction | d⟩ := e
  · obtain ⟨facing, hturn⟩ := s.turn_eq direction
    have hgate : (s.turn direction).game.state.gate = s.game.state.gate := by rw [hturn]
    have hcourse := (s.course_tryMove direction).queue
    rw [hgate] at hcourse
    exact hcourse
  · exact s.queue_tryResume d

/-- An evaluation that returns puts those off for good that are its deferrals. -/
theorem Episode.queue_after {e : Episode} (h : e.result ≠ .error .lostPlace) :
    e.after.game.state.gate.queue = e.before.game.state.gate.queue ++ e.deferrals := by
  rcases e.cases with ⟨_, hresult, -, hafter⟩ | ⟨_, hresult, -, hafter⟩ | ⟨hresult, -, -⟩
  · simp [deferrals, failed, hresult, hafter, e.queue_attempt]
  · have hstate : e.after.game.state = e.before.game.state := by
      rw [hafter]
      rfl
    simp [deferrals, failed, hresult, hstate]
  · exact (h hresult).elim

/-! ## What is resumed -/

/-- An action that is resumed is dispatched, as it was captured, and all other dispatches are
of actions within it. -/
theorem Session.dispatches_resume {s : Session} {d : Deferred}
    (hopen : s.dialogShowing = false) (hplace : Located s.game.world s.game.state) :
    (Episode.dispatches ⟨s, .resume d⟩).filter (·.depth = 0) = [⟨0, d, false⟩] := by
  obtain ⟨palette, hp⟩ := hplace.palette?
  have hgate : (s.game.scene d.target).gate.showing = false := hopen
  obtain ⟨nested, heq, hdeeper⟩ := (s.game.setting palette s.config.depthLimit).dispatches_succ
    0 s.config.depthLimit d.action d.tile d.path (s.game.scene d.target)
  have hnested : nested.filter (·.depth = 0) = [] := by
    refine List.filter_eq_nil_iff.mpr fun x hx => ?_
    have hx : 0 < x.depth := hdeeper x hx
    simp only [decide_eq_true_eq]
    omega
  unfold Episode.dispatches dispatchesInResumption
  dsimp only
  rw [hp]
  dsimp only
  rw [heq, hgate, List.filter_cons_of_pos (by simp), hnested]
  rfl

/-! ## Runs -/

namespace Session

variable {s t : Session} {es : List Episode}

/-- Actions leave the queue at its front and join it at its end. -/
theorem Step.queue (h : Step s es t) :
    resumptions es ++ t.game.state.gate.queue = s.game.state.gate.queue ++ deferrals es := by
  cases h with
  | setting | finishPage | endDialog => exact (List.append_nil _).symm
  | draw =>
    obtain ⟨notices, -, hdraw⟩ := s.game.draw_eq_tell s.avatarName s.clock.frame
    dsimp only
    rw [hdraw]
    exact (List.append_nil _).symm
  | evaluate hbegins hreturn =>
    rw [Episode.queue_after hreturn]
    cases hbegins with
    | move => simp [resumptions, deferrals, Evaluation.resumed?]
    | resume hnext =>
      obtain ⟨-, -, hqueue⟩ := Gate.next?_eq_some hnext
      simp [resumptions, deferrals, Evaluation.resumed?, hqueue, withGate]

theorem Steps.queue (h : Steps s es t) :
    resumptions es ++ t.game.state.gate.queue = s.game.state.gate.queue ++ deferrals es := by
  induction h with
  | refl => exact (List.append_nil _).symm
  | @tail es es' t u _ hstep ih =>
    calc resumptions (es ++ es') ++ u.game.state.gate.queue
        = resumptions es ++ (resumptions es' ++ u.game.state.gate.queue) := by
          simp [resumptions]
      _ = resumptions es ++ t.game.state.gate.queue ++ deferrals es' := by
          rw [hstep.queue, List.append_assoc]
      _ = s.game.state.gate.queue ++ deferrals (es ++ es') := by
          rw [ih, List.append_assoc]
          simp [deferrals]

/-- The actions that wait along a run from the start of a session. Those put off for good
are those resumed and then those that wait, in order; each one resumed is dispatched once,
with its action, tile, path and target as captured; and the summary counts those that
wait. -/
theorem queue_of_run {w : World} {config : Config} {stage : Stage} {s₀ s : Session}
    {es : List Episode} (hstart : start w config stage = .ok s₀) (hrun : Run s₀ es s) :
    deferrals es = resumptions es ++ s.game.state.gate.queue ∧
      (∀ e ∈ es, ∀ d ∈ e.evaluation.resumed?,
        e.dispatches.filter (·.depth = 0) = [⟨0, d, false⟩]) ∧
      s.summary.deferred = (deferrals es).length - (resumptions es).length := by
  have hqueue : deferrals es = resumptions es ++ s.game.state.gate.queue := by
    rw [hrun.steps.queue, (idle_start hstart).1]
    rfl
  refine ⟨hqueue, fun e he d hd => ?_, ?_⟩
  · obtain ⟨es', t, hsteps, hbegins⟩ := begins_of_mem_steps hrun.steps he
    have hplace : Located t.game.world t.game.state :=
      (invariant_located _ _).steps (located_start hstart) hsteps
    cases hbegins with
    | move => cases hd
    | resume hnext =>
      cases hd
      exact dispatches_resume (Gate.next?_eq_some hnext).2.1 hplace
  · rw [hqueue, List.length_append, Nat.add_sub_cancel_left]
    rfl

/-- What the sign put off is resumed when its dialog is confirmed, and nothing waits. -/
theorem queue_of_run_crossing :
    start crossing .default (.ofPageChars 40) = .ok atCrossing ∧
      ∃ es s, Run atCrossing es s ∧ (resumptions es).length = 2 ∧
        deferrals es = resumptions es ++ s.game.state.gate.queue ∧ s.summary.deferred = 0 := by
  have hrun : Run atCrossing _ _ :=
    .call .confirm
      (.call (.move (some .right)) (.call (.move (some .right)) .nil (by decide)) (by decide))
      (by decide)
  have hqueue := queue_of_run start_crossing hrun
  exact ⟨start_crossing, _, _, hrun, rfl, hqueue.1, rfl⟩

end Session

end TileAdventure
