import TileAdventure.Proofs.Session.Place

/-!
# Gate, dialog and queue

Undoing goes back to the gate as it was, and the dialog is told separately. Still the calls
that the dialog gets stay in step with the gate (`Step.logs`): an evaluation begins at most
one dialog, and if it fails after that the dialog is ended (`Episode.logs`). After each call
no action waits unless a dialog shows to release it (`settled_call`), since draining goes on
until the queue is empty or the gate is closed again.
-/

namespace TileAdventure

/-! ## Calls of the dialog -/

namespace Episode

/-- An evaluation begins at most one dialog, and keeps the dialog in step with the gate, also
if it fails. -/
theorem logs (e : Episode) :
    ∃ calls, e.before.game.stage.Logs e.after.game.stage calls ∧ calls.count .began ≤ 1 ∧
      ∀ earlier, InStep earlier e.before.dialogShowing →
        InStep (earlier ++ calls) e.after.dialogShowing := by
  obtain ⟨calls, hlogs, hopens⟩ := (Game.Changes.opening e.changes_attempt).opens
  rcases e.cases with ⟨_, -, -, hafter⟩ | ⟨_, -, -, hafter⟩ | ⟨-, -, hafter⟩
  · rw [hafter]
    exact ⟨calls, hlogs, hopens.count_began_le, fun _ => hopens.inStep⟩
  · have hshowing : (e.before.restore (e.evaluation.attempt e.before).2).dialogShowing =
        e.before.dialogShowing := rfl
    rw [hafter, hshowing]
    rcases hopens with ⟨rfl, hsame⟩ | ⟨rfl, hclosed, hopened⟩
    · have hstage : (e.before.restore (e.evaluation.attempt e.before).2).game.stage =
          (e.evaluation.attempt e.before).2.game.stage := by
        simp [Session.restore, Session.dialogShowing, hsame]
      exact ⟨[], hstage ▸ hlogs, by simp, fun earlier h => by simpa using h⟩
    · have hstage : (e.before.restore (e.evaluation.attempt e.before).2).game.stage =
          (e.evaluation.attempt e.before).2.game.stage.endDialog := by
        simp [Session.restore, Session.dialogShowing, hclosed, hopened]
      refine ⟨[.began, .ended], ?_, by decide, fun earlier h => ?_⟩
      · rw [hstage]
        exact hlogs.trans (Stage.logs_endDialog _)
      · have hfalse : e.before.dialogShowing = false := hclosed
        rw [hfalse] at h ⊢
        simpa using h.began.ended
  · rw [hafter]
    exact ⟨calls, hlogs, hopens.count_began_le, fun _ => hopens.inStep⟩

end Episode

namespace Session

variable {s t : Session} {es : List Episode}

/-- Each step keeps the dialog in step with the gate. -/
theorem Step.logs (h : Step s es t) :
    ∃ calls, s.game.stage.Logs t.game.stage calls ∧
      ∀ earlier, InStep earlier s.dialogShowing →
        InStep (earlier ++ calls) t.dialogShowing := by
  cases h with
  | setting => exact ⟨[], .refl _, fun earlier h => (List.append_nil earlier).symm ▸ h⟩
  | draw =>
    have hquiet := s.game.quiet_draw s.avatarName s.clock.frame
    obtain ⟨notices, -, hdraw⟩ := s.game.draw_eq_tell s.avatarName s.clock.frame
    dsimp only
    rw [hdraw] at hquiet ⊢
    exact ⟨[], hquiet.logs, fun earlier h =>
      (List.append_nil earlier).symm ▸ h⟩
  | finishPage hs =>
    refine ⟨[.paged], s.game.stage.logs_finishPage, fun earlier h => ?_⟩
    have hshowing : s.game.state.gate.showing = true := hs
    rw [dialogShowing, hshowing] at h ⊢
    exact h.paged
  | endDialog hs =>
    refine ⟨[.ended], s.game.stage.logs_endDialog, fun earlier h => ?_⟩
    rw [hs] at h
    exact h.ended
  | evaluate hbegins =>
    rename_i e _
    obtain ⟨calls, hlogs, -, hstep⟩ := e.logs
    cases hbegins with
    | move => exact ⟨calls, hlogs, hstep⟩
    | resume hnext =>
      obtain ⟨hopen, hopen', -⟩ := Gate.next?_eq_some hnext
      refine ⟨calls, hlogs, fun earlier h => hstep earlier ?_⟩
      rw [dialogShowing, hopen] at h
      rw [dialogShowing, withGate, hopen']
      exact h

theorem Steps.logs (h : Steps s es t) :
    ∃ calls, s.game.stage.Logs t.game.stage calls ∧
      ∀ earlier, InStep earlier s.dialogShowing →
        InStep (earlier ++ calls) t.dialogShowing := by
  induction h with
  | refl => exact ⟨[], .refl _, fun earlier h => by simpa using h⟩
  | tail _ hstep ih =>
    obtain ⟨calls, hlogs, hkeep⟩ := ih
    obtain ⟨more, hlogs', hkeep'⟩ := hstep.logs
    refine ⟨calls ++ more, hlogs.trans hlogs', fun earlier h => ?_⟩
    simpa using hkeep' _ (hkeep earlier h)

/-! ## Actions that wait -/

/-- No action waits unless a dialog shows. -/
def Settled (s : Session) : Prop :=
  s.game.state.gate.queue ≠ [] → s.dialogShowing = true

theorem Settled.of_game (h : s.Settled) (hgame : t.game = s.game) : t.Settled := by
  unfold Settled dialogShowing at h ⊢
  rwa [hgame]

/-- An evaluation that ends without a dialog began without one, and has put nothing off. -/
theorem queue_after {e : Episode} (h : e.after.dialogShowing = false) :
    e.before.dialogShowing = false ∧
      e.after.game.state.gate.queue = e.before.game.state.gate.queue := by
  have hattempt := Game.Changes.queue e.changes_attempt
  rcases e.cases with ⟨_, -, -, hafter⟩ | ⟨_, -, -, hafter⟩ | ⟨-, -, hafter⟩
  · rw [hafter] at h ⊢
    exact hattempt h
  · rw [hafter] at h ⊢
    exact ⟨h, rfl⟩
  · rw [hafter] at h ⊢
    exact hattempt h

theorem settled_after {e : Episode} (h : e.before.Settled) : e.after.Settled := by
  intro hqueue
  by_contra hshowing
  obtain ⟨hbefore, hsame⟩ := queue_after (Bool.eq_false_iff.mpr hshowing)
  rw [hsame] at hqueue
  exact Bool.eq_false_iff.mp hbefore (h hqueue)

/-- Draining at most `n` actions stops only where no action can be resumed: a dialog shows, or
no more than `n` actions wait. -/
def Suffices (n : Nat) (s : Session) : Prop :=
  s.dialogShowing = true ∨ s.game.state.gate.queue.length ≤ n

/-- Without a dialog a resumption has put nothing off, so one action fewer waits after it. -/
theorem Suffices.after {n : Nat} {s : Session} {d : Deferred} {gate : Gate}
    (h : Suffices (n + 1) s) (hnext : s.game.state.gate.next? = some (d, gate)) :
    Suffices n (Episode.after ⟨s.withGate gate, .resume d⟩) := by
  obtain ⟨hopen, -, hqueue⟩ := Gate.next?_eq_some hnext
  cases hshowing : (Episode.after ⟨s.withGate gate, .resume d⟩).dialogShowing with
  | true => exact Or.inl hshowing
  | false =>
    have hlength : s.game.state.gate.queue.length ≤ n + 1 :=
      h.resolve_left (by simp [dialogShowing, hopen])
    rw [hqueue, List.length_cons] at hlength
    right
    rw [(queue_after hshowing).2]
    exact Nat.le_of_succ_le_succ hlength

theorem Suffices.next?_eq_none {n : Nat} {s : Session} (h : Suffices n s)
    (hstop : n = 0 ∨ s.game.state.gate.next? = none) : s.game.state.gate.next? = none := by
  rcases hstop with rfl | hnext
  · exact Gate.next?_eq_none.mpr (h.imp id fun hlength => by simpa using hlength)
  · exact hnext

/-- Draining ends with nothing waiting, or under a dialog, if it may take as many actions as
there are. -/
theorem Draining.settled {n : Nat} {first : Option Failure} {s : Session} {es : List Episode}
    {r : Except Halt (Option Failure) × Session} (h : Draining n first s r es)
    (hs : Suffices n s) (hreturn : r.1 ≠ .error .lostPlace) : r.2.Settled := by
  induction h with
  | stopped hstop =>
    exact fun hqueue => (Gate.next?_eq_none.mp (hs.next?_eq_none hstop)).resolve_right hqueue
  | lost => exact (hreturn rfl).elim
  | resumed hnext _ _ ih => exact ih (hs.after hnext) hreturn

theorem Confirmation.settled {s : Session} {es : List Episode} {r : Except Halt Unit × Session}
    (h : Confirmation s r es) (hs : s.Settled) (hreturn : r.1 ≠ .error .lostPlace) :
    r.2.Settled := by
  cases h with
  | nothing | page => exact hs
  | halted _ hdraining =>
    exact hdraining.settled (Or.inr (Nat.le_refl _)) (by simpa using hreturn)
  | @drained _ t _ _ hdraining =>
    exact (hdraining.settled (Or.inr (Nat.le_refl _)) (by simp)).of_game t.sets_settlePointer.game

theorem settled_move {s : Session} (h : s.Settled) (direction : Option Direction) :
    (s.move direction).2.Settled := by
  rw [← (s.move_eq direction).2]
  exact settled_after h

/-- After a call that returns, no action waits unless a dialog shows. -/
theorem settled_call {s : Session} {c : Call} (h : s.Settled)
    (hreturn : (s.call c).1 ≠ .error .lostPlace) : (s.call c).2.Settled := by
  cases c with
  | handle input =>
    have hhandle : (s.handle input).1 ≠ .error .lostPlace := mt map_eq_error.mpr hreturn
    rcases s.handle_cases input with ⟨t, -, hsets, heq⟩ | ⟨-, -, hsets⟩
    · have hconfirm : t.confirm.2.Settled :=
        t.confirmation.settled (h.of_game hsets.game) (heq ▸ hhandle)
      rw [← heq] at hconfirm
      exact hconfirm
    · exact h.of_game hsets.game
  | tick elapsed =>
    have heval : ((s.elapse elapsed).2.evaluateInput (s.elapse elapsed).1).2.Settled := by
      rcases (s.elapse elapsed).2.evaluateInput_cases (s.elapse elapsed).1 with
        ⟨-, heq⟩ | ⟨e, -, hsets, -, -, hafter⟩
      · rw [heq]
        exact h.of_game (s.sets_elapse elapsed).game
      · rw [hafter]
        exact settled_after ((h.of_game (s.sets_elapse elapsed).game).of_game hsets.game)
    rcases s.tick_cases elapsed with ⟨halt, -, htick⟩ | ⟨move, -, hafter, -⟩
    · simpa [call, htick] using heval
    · have hcall : (s.call (.tick elapsed)).2 = (s.tick elapsed).2 := rfl
      rw [hcall, hafter]
      generalize (evaluateInput _ _).2 = t at heval ⊢
      obtain ⟨notices, -, hdraw⟩ := t.game.draw_eq_tell t.avatarName t.clock.frame
      rw [hdraw]
      exact heval
  | confirm => exact s.confirmation.settled h (mt map_eq_error.mpr hreturn)
  | move direction => exact settled_move h direction

/-! ## Runs -/

/-- A session starts without a dialog, with nothing waiting, and the dialog has not been
called. -/
theorem idle_start {w : World} {config : Config} {stage : Stage} {s : Session}
    (h : start w config stage = .ok s) :
    s.game.state.gate = .idle ∧ stage.Logs s.game.stage [] := by
  unfold start at h
  split at h
  · cases h
  · obtain ⟨game, hgame, h⟩ := bind_eq_ok.mp h
    cases h
    obtain ⟨_, palette, _, avatar, sprites, -, -, -, -, rfl⟩ := Game.enterRoom_eq_ok hgame
    exact ⟨rfl, stage.logs_tell
      (dialogCalls_of_mute (Game.mute_entryNotices sprites avatar palette))⟩

theorem settled_run {s t : Session} {es : List Episode} (h : Run s es t) (hs : s.Settled) :
    t.Settled := by
  induction h with
  | nil => exact hs
  | call c _ hreturn ih => exact settled_call ih hreturn

/-- Dialogs along a run from the start of a session. The calls of the dialog in the log are
in step with the gate, no action waits unless a dialog shows, and an evaluation begins at
most one dialog. -/
theorem dialogs_of_run {w : World} {config : Config} {stage : Stage} {s₀ s : Session}
    {es : List Episode} (hstart : start w config stage = .ok s₀) (hrun : Run s₀ es s) :
    (∃ notices, s.game.stage.log = stage.log ++ notices ∧
        InStep (dialogCalls notices) s.dialogShowing) ∧
      (s.game.state.gate.queue ≠ [] → s.dialogShowing = true) ∧
      ∀ e : Episode, ∃ notices, e.after.game.stage.log = e.before.game.stage.log ++ notices ∧
        (dialogCalls notices).count .began ≤ 1 := by
  obtain ⟨hidle, hlogs⟩ := idle_start hstart
  refine ⟨?_, ?_, fun e => ?_⟩
  · obtain ⟨calls, hlogs', hkeep⟩ := hrun.steps.logs
    obtain ⟨notices, hlog, hcalls⟩ := hlogs.trans hlogs'
    refine ⟨notices, hlog, ?_⟩
    rw [hcalls]
    refine hkeep [] ?_
    rw [dialogShowing, hidle]
    exact .nil
  · exact settled_run hrun fun hqueue => by simp [hidle, Gate.idle] at hqueue
  · obtain ⟨calls, ⟨notices, hlog, rfl⟩, hcount, -⟩ := e.logs
    exact ⟨notices, hlog, hcount⟩

/-- The sign begins a dialog, which then shows, with two actions waiting. -/
theorem dialogs_of_run_crossing :
    start crossing .default (.ofPageChars 40) = .ok atCrossing ∧
      ∃ es s, Run atCrossing es s ∧ s.game.state.gate.queue.length = 2 ∧
        s.dialogShowing = true ∧
        ∃ notices, s.game.stage.log = (Stage.ofPageChars 40).log ++ notices ∧
          InStep (dialogCalls notices) true := by
  have hrun : Run atCrossing _ _ :=
    .call (.move (some .right)) (.call (.move (some .right)) .nil (by decide)) (by decide)
  have hdialogs := dialogs_of_run start_crossing hrun
  exact ⟨start_crossing, _, _, hrun, rfl, rfl, hdialogs.1⟩

end Session

end TileAdventure
