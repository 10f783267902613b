import TileAdventure.Proofs.Session.Evaluation
import TileAdventure.Session.Input

/-!
# Runs of a session

The host makes calls of a session, in any order (`Call`). A run is any number of calls that
all return, each of them succeeding or failing (`Run`); a call that loses the place of a
sequence does not return. Along a run stand the episodes of its calls in order.

A call is made of few kinds of steps (`Step`): it sets controls and clock, draws, finishes
a page, ends a dialog, or makes an evaluation. `steps_call` says so of every call that
returns, and `Run.steps` of every run. What each step keeps, every run keeps. How a
confirmation goes, and how it drains the queue, is told case by case (`Confirmation`,
`Draining`), and what holds of either is shown along these cases.
-/

namespace TileAdventure

/-- What the host asks of a session. -/
inductive Call where
  | handle (input : Input)
  | tick (elapsed : Float)
  | confirm
  | move (direction : Option Direction)

/-- What a call that succeeds gives back. -/
inductive Answer where
  | done
  | ticked (report : TickReport)
  | moved (result : MoveResult)
  deriving DecidableEq, Repr

theorem singleton_eq_append_cons {α : Type} {a b : α} {xs ys : List α}
    (h : [a] = xs ++ b :: ys) : xs = [] ∧ a = b ∧ ys = [] := by
  cases xs with
  | nil => exact ⟨rfl, (List.cons.inj h).1, (List.cons.inj h).2.symm⟩
  | cons x xs => simp at h

namespace Session

/-- Make a call. -/
def call (s : Session) : Call → Except Halt Answer × Session
  | .handle input => ((s.handle input).1.map fun _ => .done, (s.handle input).2)
  | .tick elapsed => ((s.tick elapsed).1.map .ticked, (s.tick elapsed).2)
  | .confirm => (s.confirm.1.map fun _ => .done, s.confirm.2)
  | .move direction => ((s.move direction).1.map .moved, (s.move direction).2)

/-! ## The episodes of a call -/

/-- The session with another gate. -/
def withGate (s : Session) (gate : Gate) : Session :=
  { s with game := { s.game with state := { s.game.state with gate } } }

/-- The resumptions of at most `n` actions that wait. -/
def drainEpisodes : Nat → Session → List Episode
  | 0, _ => []
  | n + 1, s =>
    match s.game.state.gate.next? with
    | none => []
    | some (d, gate) =>
      let e : Episode := ⟨s.withGate gate, .resume d⟩
      if e.result = .error .lostPlace then [e] else e :: drainEpisodes n e.after

/-- The resumptions by which a confirmation goes on. -/
def confirmEpisodes (s : Session) : List Episode :=
  if s.dialogShowing && s.game.stage.pager.isComplete then
    drainEpisodes s.game.state.gate.queue.length s.endDialog
  else []

/-- The session that an input confirms, if it is a confirmation. -/
def confirmedBy? (s : Session) : Input → Option Session
  | .keyDown key false => if s.dialogShowing && key.isArrow then some s else none
  | .lift =>
    let (lift, controls) := s.controls.lift s.dialogShowing
    if lift = .released && s.dialogShowing then some { s with controls } else none
  | _ => none

/-- The evaluation of the input that is due. -/
def inputEpisodes (s : Session) (due : Bool) : List Episode :=
  if due && !s.dialogShowing then
    let (direction, controls) := s.controls.next
    [⟨{ s with controls }, .move direction⟩]
  else []

/-- The session when time has passed, and whether the input is due. -/
def elapse (s : Session) (elapsed : Float) : Bool × Session :=
  let (due, clock) := s.clock.advance elapsed
  (due.input, { s with clock })

/-- The evaluations that a call makes, in order. -/
def episodes (s : Session) : Call → List Episode
  | .handle input => ((s.confirmedBy? input).map confirmEpisodes).getD []
  | .tick elapsed => (s.elapse elapsed).2.inputEpisodes (s.elapse elapsed).1
  | .confirm => s.confirmEpisodes
  | .move direction => [⟨s, .move direction⟩]

/-- A run of calls that return leads from a session to another, with these episodes. -/
inductive Run (s : Session) : List Episode → Session → Prop
  | nil : Run s [] s
  | call {es : List Episode} {t : Session} (c : Call) : Run s es t →
      (t.call c).1 ≠ .error .lostPlace → Run s (es ++ t.episodes c) (t.call c).2

/-! ## Steps -/

/-- An evaluation can begin in a session: a move always, and a resumption as soon as its
action comes off the queue. -/
inductive Begins : Session → Episode → Prop
  | move (s : Session) (direction : Option Direction) : Begins s ⟨s, .move direction⟩
  | resume {s : Session} {d : Deferred} {gate : Gate} :
      s.game.state.gate.next? = some (d, gate) → Begins s ⟨s.withGate gate, .resume d⟩

/-- One step in the course of a call, with the evaluation it makes, if any. -/
inductive Step : Session → List Episode → Session → Prop
  | setting (s : Session) (controls : Controls) (clock : Clock) :
      Step s [] { s with controls, clock }
  | draw (s : Session) :
      Step s [] { s with game := (s.game.draw s.avatarName s.clock.frame).2 }
  | finishPage (s : Session) : s.dialogShowing = true →
      Step s [] { s with game := { s.game with stage := s.game.stage.finishPage } }
  | endDialog (s : Session) : s.dialogShowing = true → Step s [] s.endDialog
  | evaluate {s : Session} {e : Episode} : Begins s e → e.result ≠ .error .lostPlace →
      Step s [e] e.after

/-- Steps one after another. -/
inductive Steps (s : Session) : List Episode → Session → Prop
  | refl : Steps s [] s
  | tail {es es' : List Episode} {t u : Session} : Steps s es t → Step t es' u →
      Steps s (es ++ es') u

namespace Steps

variable {s t u : Session} {es es' : List Episode}

theorem single (h : Step s es t) : Steps s es t := by
  simpa using Steps.refl.tail h

theorem trans (h : Steps s es t) (h' : Steps t es' u) : Steps s (es ++ es') u := by
  induction h' with
  | refl => simpa using h
  | tail _ hstep ih => simpa using ih.tail hstep

end Steps

/-- From `s` to `t` only controls and clock have been set. -/
def Sets (s t : Session) : Prop :=
  ∃ controls clock, t = { s with controls, clock }

theorem Sets.steps {s t : Session} (h : Sets s t) : Steps s [] t := by
  obtain ⟨controls, clock, rfl⟩ := h
  exact .single (.setting s controls clock)

theorem Sets.game {s t : Session} (h : Sets s t) : t.game = s.game := by
  obtain ⟨controls, clock, rfl⟩ := h
  rfl

theorem sets_settlePointer (s : Session) : Sets s s.settlePointer := by
  unfold settlePointer
  split
  · exact ⟨_, s.clock, rfl⟩
  · exact ⟨s.controls, s.clock, rfl⟩

/-! ## Draining the queue -/

/-- Draining takes an action off the queue, resumes it, and goes on unless the place of a
sequence was lost. -/
theorem drain_succ {s : Session} {d : Deferred} {gate : Gate}
    (hnext : s.game.state.gate.next? = some (d, gate)) (n : Nat) (first : Option Failure) :
    drain (n + 1) first s =
      let e : Episode := ⟨s.withGate gate, .resume d⟩
      if e.result = .error .lostPlace then (.error .lostPlace, e.after)
      else drain n (first.or e.failure?) e.after := by
  obtain ⟨hresult, hafter⟩ := (s.withGate gate).resume_eq d
  dsimp only [Episode.failure?]
  rw [hresult, hafter, drain, hnext]
  dsimp only
  unfold withGate
  rcases undoing _ (tryResume d) with ⟨(f | _) | _, _⟩ <;> simp [Except.map]

/-- The ways draining at most `n` actions goes: what it results in, the session it leaves, and
the resumptions it makes. -/
inductive Draining : Nat → Option Failure → Session →
    Except Halt (Option Failure) × Session → List Episode → Prop
  | stopped {n : Nat} {first : Option Failure} {s : Session} :
      n = 0 ∨ s.game.state.gate.next? = none → Draining n first s (.ok first, s) []
  | lost {n : Nat} {first : Option Failure} {s : Session} {d : Deferred} {gate : Gate} :
      s.game.state.gate.next? = some (d, gate) →
      Episode.result ⟨s.withGate gate, .resume d⟩ = .error .lostPlace →
      Draining (n + 1) first s
        (.error .lostPlace, Episode.after ⟨s.withGate gate, .resume d⟩)
        [⟨s.withGate gate, .resume d⟩]
  | resumed {n : Nat} {first : Option Failure} {s : Session} {d : Deferred} {gate : Gate}
      {r : Except Halt (Option Failure) × Session} {es : List Episode} :
      s.game.state.gate.next? = some (d, gate) →
      Episode.result ⟨s.withGate gate, .resume d⟩ ≠ .error .lostPlace →
      Draining n (first.or (Episode.failure? ⟨s.withGate gate, .resume d⟩))
        (Episode.after ⟨s.withGate gate, .resume d⟩) r es →
      Draining (n + 1) first s r (⟨s.withGate gate, .resume d⟩ :: es)

theorem draining (n : Nat) (first : Option Failure) (s : Session) :
    Draining n first s (drain n first s) (drainEpisodes n s) := by
  induction n generalizing first s with
  | zero => exact .stopped (Or.inl rfl)
  | succ n ih =>
    cases hnext : s.game.state.gate.next? with
    | none =>
      rw [drain, drainEpisodes, hnext]
      exact .stopped (Or.inr hnext)
    | some next =>
      obtain ⟨d, gate⟩ := next
      rw [drain_succ hnext, drainEpisodes, hnext]
      dsimp only
      split
      · exact .lost hnext ‹_›
      · exact .resumed hnext ‹_› (ih _ _)

namespace Draining

variable {n : Nat} {first : Option Failure} {s : Session} {es : List Episode}
  {r : Except Halt (Option Failure) × Session}

/-- Draining makes one resumption after another. -/
theorem steps (h : Draining n first s r es) (hreturn : r.1 ≠ .error .lostPlace) :
    Steps s es r.2 := by
  induction h with
  | stopped => exact .refl
  | lost => exact (hreturn rfl).elim
  | resumed hnext hne _ ih =>
    exact (Steps.single (.evaluate (.resume hnext) hne)).trans (ih hreturn)

theorem begins_of_eq (h : Draining n first s r es) {e : Episode} {earlier later : List Episode}
    (hes : es = earlier ++ e :: later) : ∃ t, Steps s earlier t ∧ Begins t e := by
  induction h generalizing earlier with
  | stopped => simp at hes
  | lost hnext =>
    obtain ⟨rfl, rfl, -⟩ := singleton_eq_append_cons hes
    exact ⟨_, .refl, .resume hnext⟩
  | resumed hnext hne _ ih =>
    cases earlier with
    | nil =>
      obtain ⟨rfl, -⟩ := List.cons.inj hes
      exact ⟨_, .refl, .resume hnext⟩
    | cons _ earlier =>
      obtain ⟨rfl, hrest⟩ := List.cons.inj hes
      obtain ⟨t, hsteps, ht⟩ := ih hrest
      exact ⟨t, (Steps.single (.evaluate (.resume hnext) hne)).trans hsteps, ht⟩

/-- A failure that draining keeps is that of a resumption. -/
theorem failure (h : Draining n first s r es) :
    (∀ f, r.1 ≠ .error (.failed f)) ∧ ∀ f, r.1 = .ok (some f) →
      first = some f ∨ ∃ e ∈ es, e.result = .error (.failed f) := by
  induction h with
  | stopped => exact ⟨by simp, fun f h => Or.inl (Except.ok.inj h)⟩
  | lost => exact ⟨by simp, by simp⟩
  | resumed _ _ _ ih =>
    refine ⟨ih.1, fun f h => ?_⟩
    rcases ih.2 f h with hf | ⟨e, he, hf⟩
    · rcases Option.or_eq_some_iff.mp hf with hf | ⟨-, hf⟩
      · exact Or.inl hf
      · exact Or.inr ⟨_, List.mem_cons_self, Episode.failure?_eq_some.mp hf⟩
    · exact Or.inr ⟨e, List.mem_cons_of_mem _ he, hf⟩

/-- Draining loses a place if a resumption does. -/
theorem lostPlace (h : Draining n first s r es) (hr : r.1 = .error .lostPlace) :
    ∃ e ∈ es, e.result = .error .lostPlace := by
  induction h with
  | stopped => cases hr
  | lost _ hlost => exact ⟨_, List.mem_cons_self, hlost⟩
  | resumed _ _ _ ih =>
    obtain ⟨e, he, hlost⟩ := ih hr
    exact ⟨e, List.mem_cons_of_mem _ he, hlost⟩

end Draining

/-! ## Confirming a dialog -/

/-- The ways a confirmation goes: what it results in, the session it leaves, and the
resumptions it makes. -/
inductive Confirmation (s : Session) : Except Halt Unit × Session → List Episode → Prop
  | nothing : Confirmation s (.ok (), s) []
  | page : s.dialogShowing = true →
      Confirmation s
        (.ok (), { s with game := { s.game with stage := s.game.stage.finishPage } }) []
  | halted {halt : Halt} {t : Session} {es : List Episode} : s.dialogShowing = true →
      Draining s.game.state.gate.queue.length none s.endDialog (.error halt, t) es →
      Confirmation s (.error halt, t) es
  | drained {first : Option Failure} {t : Session} {es : List Episode} :
      s.dialogShowing = true →
      Draining s.game.state.gate.queue.length none s.endDialog (.ok first, t) es →
      Confirmation s (first.elim (.ok ()) fun f => .error (.failed f), t.settlePointer) es

theorem confirmation (s : Session) : Confirmation s s.confirm s.confirmEpisodes := by
  unfold confirm confirmEpisodes
  cases hs : s.dialogShowing with
  | false => exact .nothing
  | true =>
    cases s.game.stage.pager.isComplete with
    | false => exact .page hs
    | true =>
      have hdraining := draining s.game.state.gate.queue.length none s.endDialog
      simp only [Bool.not_true, Bool.false_eq_true, if_false, Bool.and_self, if_true]
      generalize drain s.game.state.gate.queue.length none s.endDialog = r at hdraining ⊢
      obtain ⟨halt | (_ | f), t⟩ := r
      · exact .halted hs hdraining
      · exact .drained hs hdraining
      · exact .drained hs hdraining

namespace Confirmation

variable {s : Session} {es : List Episode} {r : Except Halt Unit × Session}

/-- A confirmation finishes a page, or ends the dialog and drains the queue. -/
theorem steps (h : Confirmation s r es) (hreturn : r.1 ≠ .error .lostPlace) :
    Steps s es r.2 := by
  cases h with
  | nothing => exact .refl
  | page hs => exact .single (.finishPage s hs)
  | halted hs hdraining =>
    exact (Steps.single (.endDialog s hs)).trans (hdraining.steps (by simpa using hreturn))
  | @drained _ t _ hs hdraining =>
    have hdrained := (Steps.single (.endDialog s hs)).trans (hdraining.steps (by simp))
    simpa using hdrained.trans t.sets_settlePointer.steps

theorem begins_of_eq (h : Confirmation s r es) {e : Episode} {earlier later : List Episode}
    (hes : es = earlier ++ e :: later) : ∃ t, Steps s earlier t ∧ Begins t e := by
  cases h with
  | nothing | page => simp at hes
  | halted hs hdraining | drained hs hdraining =>
    obtain ⟨t, hsteps, ht⟩ := hdraining.begins_of_eq hes
    exact ⟨t, (Steps.single (.endDialog s hs)).trans hsteps, ht⟩

theorem failure (h : Confirmation s r es) {f : Failure} (hr : r.1 = .error (.failed f)) :
    ∃ e ∈ es, e.result = .error (.failed f) := by
  cases h with
  | nothing | page => cases hr
  | halted _ hdraining => exact (hdraining.failure.1 f (by simpa using hr)).elim
  | @drained first _ _ _ hdraining =>
    cases first with
    | none => cases hr
    | some _ =>
      cases hr
      simpa using hdraining.failure.2 f rfl

theorem lostPlace (h : Confirmation s r es) (hr : r.1 = .error .lostPlace) :
    ∃ e ∈ es, e.result = .error .lostPlace := by
  cases h with
  | nothing | page => cases hr
  | halted _ hdraining => exact hdraining.lostPlace (by simpa using hr)
  | @drained first => cases first <;> cases hr

end Confirmation

/-! ## Calls -/

/-- An input sets controls and clock, and may confirm. -/
theorem handle_cases (s : Session) (input : Input) :
    (∃ t, s.confirmedBy? input = some t ∧ Sets s t ∧ s.handle input = t.confirm) ∨
      s.confirmedBy? input = none ∧ (s.handle input).1 = .ok () ∧
        Sets s (s.handle input).2 := by
  have hsets : ∀ controls clock, Sets s { s with controls, clock } :=
    fun controls clock => ⟨controls, clock, rfl⟩
  unfold confirmedBy? handle
  cases input with
  | keyDown key repeated =>
    cases repeated with
    | true => exact Or.inr ⟨rfl, rfl, hsets s.controls s.clock⟩
    | false =>
      dsimp only
      cases hs : s.dialogShowing with
      | false => exact Or.inr ⟨rfl, rfl, hsets _ _⟩
      | true =>
        cases hk : key.isArrow with
        | false => exact Or.inr ⟨rfl, rfl, hsets s.controls s.clock⟩
        | true => exact Or.inl ⟨s, rfl, hsets s.controls s.clock, rfl⟩
  | keyUp key => exact Or.inr ⟨rfl, rfl, hsets _ _⟩
  | touch point => exact Or.inr ⟨rfl, rfl, hsets _ _⟩
  | drag point => exact Or.inr ⟨rfl, rfl, hsets _ _⟩
  | lift =>
    dsimp only
    rcases s.controls.lift s.dialogShowing with ⟨lift, controls⟩
    cases lift with
    | notDown => exact Or.inr ⟨rfl, rfl, hsets controls _⟩
    | replayArmed => exact Or.inr ⟨rfl, rfl, hsets controls _⟩
    | released =>
      cases hs : s.dialogShowing with
      | false =>
        have hs' : dialogShowing { s with controls } = false := hs
        refine Or.inr ⟨rfl, ?_⟩
        simp only [hs']
        exact ⟨rfl, hsets controls _⟩
      | true =>
        have hs' : dialogShowing { s with controls } = true := hs
        refine Or.inl ⟨{ s with controls }, rfl, hsets controls _, ?_⟩
        simp only [hs', if_true]

/-- An evaluation of the input is one move, or nothing. -/
theorem evaluateInput_cases (s : Session) (due : Bool) :
    (s.inputEpisodes due = [] ∧ s.evaluateInput due = (.ok none, s)) ∨
      ∃ e, s.inputEpisodes due = [e] ∧ Sets s e.before ∧ Begins e.before e ∧
        (s.evaluateInput due).1 = e.result ∧ (s.evaluateInput due).2 = e.after := by
  unfold inputEpisodes evaluateInput
  split
  · rcases s.controls.next with ⟨direction, controls⟩
    obtain ⟨hresult, hafter⟩ := move_eq { s with controls } direction
    exact Or.inr ⟨_, rfl, ⟨controls, s.clock, rfl⟩, .move _ _, hresult.symm, hafter.symm⟩
  · exact Or.inl ⟨rfl, rfl⟩

/-- An evaluation of the input leaves the session as it is, or is a move. -/
theorem evaluateInput_eq (s : Session) (due : Bool) :
    s.evaluateInput due = (.ok none, s) ∨
      ∃ t direction, Sets s t ∧ s.inputEpisodes due = [⟨t, .move direction⟩] ∧
        s.evaluateInput due = ((t.move direction).1.map some, (t.move direction).2) := by
  unfold inputEpisodes evaluateInput
  split
  · exact Or.inr ⟨_, _, ⟨_, s.clock, rfl⟩, rfl, rfl⟩
  · exact Or.inl rfl

/-- A tick halts as its evaluation does, or draws what that leaves. -/
theorem tick_cases (s : Session) (elapsed : Float) :
    let r := (s.elapse elapsed).2.evaluateInput (s.elapse elapsed).1
    (∃ halt, r.1 = .error halt ∧ s.tick elapsed = (.error halt, r.2)) ∨
      ∃ move, r.1 = .ok move ∧
        (s.tick elapsed).2 =
          { r.2 with game := (r.2.game.draw r.2.avatarName r.2.clock.frame).2 } ∧
        ∃ report, (s.tick elapsed).1 =
          ((r.2.game.draw r.2.avatarName r.2.clock.frame).1.map fun _ => report).mapError
            .failed := by
  unfold elapse tick
  dsimp only
  rcases evaluateInput _ _ with ⟨halt | move, t⟩
  · exact Or.inl ⟨halt, rfl, rfl⟩
  · exact Or.inr ⟨move, rfl, rfl, _, rfl⟩

/-- Under a dialog a tick lets time pass and draws, and no move is evaluated. -/
theorem tick_eq_of_showing {s : Session} (hs : s.dialogShowing = true) (elapsed : Float) :
    s.tick elapsed =
      (((s.game.draw s.avatarName (s.elapse elapsed).2.clock.frame).1.map fun _ =>
          ⟨(s.clock.advance elapsed).1.frame, (s.elapse elapsed).2.clock.frame, none⟩).mapError
        .failed,
        { (s.elapse elapsed).2 with
          game := (s.game.draw s.avatarName (s.elapse elapsed).2.clock.frame).2 }) := by
  have hshowing : (s.elapse elapsed).2.dialogShowing = true := hs
  unfold elapse at hshowing
  simp [tick, evaluateInput, elapse, hshowing]

theorem sets_elapse (s : Session) (elapsed : Float) : Sets s (s.elapse elapsed).2 :=
  ⟨s.controls, _, rfl⟩

theorem steps_evaluateInput (s : Session) (due : Bool)
    (h : (s.evaluateInput due).1 ≠ .error .lostPlace) :
    Steps s (s.inputEpisodes due) (s.evaluateInput due).2 := by
  rcases s.evaluateInput_cases due with ⟨hes, heq⟩ | ⟨e, hes, hsets, hbegins, hresult, hafter⟩
  · rw [hes, heq]
    exact .refl
  · rw [hes, hafter]
    rw [hresult] at h
    exact hsets.steps.tail (.evaluate hbegins h)

theorem steps_tick (s : Session) (elapsed : Float)
    (h : (s.tick elapsed).1 ≠ .error .lostPlace) :
    Steps s (s.episodes (.tick elapsed)) (s.tick elapsed).2 := by
  have heval := (s.elapse elapsed).2.steps_evaluateInput (s.elapse elapsed).1
  rcases s.tick_cases elapsed with ⟨halt, hr, htick⟩ | ⟨move, hr, hafter, -⟩
  · rw [htick] at h ⊢
    exact (s.sets_elapse elapsed).steps.trans (heval (by simpa [hr] using h))
  · rw [hafter]
    have hdraw := ((s.sets_elapse elapsed).steps.trans (heval (by simp [hr]))).tail (.draw _)
    rwa [List.append_nil] at hdraw

theorem map_eq_error {α β : Type} {r : Except Halt α} {f : α → β} {halt : Halt} :
    r.map f = .error halt ↔ r = .error halt := by
  cases r <;> simp [Except.map]

/-- A call that returns is made of steps. -/
theorem steps_call {s : Session} {c : Call} (h : (s.call c).1 ≠ .error .lostPlace) :
    Steps s (s.episodes c) (s.call c).2 := by
  cases c with
  | handle input =>
    rcases s.handle_cases input with ⟨t, ht, hsets, hhandle⟩ | ⟨hnone, -, hsets⟩
    · simp only [episodes, call, ht, hhandle, ne_eq, map_eq_error] at h ⊢
      exact hsets.steps.trans (t.confirmation.steps h)
    · simpa [episodes, call, hnone] using hsets.steps
  | tick elapsed => exact s.steps_tick elapsed (mt map_eq_error.mpr h)
  | confirm => exact s.confirmation.steps (mt map_eq_error.mpr h)
  | move direction =>
    obtain ⟨hresult, hafter⟩ := s.move_eq direction
    have hne : Episode.result ⟨s, .move direction⟩ ≠ .error .lostPlace := by
      rw [hresult, ne_eq, map_eq_error]
      exact mt map_eq_error.mpr h
    simpa [episodes, call, hafter] using Steps.single (.evaluate (.move s direction) hne)

/-- A run is made of steps. -/
theorem Run.steps {s t : Session} {es : List Episode} (h : Run s es t) : Steps s es t := by
  induction h with
  | nil => exact .refl
  | call c _ hreturn ih => exact ih.trans (steps_call hreturn)

/-! ## Where episodes begin and failures come from -/

/-- An episode of a call begins in the session that those before it lead to. -/
theorem begins_of_episodes_eq {s : Session} {c : Call} {e : Episode}
    {earlier later : List Episode} (h : s.episodes c = earlier ++ e :: later) :
    ∃ t, Steps s earlier t ∧ Begins t e := by
  cases c with
  | handle input =>
    rcases s.handle_cases input with ⟨t, ht, hsets, -⟩ | ⟨hnone, -⟩
    · simp only [episodes, ht, Option.map_some, Option.getD_some] at h
      obtain ⟨u, hsteps, hu⟩ := t.confirmation.begins_of_eq h
      exact ⟨u, hsets.steps.trans hsteps, hu⟩
    · simp [episodes, hnone] at h
  | tick elapsed =>
    rcases (s.elapse elapsed).2.evaluateInput_cases (s.elapse elapsed).1 with
      ⟨hes, -⟩ | ⟨e', hes, hsets, hbegins, -⟩
    · simp [episodes, hes] at h
    · simp only [episodes, hes] at h
      obtain ⟨rfl, rfl, -⟩ := singleton_eq_append_cons h
      exact ⟨_, (s.sets_elapse elapsed).steps.trans hsets.steps, hbegins⟩
  | confirm => exact s.confirmation.begins_of_eq h
  | move direction =>
    obtain ⟨rfl, rfl, -⟩ := singleton_eq_append_cons h
    exact ⟨s, .refl, .move s direction⟩

/-- Every episode of a call begins in a session that steps lead to. -/
theorem begins_of_mem_episodes {s : Session} {c : Call} {e : Episode}
    (h : e ∈ s.episodes c) : ∃ es t, Steps s es t ∧ Begins t e := by
  obtain ⟨earlier, later, h⟩ := List.append_of_mem h
  obtain ⟨t, hsteps, ht⟩ := begins_of_episodes_eq h
  exact ⟨earlier, t, hsteps, ht⟩

/-- Every episode along steps begins in a session that steps lead to. -/
theorem begins_of_mem_steps {s t : Session} {es : List Episode} {e : Episode}
    (h : Steps s es t) (he : e ∈ es) : ∃ es' t', Steps s es' t' ∧ Begins t' e := by
  induction h with
  | refl => cases he
  | tail hsteps hstep ih =>
    rcases List.mem_append.mp he with he | he
    · exact ih he
    · cases hstep with
      | evaluate hbegins =>
        obtain rfl := List.mem_singleton.mp he
        exact ⟨_, _, hsteps, hbegins⟩
      | _ => cases he

/-- A call fails as one of its evaluations does, or in drawing. -/
theorem call_failure {s : Session} {c : Call} {f : Failure}
    (h : (s.call c).1 = .error (.failed f)) :
    (∃ e ∈ s.episodes c, e.result = .error (.failed f)) ∨
      ∃ t, Steps s (s.episodes c) t ∧
        (t.game.draw t.avatarName t.clock.frame).1 = .error f := by
  cases c with
  | handle input =>
    have hhandle := map_eq_error.mp h
    rcases s.handle_cases input with ⟨t, ht, -, heq⟩ | ⟨-, hok, -⟩
    · rw [heq] at hhandle
      simpa [episodes, ht] using Or.inl (t.confirmation.failure hhandle)
    · simp [hok] at hhandle
  | tick elapsed =>
    have heval := (s.elapse elapsed).2.steps_evaluateInput (s.elapse elapsed).1
    have htick := map_eq_error.mp h
    rcases s.tick_cases elapsed with ⟨halt, hr, heq⟩ | ⟨move, hr, -, report, heq⟩
    · rw [heq] at htick
      obtain rfl : halt = .failed f := Except.error.inj htick
      rcases (s.elapse elapsed).2.evaluateInput_cases (s.elapse elapsed).1 with
        ⟨-, hnone⟩ | ⟨e, hes, -, -, hresult, -⟩
      · simp [hnone] at hr
      · exact Or.inl ⟨e, by simp [episodes, hes], hresult ▸ hr⟩
    · refine Or.inr ⟨_, (s.sets_elapse elapsed).steps.trans (heval (by simp [hr])), ?_⟩
      rw [heq] at htick
      rcases hd : (Game.draw _ _ _).1 with f' | _
      · rw [hd] at htick
        simpa [Except.map, Except.mapError] using htick
      · rw [hd] at htick
        cases htick
  | confirm => exact Or.inl (s.confirmation.failure (map_eq_error.mp h))
  | move direction =>
    refine Or.inl ⟨_, List.mem_singleton.mpr rfl, ?_⟩
    rw [(s.move_eq direction).1, map_eq_error]
    exact map_eq_error.mp h

/-! ## Where a place is lost -/

/-- A call loses a place if one of its evaluations does. -/
theorem call_lostPlace {s : Session} {c : Call} (h : (s.call c).1 = .error .lostPlace) :
    ∃ e ∈ s.episodes c, e.result = .error .lostPlace := by
  cases c with
  | handle input =>
    have hhandle := map_eq_error.mp h
    rcases s.handle_cases input with ⟨t, ht, -, heq⟩ | ⟨-, hok, -⟩
    · rw [heq] at hhandle
      simpa [episodes, ht] using t.confirmation.lostPlace hhandle
    · simp [hok] at hhandle
  | tick elapsed =>
    have htick := map_eq_error.mp h
    rcases s.tick_cases elapsed with ⟨halt, hr, heq⟩ | ⟨move, -, -, report, heq⟩
    · rw [heq] at htick
      obtain rfl : halt = .lostPlace := Except.error.inj htick
      rcases (s.elapse elapsed).2.evaluateInput_cases (s.elapse elapsed).1 with
        ⟨-, hnone⟩ | ⟨e, hes, -, -, hresult, -⟩
      · simp [hnone] at hr
      · exact ⟨e, by simp [episodes, hes], hresult ▸ hr⟩
    · rw [heq] at htick
      rcases hd : (Game.draw _ _ _).1 with f | _
      · rw [hd] at htick
        cases htick
      · rw [hd] at htick
        cases htick
  | confirm => exact s.confirmation.lostPlace (map_eq_error.mp h)
  | move direction =>
    refine ⟨_, List.mem_singleton.mpr rfl, ?_⟩
    rw [(s.move_eq direction).1, map_eq_error]
    exact map_eq_error.mp h

end Session

end TileAdventure
