import TileAdventure.Proofs.Session.Run

/-!
# Invariants of play

Undoing an evaluation goes back to the rooms and the state of play, and to nothing else. So
an invariant of play is about the world and the state (`Invariant`): every single change
keeps it, and so does taking actions off the queue. It then holds in every session that
steps lead to (`Invariant.steps`), in every session in which an evaluation begins
(`Invariant.begins`), and at the end of every evaluation before any undoing
(`Invariant.attempt`).
-/

namespace TileAdventure

/-- What changes of a game keep under a depth limit and with an avatar. The actions that
wait have to be allowed, as those of the behaviors are. -/
structure Invariant (limit : Nat) (avatarName : String) (allowed : Action → Prop)
    (I : World → PlayState → Prop) : Prop where
  admits {w : World} {state : PlayState} : I w state → w.sprites.Admits allowed
  waiting {w : World} {state : PlayState} : I w state → ∀ d ∈ state.gate.queue, allowed d.action
  change {g g' : Game} : I g.world g.state → Game.Change limit allowed avatarName g g' →
    I g'.world g'.state
  /-- The dialog may end, and actions may leave the queue. -/
  gate {w : World} {state : PlayState} {gate : Gate} : I w state →
    (∀ d ∈ gate.queue, d ∈ state.gate.queue) → I w { state with gate }

theorem Gate.next?_eq_none {gate : Gate} :
    gate.next? = none ↔ gate.showing = true ∨ gate.queue = [] := by
  obtain ⟨showing, queue⟩ := gate
  cases showing <;> cases queue <;> simp [next?]

theorem Gate.next?_eq_some {gate gate' : Gate} {d : Deferred}
    (h : gate.next? = some (d, gate')) :
    gate.showing = false ∧ gate'.showing = false ∧ gate.queue = d :: gate'.queue := by
  unfold next? at h
  cases hs : gate.showing with
  | true => simp [hs] at h
  | false =>
    rw [hs, if_neg (by simp)] at h
    split at h
    · cases h
    · rename_i heq
      cases h
      exact ⟨rfl, rfl, heq⟩

namespace Session

variable {s t : Session} {es : List Episode} {e : Episode}

theorem Begins.fixed (h : Begins s e) :
    e.before.config = s.config ∧ e.before.avatarName = s.avatarName := by
  cases h <;> exact ⟨rfl, rfl⟩

theorem Step.fixed (h : Step s es t) : t.config = s.config ∧ t.avatarName = s.avatarName := by
  cases h with
  | evaluate hb =>
    obtain ⟨hconfig, hname⟩ := hb.fixed
    obtain ⟨hconfig', hname'⟩ := Episode.after_fixed _
    exact ⟨hconfig'.trans hconfig, hname'.trans hname⟩
  | _ => exact ⟨rfl, rfl⟩

/-- The configuration and the avatar's name are the same all along. -/
theorem Steps.fixed (h : Steps s es t) :
    t.config = s.config ∧ t.avatarName = s.avatarName := by
  induction h with
  | refl => exact ⟨rfl, rfl⟩
  | tail _ hstep ih => exact ⟨hstep.fixed.1.trans ih.1, hstep.fixed.2.trans ih.2⟩

end Session

/-- An evaluation that fails leaves the world and the state in which it began. -/
theorem Episode.restore_attempt (e : Episode) :
    (e.before.restore (e.evaluation.attempt e.before).2).game.world = e.before.game.world ∧
      (e.before.restore (e.evaluation.attempt e.before).2).game.state = e.before.game.state := by
  refine ⟨?_, rfl⟩
  unfold Session.restore
  dsimp only
  rw [Game.Changes.world e.changes_attempt]

namespace Invariant

variable {limit : Nat} {avatarName : String} {allowed : Action → Prop}
  {I : World → PlayState → Prop}

theorem changes (hI : Invariant limit avatarName allowed I) {g g' : Game}
    (hg : I g.world g.state) (h : Game.Changes limit allowed avatarName g g') :
    I g'.world g'.state :=
  keeps_of_step (I := fun g => I g.world g.state) (fun hstep hg => hI.change hg hstep) h hg

variable {s t : Session} {es : List Episode} {e : Episode}

/-- The invariant holds where an evaluation begins, and the action it resumes is allowed. -/
theorem begins (hI : Invariant s.config.depthLimit s.avatarName allowed I)
    (hs : I s.game.world s.game.state) (h : s.Begins e) :
    I e.before.game.world e.before.game.state ∧
      ∀ d ∈ e.evaluation.resumed?, allowed d.action := by
  cases h with
  | move direction => exact ⟨hs, fun d hd => nomatch hd⟩
  | resume hnext =>
    obtain ⟨-, -, hqueue⟩ := Gate.next?_eq_some hnext
    refine ⟨hI.gate hs fun d hd => by simp [hqueue, hd], fun d hd => ?_⟩
    cases hd
    exact hI.waiting hs _ (by simp [hqueue])

/-- The invariant holds at the end of an evaluation, before any undoing. -/
theorem attempt (hI : Invariant s.config.depthLimit s.avatarName allowed I)
    (hs : I s.game.world s.game.state) (h : s.Begins e) :
    I (e.evaluation.attempt e.before).2.game.world
      (e.evaluation.attempt e.before).2.game.state := by
  obtain ⟨hbefore, hresumed⟩ := hI.begins hs h
  have hchanges := e.evaluation.changes_attempt e.before (hI.admits hbefore) hresumed
  rw [h.fixed.1, h.fixed.2] at hchanges
  exact hI.changes hbefore hchanges

theorem after (hI : Invariant s.config.depthLimit s.avatarName allowed I)
    (hs : I s.game.world s.game.state) (h : s.Begins e) :
    I e.after.game.world e.after.game.state := by
  rcases e.cases with ⟨_, -, -, hafter⟩ | ⟨_, -, -, hafter⟩ | ⟨-, -, hafter⟩
  · exact hafter ▸ hI.attempt hs h
  · rw [hafter, e.restore_attempt.1, e.restore_attempt.2]
    exact (hI.begins hs h).1
  · exact hafter ▸ hI.attempt hs h

theorem step (hI : Invariant s.config.depthLimit s.avatarName allowed I)
    (hs : I s.game.world s.game.state) (h : s.Step es t) : I t.game.world t.game.state := by
  cases h with
  | setting | finishPage => exact hs
  | draw =>
    obtain ⟨notices, -, hdraw⟩ := s.game.draw_eq_tell s.avatarName s.clock.frame
    dsimp only
    rw [hdraw]
    exact hs
  | endDialog => exact hI.gate hs fun _ hd => hd
  | evaluate hbegins => exact hI.after hs hbegins

/-- An invariant of play holds wherever steps lead. -/
theorem steps (hI : Invariant s.config.depthLimit s.avatarName allowed I)
    (hs : I s.game.world s.game.state) (h : s.Steps es t) : I t.game.world t.game.state := by
  induction h with
  | refl => exact hs
  | tail hsteps hstep ih =>
    rw [← hsteps.fixed.1, ← hsteps.fixed.2] at hI
    exact hI.step ih hstep

end Invariant

end TileAdventure
