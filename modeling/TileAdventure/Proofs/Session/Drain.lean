import TileAdventure.Proofs.Acting.Alike
import TileAdventure.Proofs.Session.Acting
import TileAdventure.Proofs.Session.Queue

/-!
# Failed resumptions are dropped

A confirmation takes actions off the front of the queue (`Draining.takes`) and keeps the
first of their failures (`Draining.first_failure`). An action that fails leaves nothing for
those after it to see. In a world that never shuffles, a resumption depends on the world and
the state of play alone, and on the queue not at all (`Requeued.episode`). So a confirmation
goes on and ends as it would if the actions that fail had never waited (`Draining.spares`),
unless one of the actions loses the place of a sequence (`Session.failures_dropped`).
-/

namespace TileAdventure

/-- Neither a behavior nor an action that waits has a shuffled sequence. -/
structure Orderly (w : World) (state : PlayState) : Prop where
  sprites : w.sprites.NeverShuffles
  waiting : ∀ d ∈ state.gate.queue, d.action.Unshuffled

theorem invariant_orderly (limit : Nat) (avatarName : String) :
    Invariant limit avatarName Action.Unshuffled Orderly where
  admits h := h.sprites.admits
  waiting h := h.waiting
  gate h hqueue := ⟨h.sprites, fun d hd => h.waiting d (hqueue d hd)⟩
  change h hchange := by
    refine ⟨by rw [hchange.world]; exact h.sprites, ?_⟩
    cases hchange with
    | turn | sweep => exact h.waiting
    | act _ hscene => exact Scene.Changes.waiting hscene h.waiting
    | occupy hocc =>
      rw [(Game.occupy_fixed hocc).2.1]
      exact h.waiting

namespace Session

theorem orderly_of_run {w : World} {config : Config} {stage : Stage} {s₀ s : Session}
    {es : List Episode} (hnever : w.sprites.NeverShuffles)
    (hstart : start w config stage = .ok s₀) (hrun : Run s₀ es s) :
    Orderly s.game.world s.game.state := by
  refine (invariant_orderly _ _).steps ⟨?_, ?_⟩ hrun.steps
  · rw [(holdings_start hstart).1]
    exact hnever
  · rw [(idle_start hstart).1]
    exact fun d hd => nomatch hd

end Session

/-! ## Another queue -/

/-- The state with another queue. -/
def PlayState.withQueue (state : PlayState) (queue : List Deferred) : PlayState :=
  { state with gate := { state.gate with queue } }

namespace Session

/-- `t` has the configuration, the world and the state of play of `s`, but for its queue. -/
structure Requeued (s : Session) (queue : List Deferred) (t : Session) : Prop where
  config : t.config = s.config
  world : t.game.world = s.game.world
  state : t.game.state = s.game.state.withQueue queue

variable {s t : Session} {queue : List Deferred} {d : Deferred} {es : List Episode}

namespace Requeued

theorem queue_eq (h : s.Requeued queue t) : t.game.state.gate.queue = queue := by
  rw [h.state]
  rfl

theorem dialogShowing (h : s.Requeued queue t) : t.dialogShowing = s.dialogShowing := by
  unfold Session.dialogShowing
  rw [h.state]
  rfl

theorem palette? (h : s.Requeued queue t) : t.game.palette? = s.game.palette? := by
  unfold Game.palette?
  rw [h.world, h.state]
  rfl

/-- The next action is taken off either queue. -/
theorem next? {d d' : Deferred} {gate : Gate} (h : s.Requeued (d :: queue) t)
    (hnext : s.game.state.gate.next? = some (d', gate)) :
    ∃ gate', t.game.state.gate.next? = some (d, gate') ∧
      (s.withGate gate).Requeued queue (t.withGate gate') := by
  obtain ⟨hopen, hopen', -⟩ := Gate.next?_eq_some hnext
  refine ⟨⟨false, queue⟩, ?_, h.config, h.world, ?_⟩
  · rw [h.state]
    unfold PlayState.withQueue Gate.next?
    simp [hopen]
  · unfold withGate PlayState.withQueue
    dsimp only
    rw [h.state, hopen']
    rfl

/-- A resumption that fails leaves all but the queue as it was. -/
theorem of_failed {gate : Gate} {f : Failure} (h : s.Requeued queue t)
    (hnext : s.game.state.gate.next? = some (d, gate))
    (hfailed : Episode.result ⟨s.withGate gate, .resume d⟩ = .error (.failed f)) :
    (Episode.after ⟨s.withGate gate, .resume d⟩).game.state.gate = gate ∧
      (Episode.after ⟨s.withGate gate, .resume d⟩).Requeued queue t := by
  obtain ⟨hopen, hopen', -⟩ := Gate.next?_eq_some hnext
  obtain ⟨hconfig, -⟩ := Episode.after_fixed ⟨s.withGate gate, .resume d⟩
  rcases Episode.cases ⟨s.withGate gate, .resume d⟩ with
    ⟨_, hok, -⟩ | ⟨_, -, -, hafter⟩ | ⟨hlost, -⟩
  · cases hfailed.symm.trans hok
  · obtain ⟨hworld, hstate⟩ := Episode.restore_attempt ⟨s.withGate gate, .resume d⟩
    rw [← hafter] at hworld hstate
    refine ⟨by rw [hstate]; rfl, h.config.trans hconfig.symm, h.world.trans hworld.symm, ?_⟩
    rw [h.state, hstate]
    unfold withGate PlayState.withQueue
    dsimp only
    rw [hopen, hopen']
  · cases hfailed.symm.trans hlost

/-- The scenes for an action differ in the queue, and maybe in the stage and the random
words. -/
theorem alike_scene (h : s.Requeued queue t) (target : Location) :
    (s.game.scene target).Alike (fun _ _ => True) s.game.state.gate.queue queue
      (t.game.scene target) where
  rooms := congrArg World.rooms h.world
  inventory := (congrArg PlayState.inventory h.state :)
  bookmarks := (congrArg PlayState.bookmarks h.state :)
  target := rfl
  showing := h.dialogShowing
  queue := ⟨[], (List.append_nil _).symm, h.queue_eq.trans (List.append_nil _).symm⟩
  stage := trivial

theorem absorb (h : s.Requeued queue t) {front front' : List Deferred} {scene other : Scene}
    (halike : scene.Alike (fun _ _ => True) front front' other) :
    ∃ later, (s.absorb scene).game.state.gate.queue = front ++ later ∧
      (s.absorb scene).Requeued (front' ++ later) (t.absorb other) := by
  obtain ⟨later, hqueue, hqueue'⟩ := halike.queue
  refine ⟨later, hqueue, h.config, ?_, ?_⟩
  · unfold Session.absorb Game.absorb
    dsimp only
    rw [h.world, halike.rooms]
  · have hgate : other.gate = ⟨scene.gate.showing, front' ++ later⟩ := by
      rw [← halike.showing, ← hqueue']
    unfold Session.absorb Game.absorb PlayState.withQueue
    dsimp only
    rw [h.state, halike.inventory, halike.bookmarks, hgate]
    rfl

/-- Resuming an action without shuffled sequences does not depend on the queue. -/
theorem tryResume (h : s.Requeued queue t) (hnever : s.game.world.sprites.NeverShuffles)
    (hd : d.action.Unshuffled) :
    (Session.tryResume d t).1 = (Session.tryResume d s).1 ∧
      ∃ later, (Session.tryResume d s).2.game.state.gate.queue =
          s.game.state.gate.queue ++ later ∧
        (Session.tryResume d s).2.Requeued (queue ++ later) (Session.tryResume d t).2 := by
  have hpalette := h.palette?
  cases hp : s.game.palette? with
  | error f =>
    rw [tryResume_of_failure hp, tryResume_of_failure (hpalette.trans hp)]
    exact ⟨rfl, [], (List.append_nil _).symm, by rwa [List.append_nil]⟩
  | ok palette =>
    rw [tryResume_of_palette hp, tryResume_of_palette (hpalette.trans hp)]
    have hsetting : t.game.setting palette t.config.depthLimit =
        s.game.setting palette s.config.depthLimit := by
      unfold Game.setting
      rw [h.world, h.config]
    obtain ⟨result, scene, other, hs, ht, halike⟩ :=
      (s.game.setting palette s.config.depthLimit).endAlike_perform
        ⟨fun _ _ => trivial, fun _ _ _ => trivial⟩ hnever (s.config.depthLimit + 1) hd d.tile
        d.path (h.alike_scene d.target)
    have hs : s.resumption palette d = (result, scene) := hs
    have ht : t.resumption palette d = (result, other) := by
      unfold resumption
      rw [hsetting]
      exact ht
    rw [hs, ht]
    exact ⟨rfl, h.absorb halike⟩

/-- The episode of a resumption does not depend on the queue, and puts the same off. -/
theorem episode (h : s.Requeued queue t) (hnever : s.game.world.sprites.NeverShuffles)
    (hd : d.action.Unshuffled) :
    Episode.result ⟨t, .resume d⟩ = Episode.result ⟨s, .resume d⟩ ∧
      ∃ later, (Episode.after ⟨s, .resume d⟩).game.state.gate.queue =
          s.game.state.gate.queue ++ later ∧
        (Episode.after ⟨s, .resume d⟩).Requeued (queue ++ later)
          (Episode.after ⟨t, .resume d⟩) := by
  obtain ⟨hresult, hafter⟩ := h.tryResume hnever hd
  rw [(s.resume_eq d).1, (s.resume_eq d).2, (t.resume_eq d).1, (t.resume_eq d).2]
  unfold undoing
  generalize Session.tryResume d s = attempt at hresult hafter ⊢
  generalize Session.tryResume d t = other at hresult hafter ⊢
  obtain ⟨result, s'⟩ := attempt
  obtain ⟨result', t'⟩ := other
  obtain rfl : result' = result := hresult
  rcases result' with (f | _) | outcome
  · obtain ⟨later, -, hrequeued⟩ := hafter
    refine ⟨rfl, [], (List.append_nil _).symm, hrequeued.config, ?_, ?_⟩
    · unfold restore
      dsimp only
      rw [hrequeued.world, h.world]
    · rw [List.append_nil]
      exact h.state
  · exact ⟨rfl, hafter⟩
  · exact ⟨rfl, hafter⟩

end Requeued

/-! ## Draining -/

theorem drain_of_next?_eq_none (h : s.game.state.gate.next? = none) (n : Nat)
    (first : Option Failure) : drain n first s = (.ok first, s) := by
  cases n with
  | zero => rfl
  | succ n => rw [drain, h]

/-- An action that succeeds in one session is drained without a failure in the other. -/
theorem Requeued.drain_of_ok {m : Nat} {gate : Gate} {move : Option MoveResult}
    (h : s.Requeued (d :: queue) t) (hm : Suffices m t)
    (horderly : Orderly s.game.world s.game.state)
    (hnext : s.game.state.gate.next? = some (d, gate))
    (hok : Episode.result ⟨s.withGate gate, .resume d⟩ = .ok move) (first : Option Failure) :
    ∃ m' t' later, Suffices m' t' ∧ drain m first t = drain m' first t' ∧
      (Episode.after ⟨s.withGate gate, .resume d⟩).game.state.gate.queue = gate.queue ++ later ∧
      (Episode.after ⟨s.withGate gate, .resume d⟩).Requeued (queue ++ later) t' := by
  have hunshuffled : d.action.Unshuffled :=
    horderly.waiting d (by simp [(Gate.next?_eq_some hnext).2.2])
  obtain ⟨gate', hnext', h⟩ := h.next? hnext
  obtain ⟨hresult, later, hlater, h⟩ := h.episode horderly.sprites hunshuffled
  rw [hok] at hresult
  cases m with
  | zero => cases (hm.next?_eq_none (Or.inl rfl)).symm.trans hnext'
  | succ m =>
    refine ⟨m, _, later, hm.after hnext', ?_, hlater, h⟩
    have hnone : Episode.failure? ⟨t.withGate gate', .resume d⟩ = none := by
      unfold Episode.failure?
      rw [hresult]
    rw [drain_succ hnext']
    dsimp only
    rw [hresult, hnone, Option.or_none, if_neg (by simp)]

namespace Draining

variable {n : Nat} {first : Option Failure} {r : Except Halt (Option Failure) × Session}

theorem eq_nil (h : Draining n first s r es) (hshow : s.dialogShowing = true) : es = [] := by
  cases h with
  | stopped => rfl
  | lost hnext | resumed hnext =>
    have hopen : s.dialogShowing = false := (Gate.next?_eq_some hnext).1
    cases hopen.symm.trans hshow

/-- Draining takes actions off the front of the queue. -/
theorem takes (h : Draining n first s r es) :
    es.length ≤ s.game.state.gate.queue.length ∧
      resumptions es = s.game.state.gate.queue.take es.length := by
  induction h with
  | stopped => exact ⟨Nat.zero_le _, rfl⟩
  | lost hnext =>
    rw [(Gate.next?_eq_some hnext).2.2]
    exact ⟨Nat.succ_le_succ (Nat.zero_le _), rfl⟩
  | @resumed _ _ s d gate _ es hnext _ hdraining ih =>
    rw [(Gate.next?_eq_some hnext).2.2]
    -- either a dialog stops the draining, or nothing has joined the queue
    cases hshow : (Episode.after ⟨s.withGate gate, .resume d⟩).dialogShowing with
    | true =>
      obtain rfl := hdraining.eq_nil hshow
      exact ⟨Nat.succ_le_succ (Nat.zero_le _), rfl⟩
    | false =>
      obtain ⟨hlength, htake⟩ := ih
      rw [(queue_after hshow).2] at hlength htake
      exact ⟨Nat.succ_le_succ hlength, congrArg (d :: ·) htake⟩

/-- If draining returns, so does every resumption. -/
theorem returns (h : Draining n first s r es) (hreturn : r.1 ≠ .error .lostPlace) :
    ∀ e ∈ es, e.result ≠ .error .lostPlace := by
  induction h with
  | stopped => exact fun e he => nomatch he
  | lost => exact (hreturn rfl).elim
  | resumed _ hne _ ih => exact List.forall_mem_cons.mpr ⟨hne, ih hreturn⟩

/-- Draining keeps the first failure. -/
theorem first_failure (h : Draining n first s r es) (hreturn : r.1 ≠ .error .lostPlace) :
    r.1 = .ok (first.or (es.findSome? Episode.failure?)) := by
  induction h with
  | stopped => simp
  | lost => exact (hreturn rfl).elim
  | @resumed _ _ s d gate _ es _ _ _ ih =>
    rw [ih hreturn, List.findSome?_cons, Option.or_assoc]
    cases Episode.failure? ⟨s.withGate gate, .resume d⟩ <;> rfl

end Draining

/-- What the resumptions took that did not fail. -/
def kept (es : List Episode) : List Deferred :=
  resumptions (es.filter fun e => !e.failed)

/-- The queue without the actions whose resumptions failed. -/
def spared (s : Session) (es : List Episode) : List Deferred :=
  kept es ++ s.game.state.gate.queue.drop es.length

theorem spared_cons_of_ok {gate : Gate} {move : Option MoveResult}
    (hnext : s.game.state.gate.next? = some (d, gate))
    (hok : Episode.result ⟨s.withGate gate, .resume d⟩ = .ok move) :
    s.spared (⟨s.withGate gate, .resume d⟩ :: es) =
      d :: (kept es ++ gate.queue.drop es.length) := by
  unfold spared kept resumptions
  rw [(Gate.next?_eq_some hnext).2.2, List.filter_cons_of_pos (by simp [Episode.failed, hok])]
  rfl

theorem spared_cons_of_failed {gate : Gate} {f : Failure}
    (hnext : s.game.state.gate.next? = some (d, gate))
    (hfailed : Episode.result ⟨s.withGate gate, .resume d⟩ = .error (.failed f)) :
    s.spared (⟨s.withGate gate, .resume d⟩ :: es) =
      kept es ++ gate.queue.drop es.length := by
  unfold spared kept
  rw [(Gate.next?_eq_some hnext).2.2,
    List.filter_cons_of_neg (by simp [Episode.failed, hfailed])]
  rfl

/-- Draining leaves the world and the state of play that it would leave if those actions that
fail had never waited, and then none fails. -/
theorem Draining.spares {n m : Nat} {first : Option Failure} {s t : Session}
    {r : Except Halt (Option Failure) × Session} {es : List Episode}
    (h : Draining n first s r es) (hreturn : r.1 ≠ .error .lostPlace) (hn : Suffices n s)
    (horderly : Orderly s.game.world s.game.state) (ht : s.Requeued (s.spared es) t)
    (hm : Suffices m t) (earlier : Option Failure) :
    (drain m earlier t).1 = .ok earlier ∧ (drain m earlier t).2.game.world = r.2.game.world ∧
      (drain m earlier t).2.game.state = r.2.game.state := by
  induction h generalizing m t with
  | @stopped n _ s hstop =>
    have hstate : t.game.state = s.game.state := ht.state
    have hnext : t.game.state.gate.next? = none := by
      rw [hstate]
      exact hn.next?_eq_none hstop
    rw [drain_of_next?_eq_none hnext]
    exact ⟨rfl, ht.world, hstate⟩
  | lost => exact (hreturn rfl).elim
  | @resumed n first s d gate r es hnext hne hdraining ih =>
    have hafter : Orderly _ _ := (invariant_orderly _ _).after horderly (.resume hnext)
    rcases Episode.cases ⟨s.withGate gate, .resume d⟩ with
      ⟨move, hok, -, -⟩ | ⟨f, hfailed, -, -⟩ | ⟨hlost, -, -⟩
    · rw [spared_cons_of_ok hnext hok] at ht
      obtain ⟨m', t', later, hm, hdrain, hlater, ht⟩ :=
        ht.drain_of_ok hm horderly hnext hok earlier
      -- what joins the queue comes after all that is resumed
      have hlength : es.length ≤ gate.queue.length := by
        have htakes := (hdraining.resumed hnext hne).takes.1
        rw [(Gate.next?_eq_some hnext).2.2] at htakes
        exact Nat.le_of_succ_le_succ htakes
      have hspared : kept es ++ gate.queue.drop es.length ++ later =
          (Episode.after ⟨s.withGate gate, .resume d⟩).spared es := by
        unfold spared
        rw [hlater, List.append_assoc]
        exact congrArg _ (List.drop_append_of_le_length hlength).symm
      rw [hspared] at ht
      rw [hdrain]
      exact ih hreturn (hn.after hnext) hafter ht hm
    · rw [spared_cons_of_failed hnext hfailed] at ht
      obtain ⟨hgate, ht⟩ := ht.of_failed hnext hfailed
      refine ih hreturn (hn.after hnext) hafter ?_ hm
      unfold spared
      rwa [hgate]
    · exact (hne hlost).elim

/-! ## Confirming -/

/-- The session as if those actions had never waited whose resumptions failed. -/
def sparing (s : Session) (es : List Episode) : Session :=
  s.withGate { s.game.state.gate with queue := s.spared es }

/-- The first failure, if any, as what a confirmation results in. -/
def verdict : Option Failure → Except Halt Unit
  | none => .ok ()
  | some f => .error (.failed f)

theorem confirmEpisodes_of_complete (hshow : s.dialogShowing = true)
    (hcomplete : s.game.stage.pager.isComplete = true) :
    s.confirmEpisodes = drainEpisodes s.game.state.gate.queue.length s.endDialog := by
  unfold confirmEpisodes
  rw [hshow, hcomplete]
  rfl

/-- Once all pages have been shown, a confirmation ends the dialog and drains the queue. -/
theorem confirm_of_complete (hshow : s.dialogShowing = true)
    (hcomplete : s.game.stage.pager.isComplete = true) :
    s.confirm.1 = (drain s.game.state.gate.queue.length none s.endDialog).1.bind verdict ∧
      s.confirm.2.game = (drain s.game.state.gate.queue.length none s.endDialog).2.game := by
  unfold confirm
  rw [hshow, hcomplete]
  simp only [Bool.not_true, Bool.false_eq_true, if_false]
  rcases drain s.game.state.gate.queue.length none s.endDialog with ⟨halt | _ | f, t⟩
  · exact ⟨rfl, rfl⟩
  · exact ⟨rfl, settlePointer_game t⟩
  · exact ⟨rfl, settlePointer_game t⟩

/-- What becomes of the actions that wait when a dialog is confirmed, in a world that never
shuffles. Each is taken off the front of the queue and resumed at most once. Unless one loses
the place of a sequence, the confirmation stops under a dialog or with nothing waiting and
results in the first failure. It leaves the world and the state of play that it would leave if
those that failed had never waited, and then it does not fail. -/
theorem failures_dropped {w : World} {config : Config} {stage : Stage} {s₀ s : Session}
    {es : List Episode} (hnever : w.sprites.NeverShuffles)
    (hstart : start w config stage = .ok s₀) (hrun : Run s₀ es s)
    (hshow : s.dialogShowing = true) (hcomplete : s.game.stage.pager.isComplete = true) :
    s.confirmEpisodes.length ≤ s.game.state.gate.queue.length ∧
      resumptions s.confirmEpisodes =
        s.game.state.gate.queue.take s.confirmEpisodes.length ∧
      ((∃ e ∈ s.confirmEpisodes, e.result = .error .lostPlace) ∧
          s.confirm.1 = .error .lostPlace ∨
        (∀ e ∈ s.confirmEpisodes, e.result ≠ .error .lostPlace) ∧
          (s.confirm.2.dialogShowing = true ∨ s.confirm.2.game.state.gate.queue = []) ∧
          s.confirm.1 = verdict (s.confirmEpisodes.findSome? Episode.failure?) ∧
          (s.sparing s.confirmEpisodes).confirm.1 = .ok () ∧
          (s.sparing s.confirmEpisodes).confirm.2.game.world = s.confirm.2.game.world ∧
          (s.sparing s.confirmEpisodes).confirm.2.game.state = s.confirm.2.game.state) := by
  have horderly := orderly_of_run hnever hstart hrun
  have hdraining := draining s.game.state.gate.queue.length none s.endDialog
  obtain ⟨hresult, hgame⟩ := confirm_of_complete hshow hcomplete
  rw [← confirmEpisodes_of_complete hshow hcomplete] at hdraining
  generalize s.confirmEpisodes = taken at hdraining ⊢
  generalize drain s.game.state.gate.queue.length none s.endDialog = r
    at hdraining hresult hgame
  obtain ⟨hlength, htakes⟩ := hdraining.takes
  refine ⟨hlength, htakes, ?_⟩
  by_cases hlost : r.1 = .error .lostPlace
  · left
    rw [hresult, hlost]
    exact ⟨hdraining.lostPlace hlost, rfl⟩
  · right
    have hsuffices : Suffices s.game.state.gate.queue.length s.endDialog :=
      Or.inr (Nat.le_refl _)
    have hsuffices' : Suffices (s.sparing taken).game.state.gate.queue.length
        (s.sparing taken).endDialog := Or.inr (Nat.le_refl _)
    have hsettled := hdraining.settled hsuffices hlost
    have hrequeued : s.endDialog.Requeued (s.endDialog.spared taken)
        (s.sparing taken).endDialog := ⟨rfl, rfl, rfl⟩
    obtain ⟨hresult', hgame'⟩ := confirm_of_complete (s := s.sparing taken) hshow hcomplete
    obtain ⟨hok, hworld, hstate⟩ := hdraining.spares hlost hsuffices
      ⟨horderly.sprites, horderly.waiting⟩ hrequeued hsuffices' none
    refine ⟨hdraining.returns hlost, ?_, ?_, ?_, ?_, ?_⟩
    · unfold dialogShowing
      rw [hgame]
      exact or_iff_not_imp_right.mpr hsettled
    · rw [hresult, hdraining.first_failure hlost, Option.none_or]
      rfl
    · rw [hresult', hok]
      rfl
    · rw [hgame', hgame, hworld]
    · rw [hgame', hgame, hstate]

/-- A wall that does something when it is pushed. -/
def crier (name : String) (pushed : List Action) : Sprite where
  __ := plainSprite name
  isWall := true
  behaviors := [⟨"push", pushed⟩]

/-- A crier who speaks, looks for a ghost, is given, speaks again, and is given again. -/
def herald : Sprite :=
  crier "herald" [.dialog "Hear", .giveItem "ghost" 1 true, .giveItem "herald" 1 true,
    .dialog "Hear again", .giveItem "herald" 1 true]

/-- The herald's first words hold four actions back. The first of them fails when they are
confirmed, the second gives, and the third speaks again, so that the last one waits on. -/
theorem failures_dropped_herald :
    (beside herald []).sprites.NeverShuffles ∧
      start (beside herald []) .default (.ofPageChars 40) = .ok (atTile herald []) ∧
        ∃ es s, Run (atTile herald []) es s ∧ s.dialogShowing = true ∧
          s.game.stage.pager.isComplete = true ∧ s.game.state.gate.queue.length = 4 ∧
          s.confirmEpisodes.length = 3 ∧ s.confirm.2.game.state.gate.queue.length = 1 ∧
          s.confirm.2.game.state.inventory.count "herald" = 1 ∧
          s.confirm.1 = .error (.failed (.unknownSprite "ghost")) ∧
          (s.sparing s.confirmEpisodes).confirm.1 = .ok () ∧
          (s.sparing s.confirmEpisodes).confirm.2.game.world = s.confirm.2.game.world ∧
          (s.sparing s.confirmEpisodes).confirm.2.game.state = s.confirm.2.game.state := by
  have hnever : (beside herald []).sprites.NeverShuffles := by decide
  have hstart : start (beside herald []) .default (.ofPageChars 40) = .ok (atTile herald []) :=
    rfl
  obtain ⟨es, s, hrun, hshow, hcomplete, hqueue, hlength, hleft, hcount, hresult⟩ :
      ∃ es s, Run (atTile herald []) es s ∧ s.dialogShowing = true ∧
        s.game.stage.pager.isComplete = true ∧ s.game.state.gate.queue.length = 4 ∧
        s.confirmEpisodes.length = 3 ∧ s.confirm.2.game.state.gate.queue.length = 1 ∧
        s.confirm.2.game.state.inventory.count "herald" = 1 ∧
        s.confirm.1 = .error (.failed (.unknownSprite "ghost")) :=
    ⟨_, _, .call (.move (some .right)) .nil (by decide), rfl, rfl, rfl, rfl, rfl, by decide, rfl⟩
  obtain ⟨-, -, ⟨-, hlost⟩ | ⟨-, -, -, hspared⟩⟩ :=
    failures_dropped hnever hstart hrun hshow hcomplete
  · cases hlost.symm.trans hresult
  · exact ⟨hnever, hstart, es, s, hrun, hshow, hcomplete, hqueue, hlength, hleft,
      hcount, hresult, hspared⟩

/-- A crier who turns into a loud one with the second push. -/
def hushed : Sprite :=
  crier "hushed" [.giveItem "hushed" 1 true, .giveItem "hushed" 1 true,
    .sequence false false [.giveItem "hushed" 1 true, .transformSelf "loud"]]

/-- A crier who speaks, looks for a ghost, and gives himself in a sequence of one action. -/
def loud : Sprite :=
  crier "loud" [.dialog "Hear", .giveItem "ghost" 1 true,
    .sequence true false [.giveItem "loud" 1 true]]

/-- The loud crier holds an action back that fails, and a sequence that finds the bookmark of
the hushed one. So the confirmation neither succeeds nor results in the failure. -/
theorem lostPlace_loud :
    (beside hushed [loud]).sprites.NeverShuffles ∧
      start (beside hushed [loud]) .default (.ofPageChars 40) = .ok (atTile hushed [loud]) ∧
      ∃ es s, Run (atTile hushed [loud]) es s ∧ s.dialogShowing = true ∧
        s.game.stage.pager.isComplete = true ∧ s.game.state.gate.queue.length = 2 ∧
        s.confirmEpisodes.map Episode.result =
          [.error (.failed (.unknownSprite "ghost")), .error .lostPlace] ∧
        s.confirm.1 ≠ .error (.failed (.unknownSprite "ghost")) ∧
        s.confirm.1 = .error .lostPlace := by
  have hrun : Run (atTile hushed [loud]) _ _ :=
    .call (.move (some .right)) (.call (.move (some .right))
      (.call (.move (some .right)) .nil (by decide)) (by decide)) (by decide)
  exact ⟨by decide, rfl, _, _, hrun, by decide, by decide, by decide, by decide,
    by decide, by decide⟩

end Session

end TileAdventure
