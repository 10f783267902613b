import TileAdventure.Proofs.Session.Dialogs
import TileAdventure.Proofs.Session.Tiles

/-!
# Moves that fail

A move that fails is undone, and a dialog that it has begun is ended. What undoing does not take
back is the end of the touch: a dialog that the encounter leaves ends it before the cell is to be
occupied (`Episode.MeetsDialog`), and if the cell is refused then, the dialog goes and the touch
is lost (`Session.undone_of_failed`, `Session.touch_lost_at_pit`). A move that fails in its
encounter leaves the touch alone, whatever dialogs it has begun.
-/

namespace TileAdventure

/-- By the calls it got, the dialog is open. -/
def DialogOpen (calls : List DialogCall) : Prop :=
  (edges calls).getLast? = some .began

/-- The encounter of an evaluation is over, and a dialog shows. -/
def Episode.MeetsDialog (e : Episode) : Prop :=
  ∃ m met scene, e.meeting? = some m ∧ m.encounter = (.ok met, scene) ∧
    scene.gate.showing = true

namespace Session

variable {s : Session} {direction : Option Direction}

/-- Turning touches neither controls nor clock. -/
theorem turn_controls (s : Session) (direction : Option Direction) :
    (s.turn direction).controls = s.controls ∧ (s.turn direction).clock = s.clock := by
  obtain ⟨facing, hturn⟩ := s.turn_eq direction
  rw [hturn]
  exact ⟨rfl, rfl⟩

theorem sweepAfter_controls (s : Session) (scene : Scene) :
    (s.sweepAfter scene).controls =
      if scene.gate.showing then s.controls.cancel else s.controls := by
  unfold sweepAfter settlePointer
  split <;> simp_all [dialogShowing, Game.sweep, Game.absorb]

theorem sweepAfter_clock (s : Session) (scene : Scene) :
    (s.sweepAfter scene).clock = s.clock := by
  unfold sweepAfter settlePointer
  split <;> rfl

/-- A course that fails leaves the clock alone, and the touch as well unless its encounter is
over under a dialog. -/
theorem Course.controls_of_failed {r : Except Halt MoveResult × Session}
    (h : Course s direction r) {f : Failure} (hr : r.1 = .error (.failed f)) :
    r.2.clock = s.clock ∧
      (r.2.controls = s.controls ∧ (∀ m met scene, s.meeting? direction = some m →
          m.encounter = (.ok met, scene) → scene.gate.showing = false) ∨
        r.2.controls = s.controls.cancel ∧ ∃ m met scene, s.meeting? direction = some m ∧
          m.encounter = (.ok met, scene) ∧ scene.gate.showing = true) := by
  cases h with
  | leftWorld | blocked | moved => cases hr
  | unpainted hstep hp => exact ⟨rfl, Or.inl ⟨rfl, by simp [meeting?, hstep, hp]⟩⟩
  | halted hstep hp hmeet =>
    obtain ⟨m, hm, hencounter⟩ := meeting?_of_palette hstep hp
    refine ⟨rfl, Or.inl ⟨rfl, fun m' met scene hm' hok => ?_⟩⟩
    obtain rfl : m = m' := Option.some.inj (hm.symm.trans hm')
    cases (hencounter.trans hmeet).symm.trans hok
  | @refused _ _ met scene _ hstep hp hmeet =>
    obtain ⟨m, hm, hencounter⟩ := meeting?_of_palette hstep hp
    refine ⟨s.sweepAfter_clock scene, ?_⟩
    rw [sweepAfter_controls]
    cases hshowing : scene.gate.showing with
    | false =>
      refine Or.inl ⟨rfl, fun m' met' scene' hm' hok => ?_⟩
      obtain rfl : m = m' := Option.some.inj (hm.symm.trans hm')
      cases (hencounter.trans hmeet).symm.trans hok
      exact hshowing
    | true => exact Or.inr ⟨rfl, m, met, scene, hm, hencounter.trans hmeet, hshowing⟩

/-- A move that fails goes back to the rooms and the state of play from what it has come to. -/
theorem move_of_failed {f : Failure} (h : (s.move direction).1 = .error (.failed f)) :
    (tryMove direction s).1 = .error (.failed f) ∧
      (s.move direction).2 = s.restore (tryMove direction s).2 := by
  unfold move undoing at h ⊢
  split at h
  · rename_i heq
    rw [heq]
    exact ⟨h, rfl⟩
  · rename_i hkept
    exact (hkept f (tryMove direction s).2 (Prod.ext h rfl)).elim

/-- In `t` all is as in `s` but for the controls, the stage and the random words. -/
structure Undone (s t : Session) : Prop where
  config : t.config = s.config
  avatarName : t.avatarName = s.avatarName
  world : t.game.world = s.game.world
  state : t.game.state = s.game.state
  clock : t.clock = s.clock

/-- A move that fails is undone, but it ends the touch if its encounter is over under a
dialog. -/
theorem undone_move {f : Failure} (h : (s.move direction).1 = .error (.failed f)) :
    s.Undone (s.move direction).2 ∧
      (¬Episode.MeetsDialog ⟨s, .move direction⟩ →
        (s.move direction).2.controls = s.controls) ∧
      (Episode.MeetsDialog ⟨s, .move direction⟩ →
        (s.move direction).2.controls = s.controls.cancel) := by
  obtain ⟨hfailed, heq⟩ := move_of_failed h
  obtain ⟨hclock, hcontrols⟩ := (s.course_tryMove direction).controls_of_failed hfailed
  obtain ⟨hturned, hturned'⟩ := s.turn_controls direction
  obtain ⟨hconfig, hname⟩ := s.tryMove_fixed direction
  obtain ⟨hworld, hstate⟩ := Episode.restore_attempt ⟨s, .move direction⟩
  rw [hturned] at hcontrols
  rw [heq]
  refine ⟨⟨hconfig, hname, hworld, hstate, hclock.trans hturned'⟩, fun hnot => ?_, ?_⟩
  · rcases hcontrols with ⟨hsame, -⟩ | ⟨-, hmeets⟩
    · exact hsame
    · exact (hnot hmeets).elim
  · rintro ⟨m, met, scene, hm, hok, hshowing⟩
    rcases hcontrols with ⟨-, hnone⟩ | ⟨hcancel, -⟩
    · cases (hnone m met scene hm hok).symm.trans hshowing
    · exact hcancel

/-- Along a run the calls of the dialog since the start are in step with the gate. -/
theorem inStep_of_run {w : World} {config : Config} {stage : Stage} {s₀ : Session}
    {es : List Episode} (hstart : start w config stage = .ok s₀) (hrun : Run s₀ es s) :
    ∃ notices, s.game.stage.log = stage.log ++ notices ∧
      InStep (dialogCalls notices) s.dialogShowing := by
  obtain ⟨hidle, hquiet⟩ := idle_start hstart
  have hbegin : InStep [] s₀.dialogShowing := by
    rw [dialogShowing, hidle]
    exact .nil
  obtain ⟨calls, hlogs, hkeep⟩ := hrun.steps.logs
  obtain ⟨notices, hlog, rfl⟩ := hquiet.trans hlogs
  exact ⟨notices, hlog, hkeep [] hbegin⟩

/-- What a move that fails leaves along a run from the start of a session. The rooms and the
state of play are as before, and so is the clock; the dialog is open, by the calls it got since
the start, just if it was before. The controls are as before unless the encounter was over and
a dialog showed: then the touch is ended, although the dialog is too. -/
theorem undone_of_failed {w : World} {config : Config} {stage : Stage} {s₀ : Session}
    {es : List Episode} (hstart : start w config stage = .ok s₀) (hrun : Run s₀ es s)
    {f : Failure} (h : (s.move direction).1 = .error (.failed f)) :
    s.Undone (s.move direction).2 ∧
      (∃ earlier later, s.game.stage.log = stage.log ++ earlier ∧
        (s.move direction).2.game.stage.log = stage.log ++ earlier ++ later ∧
        (DialogOpen (dialogCalls (earlier ++ later)) ↔ DialogOpen (dialogCalls earlier))) ∧
      (¬Episode.MeetsDialog ⟨s, .move direction⟩ →
        (s.move direction).2.controls = s.controls) ∧
      (Episode.MeetsDialog ⟨s, .move direction⟩ →
        (s.move direction).2.controls = s.controls.cancel) := by
  obtain ⟨hundone, hcontrols⟩ := undone_move h
  obtain ⟨earlier, hlog, hstep⟩ := inStep_of_run hstart hrun
  obtain ⟨_, ⟨later, hlog', rfl⟩, -, hkeep⟩ := Episode.logs ⟨s, .move direction⟩
  rw [(s.move_eq direction).2] at hlog' hkeep
  have hshowing : (s.move direction).2.dialogShowing = s.dialogShowing :=
    congrArg (fun state : PlayState => state.gate.showing) hundone.state
  have hstep' := hkeep _ hstep
  rw [hshowing, ← dialogCalls_append] at hstep'
  refine ⟨hundone, ⟨earlier, later, hlog, by rw [hlog', hlog], ?_⟩, hcontrols⟩
  exact hstep'.showing_iff.symm.trans hstep.showing_iff

/-- A pit that sends the walker out of the room and then speaks. -/
def pit : Sprite :=
  { plainSprite "pit" with behaviors := [⟨"push", [.moveAvatar 0 0 9, .dialog "Mind the gap"]⟩] }

theorem start_pit : start (beside pit []) .default (.ofPageChars 40) = .ok (atTile pit []) := rfl

/-- The move to the pit fails when its dialog shows, and so it ends the touch. -/
theorem undone_of_failed_pit :
    ∃ es s, Run (atTile pit []) es s ∧
      (s.move (some .right)).1 = .error (.failed (.cellOutside 0 0 9)) ∧
      Episode.MeetsDialog ⟨s, .move (some .right)⟩ ∧ s.Undone (s.move (some .right)).2 ∧
      (s.move (some .right)).2.controls = s.controls.cancel := by
  have hrun : Run (atTile pit []) _ _ := .call (.handle (.touch ⟨0, 0⟩)) .nil (by decide)
  have hfailed : ((((atTile pit []).call (.handle (.touch ⟨0, 0⟩))).2).move (some .right)).1 =
      .error (.failed (.cellOutside 0 0 9)) := rfl
  have hmeets : Episode.MeetsDialog
      ⟨((atTile pit []).call (.handle (.touch ⟨0, 0⟩))).2, .move (some .right)⟩ :=
    ⟨_, _, _, rfl, rfl, rfl⟩
  have hundone := undone_of_failed start_pit hrun hfailed
  exact ⟨_, _, hrun, hfailed, hmeets, hundone.1, hundone.2.2.2 hmeets⟩

/-- The walker is dragged towards the pit. The move fails and no dialog is left, but the touch
is over. -/
theorem touch_lost_at_pit :
    start (beside pit []) .default (.ofPageChars 40) = .ok (atTile pit []) ∧
      ∃ es s, Run (atTile pit []) es s ∧
        (s.move (some .right)).1 = .error (.failed (.cellOutside 0 0 9)) ∧
        s.dialogShowing = false ∧ (s.move (some .right)).2.dialogShowing = false ∧
        s.controls.pointer.isDown = true ∧
        (s.move (some .right)).2.controls.pointer.isDown = false ∧
        (s.move (some .right)).2.controls ≠ s.controls := by
  have hrun : Run (atTile pit []) _ _ :=
    .call (.handle (.drag ⟨100, 0⟩)) (.call (.handle (.touch ⟨0, 0⟩)) .nil (by decide))
      (by decide)
  refine ⟨start_pit, _, _, hrun, rfl, rfl, rfl, rfl, rfl, fun h => ?_⟩
  have hdown := congrArg (fun controls : Controls => controls.pointer.isDown) h
  cases (show false = true from hdown)

end Session

end TileAdventure
