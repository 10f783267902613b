import TileAdventure.Console.Program
import TileAdventure.Proofs.Control.History
import TileAdventure.Proofs.Session.UnderDialog

/-!
# Pressing a key

Only inputs press and release keys: no evaluation does, whether it is undone or not, no
confirmation and no tick (`Session.keys_handle`, `Session.keys_tick`). So the keys held change
with the commands that name them (`Console.mem_keys_of_apply`).

To press a key for one evaluation holds it, lets the input be evaluated and releases it. If the
evaluation or the picture fails, the key is released all the same. But under a dialog the key
confirms, and if that fails, the command ends before the release. The key has not been pressed
then, but if it was held before, it still is (`Console.held_after_press`).
-/

namespace TileAdventure

/-! ## Keys along evaluations -/

namespace Session

variable {s t : Session} {es : List Episode}

@[simp] theorem keys_settlePointer (s : Session) :
    s.settlePointer.controls.held = s.controls.held := by
  unfold settlePointer
  split <;> rfl

theorem Course.keys {direction : Option Direction} {r : Except Halt MoveResult × Session}
    (h : Course s direction r) : r.2.controls.held = s.controls.held := by
  cases h with
  | leftWorld | unpainted | halted => rfl
  | blocked | refused | moved => exact keys_settlePointer _

theorem keys_attempt (evaluation : Evaluation) (s : Session) :
    (evaluation.attempt s).2.controls.held = s.controls.held := by
  cases evaluation with
  | resume => rfl
  | move direction =>
    obtain ⟨facing, hturn⟩ := s.turn_eq direction
    have hkeys := (s.course_tryMove direction).keys
    rw [hturn] at hkeys
    exact hkeys

/-- An evaluation leaves the keys held as they are, and so does its undoing. -/
theorem keys_after (e : Episode) : e.after.controls.held = e.before.controls.held := by
  have hattempt := keys_attempt e.evaluation e.before
  rcases e.cases with ⟨_, -, -, hafter⟩ | ⟨_, -, -, hafter⟩ | ⟨-, -, hafter⟩ <;> rw [hafter]
  · exact hattempt
  · exact hattempt
  · exact hattempt

theorem keys_move (s : Session) (direction : Option Direction) :
    (s.move direction).2.controls.held = s.controls.held :=
  (s.move_eq direction).2 ▸ keys_after ⟨s, .move direction⟩

theorem Draining.keys {n : Nat} {first : Option Failure}
    {r : Except Halt (Option Failure) × Session} (h : Draining n first s r es) :
    r.2.controls.held = s.controls.held := by
  induction h with
  | stopped => rfl
  | lost => exact keys_after _
  | resumed _ _ _ ih => exact ih.trans (keys_after _)

theorem Confirmation.keys {r : Except Halt Unit × Session} (h : Confirmation s r es) :
    r.2.controls.held = s.controls.held := by
  cases h with
  | nothing | page => rfl
  | halted _ hdraining => exact hdraining.keys
  | drained _ hdraining => exact (keys_settlePointer _).trans hdraining.keys

theorem keys_evaluateInput (s : Session) (due : Bool) :
    (s.evaluateInput due).2.controls.held = s.controls.held := by
  unfold evaluateInput
  split
  · exact (keys_move _ _).trans (Controls.held_next s.controls)
  · rfl

/-- A tick leaves the keys held as they are. -/
theorem keys_tick (s : Session) (elapsed : Float) :
    (s.tick elapsed).2.controls.held = s.controls.held := by
  have heval := (s.elapse elapsed).2.keys_evaluateInput (s.elapse elapsed).1
  rcases s.tick_cases elapsed with ⟨halt, -, htick⟩ | ⟨move, -, hafter, -⟩
  · rw [htick]
    exact heval
  · rw [hafter]
    exact heval

/-- The keys held after an input. Under a dialog no key is pressed. -/
def keysAfter (s : Session) : Input → List Key
  | .keyDown key false => if s.dialogShowing then s.controls.held else s.controls.held ++ [key]
  | .keyUp key => s.controls.held.filter (· ≠ key)
  | _ => s.controls.held

theorem keys_handle (s : Session) (input : Input) :
    (s.handle input).2.controls.held = s.keysAfter input := by
  cases input with
  | keyDown key repeated =>
    cases repeated with
    | true => rfl
    | false =>
      unfold handle keysAfter
      dsimp only
      split
      · split
        · exact s.confirmation.keys
        · rfl
      · rfl
  | keyUp | touch | drag => rfl
  | lift =>
    have hlift : (s.controls.lift s.dialogShowing).2.held = s.controls.held := rfl
    unfold handle keysAfter
    generalize s.controls.lift s.dialogShowing = lifted at hlift ⊢
    obtain ⟨lift, controls⟩ := lifted
    cases lift with
    | notDown | replayArmed => exact hlift
    | released =>
      dsimp only
      split
      · exact (confirmation { s with controls }).keys.trans hlift
      · exact hlift

/-- A key that is held after an input was held before, or the input has pressed it. -/
theorem mem_keysAfter {input : Input} {key : Key} (h : key ∈ s.keysAfter input) :
    key ∈ s.controls.held ∨ input = .keyDown key false := by
  unfold keysAfter at h
  split at h
  · split at h
    · exact Or.inl h
    · rcases List.mem_append.mp h with h | h
      · exact Or.inl h
      · exact Or.inr (by rw [List.mem_singleton.mp h])
  · exact Or.inl (List.mem_of_mem_filter h)
  · exact Or.inl h

end Session

/-! ## Commands -/

namespace Console

variable {s t u : Session} {command : Command} {commands : List Command} {key : Key}

/-- The session after a command, when what the dialog said has been printed. -/
def after (s : Session) (command : Command) : Session :=
  (apply s command).2.takeLog.2

/-- The program answers a command and goes on in another session. -/
def Answers (s : Session) (command : Command) (t : Session) : Prop :=
  ∃ lines, answer s command = (lines, .proceed t)

/-- The program answers commands one after another. -/
inductive Plays (s : Session) : List Command → Session → Prop
  | nil : Plays s [] s
  | answer {commands : List Command} {command : Command} {t u : Session} :
      Plays s commands t → Answers t command u → Plays s (commands ++ [command]) u

/-- The program answers a command, other than to quit, and goes on if no place is lost. -/
theorem answers_iff : Answers s command t ↔
    command ≠ .quit ∧ (apply s command).1 ≠ .error .lostPlace ∧ t = after s command := by
  unfold Answers after answer
  split
  · simp
  · rename_i hquit
    have hne : command ≠ .quit := hquit
    rcases apply s command with ⟨(f | _) | replies, s'⟩
    · simp [hne, eq_comm]
    · simp
    · simp [hne, eq_comm]

/-- An arrow that goes down fails just as the dialog that it confirms. -/
theorem handle_arrow (s : Session) (d : Direction) :
    (s.handle (.keyDown (.arrow d) false)).1 =
      if s.dialogShowing then s.confirm.1 else .ok () := by
  unfold Session.handle
  dsimp only
  split <;> rfl

/-- If an arrow confirms a dialog and that fails, the command to press it ends there. -/
theorem press_of_fails {d : Direction} {halt : Halt} (hs : s.dialogShowing = true)
    (hfails : s.confirm.1 = .error halt) :
    press s (.arrow d) = (.error halt, (s.handle (.keyDown (.arrow d) false)).2) := by
  have hdown : (s.handle (.keyDown (.arrow d) false)).1 = .error halt := by
    rw [handle_arrow, if_pos hs, hfails]
  unfold press
  split
  · rename_i heq
    rw [heq] at hdown ⊢
    cases hdown
    rfl
  · rename_i heq
    rw [heq] at hdown
    cases hdown

/-- An arrow that confirms a dialog and fails leaves the keys held as they are. -/
theorem keys_press_of_fails {d : Direction} (hs : s.dialogShowing = true)
    (hfails : ∃ halt, s.confirm.1 = .error halt) :
    (press s (.arrow d)).2.controls.held = s.controls.held := by
  obtain ⟨halt, hfails⟩ := hfails
  rw [press_of_fails hs hfails, s.keys_handle, Session.keysAfter, if_pos hs]

/-- An arrow that goes down is released, also if the evaluation or the picture fails. -/
theorem keys_press_of_not_fails {d : Direction}
    (hfails : ¬(s.dialogShowing = true ∧ ∃ halt, s.confirm.1 = .error halt))
    (hreturn : (press s (.arrow d)).1 ≠ .error .lostPlace) :
    (press s (.arrow d)).2.controls.held =
      (s.keysAfter (.keyDown (.arrow d) false)).filter (· ≠ .arrow d) := by
  have hdown := handle_arrow s d
  rw [← s.keys_handle]
  unfold press at hreturn ⊢
  split
  · rename_i halt down heq
    rw [heq] at hdown
    split at hdown
    · exact (hfails ⟨‹_›, halt, hdown.symm⟩).elim
    · cases hdown
  · rename_i down heq
    have htick := down.keys_tick 0
    rw [heq] at hreturn ⊢
    dsimp only at hreturn
    split
    · rename_i hlost
      rw [hlost] at hreturn
      exact (hreturn rfl).elim
    · rename_i ticked up _ hticked
      rw [hticked] at htick
      exact congrArg (List.filter (· ≠ .arrow d)) htick

/-- A key that is held after a command was held before, or the command has pressed it. -/
theorem mem_keys_of_apply (hreturn : (apply s command).1 ≠ .error .lostPlace)
    (h : key ∈ (apply s command).2.controls.held) :
    key ∈ s.controls.held ∨ command = .keyDown key := by
  have hhandle : ∀ {input}, key ∈ (s.handle input).2.controls.held →
      key ∈ s.controls.held ∨ input = .keyDown key false :=
    fun h => Session.mem_keysAfter (s.keys_handle _ ▸ h)
  cases command with
  | help | quit | state | inventory => exact Or.inl h
  | keyDown other =>
    refine (hhandle h).imp_right fun hinput => ?_
    cases hinput
    rfl
  | keyUp | touch | drag | lift => exact Or.inl ((hhandle h).resolve_right (by simp))
  | tick elapsed => exact Or.inl (s.keys_tick elapsed ▸ h)
  | confirm => exact Or.inl (s.confirmation.keys ▸ h)
  | press d =>
    refine Or.inl ?_
    by_cases hfails : s.dialogShowing = true ∧ ∃ halt, s.confirm.1 = .error halt
    · exact (keys_press_of_fails hfails.1 hfails.2 : _ = s.controls.held) ▸ h
    · obtain ⟨hmem, hne⟩ := List.mem_filter.mp (keys_press_of_not_fails hfails hreturn ▸ h)
      refine (Session.mem_keysAfter hmem).resolve_right fun hinput => ?_
      cases hinput
      simp at hne

/-- A key that is not held stays so until a command presses it. -/
theorem Plays.not_mem_keys (h : Plays s commands t) (hs : key ∉ s.controls.held)
    (hcommands : .keyDown key ∉ commands) : key ∉ t.controls.held := by
  induction h with
  | nil => exact hs
  | @answer commands command t u _ hanswer ih =>
    obtain ⟨-, hreturn, rfl⟩ := answers_iff.mp hanswer
    rw [List.mem_append, not_or] at hcommands
    intro hu
    rcases mem_keys_of_apply hreturn hu with ht | rfl
    · exact ih hcommands.1 ht
    · exact hcommands.2 (List.mem_singleton_self _)

/-- When an arrow is held after a command to press it: only if it was held before, a dialog
showed, and to confirm it failed, so that the command ended before the release. In every other
case the arrow is released, whether the evaluation and the picture succeed or not, and from then
on it is not held until a command presses it. -/
theorem held_after_press {d : Direction} (h : Answers s (.press d) t) :
    (.arrow d ∈ t.controls.held ↔ .arrow d ∈ s.controls.held ∧ s.dialogShowing = true ∧
      ∃ f, s.confirm.1 = .error (.failed f)) ∧
    (.arrow d ∉ t.controls.held → ∀ commands u, Plays t commands u →
      .keyDown (.arrow d) ∉ commands → .arrow d ∉ u.controls.held) := by
  obtain ⟨-, hreturn, rfl⟩ := answers_iff.mp h
  refine ⟨?_, fun hnot commands u hplays => hplays.not_mem_keys hnot⟩
  have hkeys : (after s (.press d)).controls.held = (press s (.arrow d)).2.controls.held := rfl
  rw [hkeys]
  by_cases hfails : s.dialogShowing = true ∧ ∃ halt, s.confirm.1 = .error halt
  · obtain ⟨hs, halt, hhalt⟩ := hfails
    rw [keys_press_of_fails hs ⟨halt, hhalt⟩, hhalt]
    cases halt with
    | failed f => exact ⟨fun hmem => ⟨hmem, hs, f, rfl⟩, And.left⟩
    | lostPlace => exact (hreturn (congrArg Prod.fst (press_of_fails hs hhalt))).elim
  · rw [keys_press_of_not_fails hfails hreturn]
    constructor
    · intro hmem
      simp at hmem
    · rintro ⟨-, hs, f, hf⟩
      exact (hfails ⟨hs, _, hf⟩).elim

/-- A lane with a walker and, next to it, a sign with the given push behavior. -/
def laneOf (actions : List Action) : World :=
  .ofParts (.ofGrid 4 1 1 1 false false)
    [{ Session.plainSprite "walker" with isAvatar := true },
      { Session.plainSprite "sign" with behaviors := [⟨"push", actions⟩] }]
    [⟨"day", []⟩]
    [⟨"day", [⟨⟨0⟩, "walker", 0, 0, false⟩, ⟨⟨1⟩, "sign", 1, 0, false⟩]⟩]

/-- The start of a session in such a lane. -/
def atLaneOf (actions : List Action) : Session where
  config := .default
  avatarName := "walker"
  game :=
    let walker : Sprite := { Session.plainSprite "walker" with isAvatar := true }
    let sign : Sprite := { Session.plainSprite "sign" with behaviors := [⟨"push", actions⟩] }
    let stage := (Stage.ofPageChars 64).tell
      (Game.entryNotices [walker, sign] walker ⟨"day", []⟩)
    ⟨laneOf actions, .ofLocation ⟨0, 0, 0⟩, stage, .ofSeed 0⟩
  controls := .ofThreshold Config.default.swipeThreshold
  clock := .start Config.default.frameInterval Config.default.inputInterval 12

theorem start_laneOf (actions : List Action) :
    Session.start (laneOf actions) .default (.ofPageChars 64) = .ok (atLaneOf actions) := rfl

/-- The lane whose sign speaks and then gives a ghost, which is no sprite. -/
def lane : World :=
  laneOf [.dialog "Halt", .giveItem "ghost" 1 true]

/-- The start of a session in the lane. -/
def atLane : Session :=
  atLaneOf [.dialog "Halt", .giveItem "ghost" 1 true]

/-- The lane whose sign gives the ghost at once. -/
def hauntedLane : World :=
  laneOf [.giveItem "ghost" 1 true]

/-- The start of a session in the haunted lane. -/
def atHauntedLane : Session :=
  atLaneOf [.giveItem "ghost" 1 true]

/-- The walker holds an arrow that leads to the sign, and presses it too. In the lane the command
moves him there and a dialog begins. In the haunted lane the evaluation fails, so that he stays.
The arrow goes up either way. -/
theorem held_after_press_lane :
    (Session.start lane .default (.ofPageChars 64) = .ok atLane ∧
      ∃ s t, Plays atLane [.keyDown (.arrow .right)] s ∧ .arrow .right ∈ s.controls.held ∧
        Answers s (.press .right) t ∧ t.dialogShowing = true ∧ .arrow .right ∉ t.controls.held ∧
        ∀ commands u, Plays t commands u → .keyDown (.arrow .right) ∉ commands →
          .arrow .right ∉ u.controls.held) ∧
    Session.start hauntedLane .default (.ofPageChars 64) = .ok atHauntedLane ∧
      ∃ s t, Plays atHauntedLane [.keyDown (.arrow .right)] s ∧ .arrow .right ∈ s.controls.held ∧
        (apply s (.press .right)).1 = .error (.failed (.unknownSprite "ghost")) ∧
        Answers s (.press .right) t ∧ t.game.state.location = ⟨0, 0, 0⟩ ∧
        .arrow .right ∉ t.controls.held ∧
        ∀ commands u, Plays t commands u → .keyDown (.arrow .right) ∉ commands →
          .arrow .right ∉ u.controls.held := by
  let s := after atLane (.keyDown (.arrow .right))
  let s' := after atHauntedLane (.keyDown (.arrow .right))
  have hdown : Answers atLane (.keyDown (.arrow .right)) s :=
    answers_iff.mpr ⟨nofun, by decide, rfl⟩
  have hpress : Answers s (.press .right) (after s (.press .right)) :=
    answers_iff.mpr ⟨nofun, by decide, rfl⟩
  have hdown' : Answers atHauntedLane (.keyDown (.arrow .right)) s' :=
    answers_iff.mpr ⟨nofun, by decide, rfl⟩
  have hpress' : Answers s' (.press .right) (after s' (.press .right)) :=
    answers_iff.mpr ⟨nofun, by decide, rfl⟩
  -- In neither lane does a dialog show when the arrow is pressed.
  have hnot : .arrow .right ∉ (after s (.press .right)).controls.held :=
    mt (held_after_press hpress).1.mp fun h => by cases h.2.1
  have hnot' : .arrow .right ∉ (after s' (.press .right)).controls.held :=
    mt (held_after_press hpress').1.mp fun h => by cases h.2.1
  exact ⟨⟨start_laneOf _, s, _, .answer .nil hdown, by decide, hpress, by decide, hnot,
      (held_after_press hpress).2 hnot⟩,
    start_laneOf _, s', _, .answer .nil hdown', by decide, by decide, hpress', by decide, hnot',
      (held_after_press hpress').2 hnot'⟩

/-- The walker holds the arrow and is at the sign, whose dialog is confirmed by pressing the
arrow. The ghost cannot be given, so the arrow is still held, and time moves the walker on. -/
theorem held_in_lane :
    Session.start lane .default (.ofPageChars 64) = .ok atLane ∧
      ∃ s t u, Plays atLane [.keyDown (.arrow .right), .tick 0] s ∧
        Answers s (.press .right) t ∧ .arrow .right ∈ t.controls.held ∧
        Answers t (.tick 200) u ∧ t.game.state.location = ⟨0, 1, 0⟩ ∧
        u.game.state.location = ⟨0, 2, 0⟩ := by
  let down := after atLane (.keyDown (.arrow .right))
  let s := after down (.tick 0)
  let t := after s (.press .right)
  have hdown : Answers atLane (.keyDown (.arrow .right)) down :=
    answers_iff.mpr ⟨nofun, by decide, rfl⟩
  have htick : Answers down (.tick 0) s := answers_iff.mpr ⟨nofun, by decide, rfl⟩
  have hpress : Answers s (.press .right) t := answers_iff.mpr ⟨nofun, by decide, rfl⟩
  have hlater : Answers t (.tick 200) (after t (.tick 200)) :=
    answers_iff.mpr ⟨nofun, by decide, rfl⟩
  exact ⟨start_laneOf _, s, t, _, .answer (.answer .nil hdown) htick, hpress, by decide, hlater,
    by decide, by decide⟩

end Console

end TileAdventure
