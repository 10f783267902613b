import TileAdventure.Proofs.Session.Queue
import TileAdventure.Proofs.Session.Tiles

/-!
# Only moves move

Actions that waited are resumed with all that they do, but what they do to the target comes to
nothing, since nobody occupies a cell after them, and no tile goes, since nobody sweeps. So a
confirmation keeps the avatar on its cell and all tiles on theirs, however many actions it
resumes and whether these fail or not (`Confirmation.still`), and with it every call that
evaluates no move (`still_of_call`).
-/

namespace TileAdventure

namespace Session

/-- From `s` to `t` the avatar stays in its room and on its cell and looks the same way, and
all tiles stay on their cells. -/
structure Still (s t : Session) : Prop where
  room : t.game.state.room = s.game.state.room
  palette : t.game.state.palette = s.game.state.palette
  avatar : t.game.state.avatar = s.game.state.avatar
  layout : t.game.world.rooms.layout = s.game.world.rooms.layout

namespace Still

variable {s t u : Session}

theorem refl (s : Session) : s.Still s :=
  ⟨rfl, rfl, rfl, rfl⟩

theorem trans (h : s.Still t) (h' : t.Still u) : s.Still u where
  room := h'.room.trans h.room
  palette := h'.palette.trans h.palette
  avatar := h'.avatar.trans h.avatar
  layout := h'.layout.trans h.layout

theorem of_game (h : t.game = s.game) : s.Still t := by
  constructor <;> rw [h]

end Still

variable {s t : Session} {es : List Episode}

theorem Sets.still (h : Sets s t) : s.Still t :=
  .of_game h.game

theorem still_draw (s : Session) :
    s.Still { s with game := (s.game.draw s.avatarName s.clock.frame).2 } := by
  obtain ⟨notices, -, hdraw⟩ := s.game.draw_eq_tell s.avatarName s.clock.frame
  rw [hdraw]
  exact ⟨rfl, rfl, rfl, rfl⟩

/-! ## Resuming actions -/

/-- An action that is resumed acts in a scene, and of the scene neither the target nor the
marks are put into effect. -/
theorem still_tryResume (s : Session) (d : Deferred) : s.Still (tryResume d s).2 := by
  have hlayout := Episode.layout_tryResume s d
  cases hp : s.game.palette? with
  | error f =>
    rw [tryResume_of_failure hp]
    exact .refl s
  | ok palette =>
    rw [tryResume_of_palette hp] at hlayout ⊢
    exact ⟨rfl, rfl, rfl, hlayout⟩

/-- A resumption moves nothing, and neither does its undoing. -/
theorem still_resume (s : Session) (d : Deferred) :
    s.Still (Episode.after ⟨s, .resume d⟩) := by
  have hattempt : s.Still ((Evaluation.resume d).attempt s).2 := s.still_tryResume d
  rcases Episode.cases ⟨s, .resume d⟩ with ⟨_, -, -, hafter⟩ | ⟨_, -, -, hafter⟩ | ⟨-, -, hafter⟩
  · rw [hafter]
    exact hattempt
  · obtain ⟨hworld, hstate⟩ := Episode.restore_attempt ⟨s, .resume d⟩
    rw [hafter]
    constructor <;> simp only [hworld, hstate]
  · rw [hafter]
    exact hattempt

/-- Taking an action off the queue moves nothing either. -/
theorem still_resume_withGate (s : Session) (gate : Gate) (d : Deferred) :
    s.Still (Episode.after ⟨s.withGate gate, .resume d⟩) :=
  have hgate : s.Still (s.withGate gate) := ⟨rfl, rfl, rfl, rfl⟩
  hgate.trans ((s.withGate gate).still_resume d)

/-- Draining moves nothing, whether it loses a place or not. -/
theorem Draining.still {n : Nat} {first : Option Failure}
    {r : Except Halt (Option Failure) × Session} (h : Draining n first s r es) :
    s.Still r.2 := by
  induction h with
  | stopped => exact .refl _
  | lost => exact still_resume_withGate _ _ _
  | resumed _ _ _ ih => exact (still_resume_withGate _ _ _).trans ih

theorem Confirmation.still {r : Except Halt Unit × Session} (h : Confirmation s r es) :
    s.Still r.2 := by
  have hend : s.Still s.endDialog := ⟨rfl, rfl, rfl, rfl⟩
  cases h with
  | nothing => exact .refl s
  | page => exact ⟨rfl, rfl, rfl, rfl⟩
  | halted _ hdraining => exact hend.trans hdraining.still
  | @drained _ t _ _ hdraining =>
    exact hend.trans (hdraining.still.trans t.sets_settlePointer.still)

/-! ## Calls -/

theorem still_handle (s : Session) (input : Input) : s.Still (s.handle input).2 := by
  rcases s.handle_cases input with ⟨t, -, hsets, heq⟩ | ⟨-, -, hsets⟩
  · rw [heq]
    exact hsets.still.trans t.confirmation.still
  · exact hsets.still

/-- A tick moves nothing unless it evaluates a move. -/
theorem still_tick_or_move (s : Session) (elapsed : Float) :
    s.Still (s.tick elapsed).2 ∨
      ∃ t direction, s.episodes (.tick elapsed) = [⟨t, .move direction⟩] := by
  rcases (s.elapse elapsed).2.evaluateInput_eq (s.elapse elapsed).1 with
    heq | ⟨t, direction, -, hes, -⟩
  · left
    have helapse := (s.sets_elapse elapsed).still
    rcases s.tick_cases elapsed with ⟨_, -, htick⟩ | ⟨_, -, hafter, -⟩
    · rw [htick, heq]
      exact helapse
    · rw [hafter, heq]
      exact helapse.trans (still_draw _)
  · exact Or.inr ⟨t, direction, hes⟩

/-- What moves the avatar or takes tiles away. No input and no confirmation does, whatever
actions it resumes and however these end: the avatar stays in its room and on its cell, looking
the same way, under the same palette, and the rooms have the same tiles on the same cells. A
tick does not either, unless it evaluates a move. -/
theorem still_of_call (s : Session) :
    (∀ input, s.Still (s.handle input).2) ∧ s.Still s.confirm.2 ∧
      ∀ elapsed, s.Still (s.tick elapsed).2 ∨
        ∃ t direction, s.episodes (.tick elapsed) = [⟨t, .move direction⟩] :=
  ⟨s.still_handle, s.confirmation.still, s.still_tick_or_move⟩

-- Under its dialog the sign at the crossing puts off to send the walker back. When the player
-- confirms, that is resumed, and the walker stays.
example :
    let met := (((atCrossing.move (some .right)).2).move (some .right)).2
    resumptions (met.episodes .confirm) ≠ [] ∧
      met.confirm.2.game.state.location = met.game.state.location := by
  decide

end Session

end TileAdventure
