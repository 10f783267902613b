import TileAdventure.Proofs.Session.Dialogs
import TileAdventure.Proofs.Session.Drawing

/-!
# Under a dialog

A dialog that begins ends the touch that may have caused it, so that lifting that touch does
not confirm the dialog: a call in which a dialog begins and which ends under it leaves the
pointer up (`endsTouch_call`). From there on the dialog stays, and the game with it, until an
arrow is pressed or a new touch is lifted (`held_call`, `held_callAll`).
-/

namespace TileAdventure

/-- The calls of the dialog between two stages are told by the log. -/
theorem Stage.Logs.unique {s t : Stage} {calls more : List DialogCall} (h : s.Logs t calls)
    (h' : s.Logs t more) : calls = more := by
  obtain ⟨notices, hlog, rfl⟩ := h
  obtain ⟨notices', hlog', rfl⟩ := h'
  rw [List.append_cancel_left (hlog.symm.trans hlog')]

/-- An evaluation that begins under a dialog ends under it and leaves the stage quiet, also if
it fails. -/
theorem Episode.quiet_of_showing {e : Episode} (h : e.before.dialogShowing = true) :
    e.after.dialogShowing = true ∧ e.before.game.stage.Quiet e.after.game.stage := by
  have hopening : Stage.Opening e.before.dialogShowing _ _ _ :=
    Game.Changes.opening e.changes_attempt
  rw [h] at hopening
  obtain ⟨hshowing, hquiet⟩ := hopening.of_true
  rcases e.cases with ⟨_, -, -, hafter⟩ | ⟨_, -, -, hafter⟩ | ⟨-, -, hafter⟩
  · exact hafter ▸ ⟨hshowing, hquiet⟩
  · have hstage : (e.before.restore (e.evaluation.attempt e.before).2).game.stage =
        (e.evaluation.attempt e.before).2.game.stage := by
      simp [Session.restore, h]
    rw [hafter, hstage]
    exact ⟨h, hquiet⟩
  · exact hafter ▸ ⟨hshowing, hquiet⟩

namespace Session

variable {s t u : Session} {es : List Episode}

/-! ## Touches end when dialogs begin -/

theorem isDown_settlePointer (h : s.settlePointer.dialogShowing = true) :
    s.settlePointer.controls.pointer.isDown = false := by
  have hs : s.dialogShowing = true := by rwa [dialogShowing, settlePointer_game] at h
  rw [settlePointer, if_pos hs]
  rfl

/-- A course of a move that succeeds under a dialog of its own ends the touch. -/
theorem Course.isDown {direction : Option Direction} {r : Except Halt MoveResult × Session}
    (h : Course s direction r) {move : MoveResult} (hr : r.1 = .ok move)
    (hbefore : s.dialogShowing = false) (hafter : r.2.dialogShowing = true) :
    r.2.controls.pointer.isDown = false := by
  cases h with
  | leftWorld => cases hbefore.symm.trans hafter
  | unpainted | halted | refused => cases hr
  | blocked => exact isDown_settlePointer hafter
  | moved _ _ _ _ hocc =>
    obtain ⟨-, hgate, -⟩ := Game.occupy_fixed hocc
    have hshowing : (s.sweepAfter _).dialogShowing = true :=
      (congrArg Gate.showing hgate).symm.trans hafter
    exact isDown_settlePointer hshowing

/-- A move that ends under a dialog of its own ends the touch: it has not failed, since then
the dialog would have been ended with it. -/
theorem isDown_move {direction : Option Direction}
    (hreturn : (s.move direction).1 ≠ .error .lostPlace) (hbefore : s.dialogShowing = false)
    (hafter : (s.move direction).2.dialogShowing = true) :
    (s.move direction).2.controls.pointer.isDown = false := by
  obtain ⟨facing, hturn⟩ := s.turn_eq direction
  have hturned : (s.turn direction).dialogShowing = false := by
    rw [hturn]
    exact hbefore
  have hcourse := s.course_tryMove direction
  unfold move undoing at hreturn hafter ⊢
  split at hafter
  · cases hbefore.symm.trans hafter
  · rename_i hkept
    rcases hr : (tryMove direction s).1 with (f | _) | move
    · exact (hkept f (tryMove direction s).2 (Prod.ext hr rfl)).elim
    · exact (hreturn (by simpa using hr)).elim
    · exact hcourse.isDown hr hturned hafter

/-- From `s` to `t` no dialog begins. -/
structure Silent (s t : Session) : Prop where
  logs : ∃ calls, s.game.stage.Logs t.game.stage calls ∧ .began ∉ calls
  showing : t.dialogShowing = true → s.dialogShowing = true

theorem Silent.trans (h : s.Silent t) (h' : t.Silent u) : s.Silent u where
  logs := by
    obtain ⟨calls, hlogs, hcalls⟩ := h.logs
    obtain ⟨more, hlogs', hmore⟩ := h'.logs
    exact ⟨calls ++ more, hlogs.trans hlogs', by simp [hcalls, hmore]⟩
  showing hu := h.showing (h'.showing hu)

theorem Sets.silent (h : Sets s t) : s.Silent t where
  logs := ⟨[], h.game ▸ .refl _, List.not_mem_nil⟩
  showing := by
    rw [dialogShowing, h.game]
    exact id

theorem silent_draw (s : Session) :
    s.Silent { s with game := (s.game.draw s.avatarName s.clock.frame).2 } := by
  have hlogs := (s.game.quiet_draw s.avatarName s.clock.frame).logs
  obtain ⟨notices, -, hdraw⟩ := s.game.draw_eq_tell s.avatarName s.clock.frame
  rw [hdraw] at hlogs ⊢
  exact ⟨⟨[], hlogs, List.not_mem_nil⟩, id⟩

/-- From `s` to `t` no dialog begins, or the pointer is up if a dialog shows in the end. -/
def EndsTouch (s t : Session) : Prop :=
  s.Silent t ∨ (t.dialogShowing = true → t.controls.pointer.isDown = false)

theorem Silent.endsTouch (h : s.Silent t) (h' : t.EndsTouch u) : s.EndsTouch u :=
  h'.imp_left h.trans

theorem endsTouch_move {direction : Option Direction}
    (hreturn : (s.move direction).1 ≠ .error .lostPlace) : s.EndsTouch (s.move direction).2 := by
  cases hs : s.dialogShowing with
  | false => exact Or.inr (isDown_move hreturn hs)
  | true =>
    obtain ⟨-, hquiet⟩ := Episode.quiet_of_showing (e := ⟨s, .move direction⟩) hs
    rw [(s.move_eq direction).2] at hquiet
    exact Or.inl ⟨⟨[], hquiet.logs, List.not_mem_nil⟩, fun _ => hs⟩

theorem endsTouch_evaluateInput (s : Session) (due : Bool)
    (hreturn : (s.evaluateInput due).1 ≠ .error .lostPlace) :
    s.EndsTouch (s.evaluateInput due).2 := by
  rcases s.evaluateInput_eq due with heq | ⟨t, direction, hsets, -, heq⟩
  · rw [heq]
    exact Or.inl (Sets.silent ⟨s.controls, s.clock, rfl⟩)
  · rw [heq] at hreturn ⊢
    exact hsets.silent.endsTouch (endsTouch_move (mt map_eq_error.mpr hreturn))

/-- A confirmation that drains the queue and ends under a dialog has ended the touch. -/
theorem Confirmation.endsTouch {r : Except Halt Unit × Session} (h : Confirmation s r es)
    (hreturn : r.1 ≠ .error .lostPlace) : s.EndsTouch r.2 := by
  cases h with
  | nothing => exact Or.inl ⟨⟨[], .refl _, List.not_mem_nil⟩, id⟩
  | page => exact Or.inl ⟨⟨[.paged], s.game.stage.logs_finishPage, by decide⟩, id⟩
  | @halted halt _ _ _ hdraining =>
    cases halt with
    | failed f => exact (hdraining.failure.1 f rfl).elim
    | lostPlace => exact (hreturn rfl).elim
  | drained => exact Or.inr isDown_settlePointer

theorem endsTouch_tick {elapsed : Float} (hreturn : (s.tick elapsed).1 ≠ .error .lostPlace) :
    s.EndsTouch (s.tick elapsed).2 := by
  have helapse := (s.sets_elapse elapsed).silent
  have heval := (s.elapse elapsed).2.endsTouch_evaluateInput (s.elapse elapsed).1
  rcases s.tick_cases elapsed with ⟨halt, hr, htick⟩ | ⟨move, hr, hafter, -⟩
  · rw [htick] at hreturn ⊢
    rw [hr] at heval
    exact helapse.endsTouch (heval (by simpa using hreturn))
  · rw [hafter]
    rw [hr] at heval
    -- the picture changes neither the gate nor the pointer
    rcases helapse.endsTouch (heval (by simp)) with hsilent | hup
    · exact Or.inl (hsilent.trans (silent_draw _))
    · exact Or.inr fun hshowing => hup ((silent_draw _).showing hshowing)

/-- A call in which a dialog begins and which ends under a dialog ends the touch. -/
theorem endsTouch_call {c : Call} (hreturn : (s.call c).1 ≠ .error .lostPlace) :
    s.EndsTouch (s.call c).2 := by
  cases c with
  | handle input =>
    rcases s.handle_cases input with ⟨t, -, hsets, heq⟩ | ⟨-, -, hsets⟩
    · simp only [call, heq, ne_eq, map_eq_error] at hreturn ⊢
      exact hsets.silent.endsTouch (t.confirmation.endsTouch hreturn)
    · exact Or.inl hsets.silent
  | tick => exact endsTouch_tick (mt map_eq_error.mpr hreturn)
  | confirm => exact s.confirmation.endsTouch (mt map_eq_error.mpr hreturn)
  | move => exact endsTouch_move (mt map_eq_error.mpr hreturn)

/-- To lift a pointer that is up does nothing. -/
theorem handle_lift_of_up (h : s.controls.pointer.isDown = false) :
    s.handle .lift = (.ok (), s) := by
  simp [handle, Controls.lift, Pointer.lift, h]

/-! ## Nothing happens under a dialog -/

/-- From `s` to `t` the game is held: only pictures have been drawn. -/
structure Held (s t : Session) : Prop where
  world : t.game.world = s.game.world
  state : t.game.state = s.game.state
  random : t.game.random = s.game.random
  pager : t.game.stage.pager = s.game.stage.pager
  logs : s.game.stage.Logs t.game.stage []

namespace Held

theorem refl (s : Session) : s.Held s :=
  ⟨rfl, rfl, rfl, rfl, .refl _⟩

theorem trans (h : s.Held t) (h' : t.Held u) : s.Held u where
  world := h'.world.trans h.world
  state := h'.state.trans h.state
  random := h'.random.trans h.random
  pager := h'.pager.trans h.pager
  logs := h.logs.trans h'.logs

theorem dialogShowing (h : s.Held t) : t.dialogShowing = s.dialogShowing :=
  congrArg (fun state : PlayState => state.gate.showing) h.state

end Held

theorem Sets.held (h : Sets s t) : s.Held t := by
  obtain ⟨controls, clock, rfl⟩ := h
  exact ⟨rfl, rfl, rfl, rfl, .refl _⟩

end Session

/-- The answer tells of no move. -/
def Answer.isIdle : Answer → Bool
  | .done => true
  | .ticked report => report.move.isNone
  | .moved _ => false

/-- The call lets time pass, or takes what the player does other than to press an arrow. -/
def Call.waits : Call → Bool
  | .tick _ => true
  | .handle (.keyDown key repeated) => repeated || !key.isArrow
  | .handle _ => true
  | .confirm | .move _ => false

/-- The calls wait, and no touch is lifted that has begun among them. -/
structure Waiting (cs : List Call) : Prop where
  waits : ∀ c ∈ cs, c.waits = true
  lifts (earlier later : List Call) (point : Point) :
    cs = earlier ++ .handle .lift :: later → .handle (.touch point) ∉ earlier

theorem Waiting.of_append {earlier later : List Call} (h : Waiting (earlier ++ later)) :
    Waiting earlier where
  waits c hc := h.waits c (List.mem_append_left _ hc)
  lifts pre post point heq := h.lifts pre (post ++ later) point (by simp [heq])

/-- A touch that is to be lifted has not begun among calls that wait. -/
theorem Waiting.isDown_of_lift {earlier later : List Call} {c : Call} {s : Session}
    (h : Waiting (earlier ++ c :: later))
    (hdown : s.controls.pointer.isDown = true → ∃ point, .handle (.touch point) ∈ earlier)
    (hc : c = .handle .lift) : s.controls.pointer.isDown = false := by
  by_contra hnot
  obtain ⟨point, htouch⟩ := hdown (by simpa using hnot)
  exact h.lifts earlier later point (by rw [hc]) htouch

namespace Session

variable {s t : Session} {es : List Episode} {c : Call}

/-- Make calls one after another. -/
def callAll (s : Session) (cs : List Call) : Session :=
  cs.foldl (fun s c => (s.call c).2) s

theorem callAll_append_singleton (s : Session) (cs : List Call) (c : Call) :
    s.callAll (cs ++ [c]) = ((s.callAll cs).call c).2 :=
  List.foldl_concat ..

/-- Under a dialog an input other than an arrow or the end of a touch sets the controls at
most, and only a touch puts the pointer down. -/
theorem held_handle {input : Input} (hs : s.dialogShowing = true)
    (hwaits : (Call.handle input).waits = true)
    (hlift : input = .lift → s.controls.pointer.isDown = false) :
    (s.handle input).1 = .ok () ∧ s.Held (s.handle input).2 ∧
      ((s.handle input).2.controls.pointer.isDown = true →
        s.controls.pointer.isDown = true ∨ ∃ point, input = .touch point) := by
  cases input with
  | keyDown key repeated =>
    have hsame : s.handle (.keyDown key repeated) = (.ok (), s) := by
      cases repeated with
      | true => rfl
      | false =>
        have harrow : key.isArrow = false := by simpa [Call.waits] using hwaits
        simp [handle, hs, harrow]
    rw [hsame]
    exact ⟨rfl, .refl s, Or.inl⟩
  | keyUp key => exact ⟨rfl, Sets.held ⟨_, s.clock, rfl⟩, Or.inl⟩
  | touch point => exact ⟨rfl, Sets.held ⟨_, _, rfl⟩, fun _ => Or.inr ⟨point, rfl⟩⟩
  | drag point =>
    refine ⟨rfl, Sets.held ⟨_, s.clock, rfl⟩, fun hdown => Or.inl ?_⟩
    have hdrag : (s.controls.pointer.drag point).isDown = s.controls.pointer.isDown := by
      unfold Pointer.drag
      split <;> rfl
    exact hdrag.symm.trans hdown
  | lift =>
    rw [handle_lift_of_up (hlift rfl)]
    exact ⟨rfl, .refl s, Or.inl⟩

/-- Under a dialog a tick succeeds if the room can be drawn, and holds the game. -/
theorem held_tick (hs : s.dialogShowing = true) (elapsed : Float)
    (hdraw : ∀ frame, (s.game.draw s.avatarName frame).1 = .ok ()) :
    (∃ report, (s.tick elapsed).1 = .ok report ∧ report.move = none) ∧
      s.Held (s.tick elapsed).2 ∧
      (s.tick elapsed).2.controls.pointer = s.controls.pointer := by
  obtain ⟨notices, hmute, htell⟩ :=
    s.game.draw_eq_tell s.avatarName (s.elapse elapsed).2.clock.frame
  rw [tick_eq_of_showing hs, hdraw, htell]
  have hlogs := s.game.stage.logs_tell (dialogCalls_of_mute hmute)
  exact ⟨⟨_, rfl, rfl⟩, ⟨rfl, rfl, rfl, rfl, hlogs⟩, rfl⟩

/-- Under a dialog a call that waits succeeds, tells of no move and holds the game, if the room
can be drawn and the call lifts no touch. Only a touch puts the pointer down. -/
theorem held_call (hs : s.dialogShowing = true) (hwaits : c.waits = true)
    (hlift : c = .handle .lift → s.controls.pointer.isDown = false)
    (hdraw : ∀ frame, (s.game.draw s.avatarName frame).1 = .ok ()) :
    (∃ answer, (s.call c).1 = .ok answer ∧ answer.isIdle = true) ∧ s.Held (s.call c).2 ∧
      ((s.call c).2.controls.pointer.isDown = true →
        s.controls.pointer.isDown = true ∨ ∃ point, c = .handle (.touch point)) := by
  cases c with
  | handle input =>
    obtain ⟨hok, hheld, hdown⟩ := held_handle hs hwaits fun h => hlift (congrArg Call.handle h)
    refine ⟨⟨.done, by rw [call, hok]; rfl, rfl⟩, hheld, fun h => (hdown h).imp_right ?_⟩
    rintro ⟨point, rfl⟩
    exact ⟨point, rfl⟩
  | tick elapsed =>
    obtain ⟨⟨report, hok, hmove⟩, hheld, hpointer⟩ := held_tick hs elapsed hdraw
    refine ⟨⟨.ticked report, by rw [call, hok]; rfl, by simp [Answer.isIdle, hmove]⟩, hheld,
      fun h => Or.inl ?_⟩
    rwa [call, hpointer] at h
  | confirm | move => cases hwaits

variable {w : World} {config : Config} {stage : Stage} {s₀ : Session}

/-- Under a dialog calls that wait hold the game. They make up a run, and the pointer is down
after them only if there is a touch among them. -/
theorem held_callAll (hstart : start w config stage = .ok s₀) (hrun : Run s₀ es s)
    (hs : s.dialogShowing = true) (hup : s.controls.pointer.isDown = false) {cs : List Call}
    (h : Waiting cs) :
    s.Held (s.callAll cs) ∧ (∃ es', Run s₀ es' (s.callAll cs)) ∧
      ((s.callAll cs).controls.pointer.isDown = true →
        ∃ point, .handle (.touch point) ∈ cs) := by
  induction cs using List.reverseRecOn with
  | nil => exact ⟨.refl s, ⟨es, hrun⟩, fun hdown => by cases hup.symm.trans hdown⟩
  | append_singleton cs c ih =>
    obtain ⟨hheld, ⟨es', hrun'⟩, hdown⟩ := ih h.of_append
    obtain ⟨⟨answer, hok, -⟩, hheld', hdown'⟩ := held_call (hheld.dialogShowing.trans hs)
      (h.waits c (by simp)) (h.isDown_of_lift hdown) (draw_of_run hstart hrun')
    rw [callAll_append_singleton]
    refine ⟨hheld.trans hheld', ⟨_, hrun'.call c (by simp [hok])⟩, fun h => ?_⟩
    rcases hdown' h with hbefore | ⟨point, rfl⟩
    · obtain ⟨point, htouch⟩ := hdown hbefore
      exact ⟨point, List.mem_append_left _ htouch⟩
    · exact ⟨point, by simp⟩

/-- What a dialog holds up along a run from the start of a session. A call that ends under a
dialog which was not there before, or which has begun in the call, leaves the pointer up, so
that lifting the touch does nothing. And under a dialog, with the pointer up, time may pass and
the player may do anything but press an arrow and lift a touch that begins then: nothing changes
in the rooms and the state of play, the dialog gets no call, and every call succeeds and tells of
no move. -/
theorem held_under_dialog (hstart : start w config stage = .ok s₀) (hrun : Run s₀ es s) :
    (∀ c, (s.call c).1 ≠ .error .lostPlace → (s.call c).2.dialogShowing = true →
      (s.dialogShowing = false ∨
        ∃ calls, s.game.stage.Logs (s.call c).2.game.stage calls ∧ .began ∈ calls) →
      (s.call c).2.controls.pointer.isDown = false ∧
        (s.call c).2.handle .lift = (.ok (), (s.call c).2)) ∧
    (s.dialogShowing = true → s.controls.pointer.isDown = false → ∀ cs, Waiting cs →
      s.Held (s.callAll cs) ∧
      ∀ earlier c later, cs = earlier ++ c :: later →
        ∃ answer, ((s.callAll earlier).call c).1 = .ok answer ∧ answer.isIdle = true) := by
  refine ⟨fun c hreturn hafter hbegins => ?_, fun hs hup cs h => ⟨?_, ?_⟩⟩
  · have hup : (s.call c).2.controls.pointer.isDown = false := by
      rcases endsTouch_call hreturn with ⟨⟨calls, hlogs, hnone⟩, hshowing⟩ | hup
      · rcases hbegins with hbefore | ⟨calls', hlogs', hbegan⟩
        · cases hbefore.symm.trans (hshowing hafter)
        · exact (hnone (hlogs.unique hlogs' ▸ hbegan)).elim
      · exact hup hafter
    exact ⟨hup, handle_lift_of_up hup⟩
  · exact (held_callAll hstart hrun hs hup h).1
  · rintro earlier c later rfl
    obtain ⟨hheld, ⟨es', hrun'⟩, hdown⟩ := held_callAll hstart hrun hs hup h.of_append
    exact (held_call (hheld.dialogShowing.trans hs) (h.waits c (by simp))
      (h.isDown_of_lift hdown) (draw_of_run hstart hrun')).1

/-- A touch is under way when the walker meets the sign, and its dialog ends the touch. Then
the touch is lifted and another one begins, and nothing happens. -/
theorem held_under_dialog_crossing :
    start crossing .default (.ofPageChars 40) = .ok atCrossing ∧
      ∃ es s, Run atCrossing es s ∧ s.controls.pointer.isDown = true ∧
        s.dialogShowing = false ∧ (s.call (.move (some .right))).2.dialogShowing = true ∧
        (s.call (.move (some .right))).2.controls.pointer.isDown = false ∧
        Waiting [.handle .lift, .tick 500, .handle (.touch ⟨0, 0⟩), .handle (.drag ⟨90, 0⟩)] ∧
        (s.call (.move (some .right))).2.Held ((s.call (.move (some .right))).2.callAll
          [.handle .lift, .tick 500, .handle (.touch ⟨0, 0⟩), .handle (.drag ⟨90, 0⟩)]) := by
  have hbefore : Run atCrossing _ _ :=
    .call (.handle (.touch ⟨0, 0⟩)) (.call (.move (some .right)) .nil (by decide)) (by decide)
  have hafter := hbefore.call (.move (some .right)) (by decide)
  have hwaiting : Waiting
      [.handle .lift, .tick 500, .handle (.touch ⟨0, 0⟩), .handle (.drag ⟨90, 0⟩)] := by
    refine ⟨by simp [Call.waits], fun earlier later point h => ?_⟩
    cases earlier with
    | nil => exact List.not_mem_nil
    | cons _ earlier =>
      obtain ⟨-, hrest⟩ := List.cons.inj (h.trans (List.cons_append ..))
      have hlift : Call.handle .lift ∈ earlier ++ .handle .lift :: later := by simp
      simp [← hrest] at hlift
  have hup := (held_under_dialog start_crossing hbefore).1 (.move (some .right)) (by decide) rfl
    (Or.inl rfl)
  have hheld := (held_under_dialog start_crossing hafter).2 rfl hup.1 _ hwaiting
  exact ⟨start_crossing, _, _, hbefore, rfl, rfl, rfl, hup.1, hwaiting, hheld.1⟩

end Session

end TileAdventure
