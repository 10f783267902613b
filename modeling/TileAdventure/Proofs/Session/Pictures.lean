import TileAdventure.Proofs.Play.Picture
import TileAdventure.Proofs.Session.Place

/-!
# Pictures

Nothing is drawn that has not been prepared in the colours of the current room. An evaluation
enters a room as the last thing it does, so one that fails has not entered any
(`Course.dresses`): what it leaves prepared is in the colours of the room it goes back to
(`Episode.presents_after`). All other steps prepare nothing, or draw what is prepared
(`Step.presents`). Only ticks draw, a single picture each, in the colours of the room where
they end (`Session.pictured_call`, `Session.pictures_of_run`).
-/

namespace TileAdventure

/-! ## The current palette -/

/-- The current palette is the one that the current room names. -/
theorem Located.palette?_eq {g : Game} (h : Located g.world g.state) {palette : Palette}
    (hp : g.palette? = .ok palette) : ∃ r index, g.world.rooms[g.state.room]? = some r ∧
      g.world.palette? r.palette = some (palette, index) := by
  obtain ⟨r, hr, hindex⟩ := h
  rw [List.findIdx?_eq_fst_find?_zipIdx] at hindex
  obtain ⟨⟨palette', index⟩, hfind, hindex⟩ := Option.map_eq_some_iff.mp hindex
  obtain rfl : index = g.state.palette := hindex
  have hname : g.world.palette? r.palette = some (palette', g.state.palette) := hfind
  have hget := Game.getElem?_of_palette? hname
  rw [Game.palette?, hget] at hp
  cases hp
  exact ⟨r, _, hr, hname⟩

/-! ## Evaluations -/

namespace Session

variable {s : Session} {earlier : List Notice}

/-- A course of a move keeps the game ready in its room, unless it succeeds and occupies a
cell as the last thing it does. -/
theorem Course.dresses {direction : Option Direction} {r : Except Halt MoveResult × Session}
    (h : Course s direction r) :
    s.game.Dresses s.avatarName r.2.game ∨ ∃ middle target entered move,
      s.game.Dresses s.avatarName middle ∧
        middle.occupy s.avatarName target = .ok (entered, r.2.game) ∧ r.1 = .ok move := by
  have hact : ∀ {palette target result scene}, s.game.palette? = .ok palette →
      s.encounter palette target = (result, scene) →
      s.game.Dresses s.avatarName (s.game.absorb scene) := by
    intro palette target result scene hp hmeet
    have hchanges : Scene.Changes (s.game.setting palette s.config.depthLimit) (fun _ => True)
        (s.game.scene target) (s.encounter palette target).2 :=
      Setting.changes_meetCell (Catalogue.admits_true _) _ _
    rw [hmeet] at hchanges
    exact Game.dresses_absorb hp hchanges
  have hsweep : ∀ {palette target result scene}, s.game.palette? = .ok palette →
      s.encounter palette target = (result, scene) →
      s.game.Dresses s.avatarName (s.sweepAfter scene).game := by
    intro palette target result scene hp hmeet
    rw [sweepAfter_game]
    exact (hact hp hmeet).trans (Game.dresses_sweep _)
  cases h with
  | leftWorld | unpainted => exact Or.inl (.refl _)
  | halted _ hp hmeet => exact Or.inl (hact hp hmeet)
  | blocked _ hp hmeet | refused _ hp hmeet => exact Or.inl (hsweep hp hmeet)
  -- the only case that may enter a room, and it cannot fail any more
  | moved _ hp hmeet _ hocc => exact Or.inr ⟨_, _, _, _, hsweep hp hmeet, hocc, rfl⟩

theorem dresses_tryResume (s : Session) (d : Deferred) :
    s.game.Dresses s.avatarName (tryResume d s).2.game := by
  cases hp : s.game.palette? with
  | error f =>
    rw [tryResume_of_failure hp]
    exact .refl _
  | ok palette =>
    rw [tryResume_of_palette hp]
    exact Game.dresses_absorb hp
      (Setting.changes_perform (Catalogue.admits_true _) _ trivial _ _ _)

/-- To undo an evaluation may end a dialog, and does nothing else to the stage. -/
theorem adds_restore (palette : Palette) (before after : Session) :
    after.game.stage.Adds palette (restore before after).game.stage [] := by
  unfold restore
  dsimp only
  split
  · exact Stage.adds_endDialog _
  · exact .refl _

end Session

namespace Episode

variable {e : Episode} {earlier : List Notice}

/-- An evaluation that is undone has kept the game ready in its room, and one that is not has
presented what it should. -/
theorem presents_attempt (h : e.before.game.Presents e.before.avatarName earlier) :
    ((∃ halt, (e.evaluation.attempt e.before).1 = .error halt) →
        e.before.game.Dresses e.before.avatarName (e.evaluation.attempt e.before).2.game) ∧
      (e.evaluation.attempt e.before).2.game.Presents e.before.avatarName earlier := by
  obtain ⟨s, direction | d⟩ := e
  · obtain ⟨facing, hturn⟩ := s.turn_eq direction
    have hturned : s.game.Dresses s.avatarName (s.turn direction).game := by
      rw [hturn]
      exact (Game.Dresses.refl s.game).of_same rfl rfl rfl fun _ => .refl _
    have hname : (s.turn direction).avatarName = s.avatarName := by rw [hturn]
    have hcourse := (s.course_tryMove direction).dresses
    rw [hname] at hcourse
    rcases hcourse with hcourse | ⟨middle, target, entered, move, hcourse, hocc, hmove⟩
    · have hdresses := hturned.trans hcourse
      exact ⟨fun _ => hdresses, h.of_dresses hdresses⟩
    · refine ⟨fun ⟨halt, hhalt⟩ => ?_, (h.of_dresses (hturned.trans hcourse)).occupy hocc⟩
      simp [Evaluation.attempt, hmove, Except.map] at hhalt
  · have hdresses := s.dresses_tryResume d
    exact ⟨fun _ => hdresses, h.of_dresses hdresses⟩

/-- An evaluation presents what it should, also if it fails. -/
theorem presents_after (h : e.before.game.Presents e.before.avatarName earlier) :
    e.after.game.Presents e.before.avatarName earlier := by
  obtain ⟨hdresses, hpresents⟩ := presents_attempt h
  rcases e.cases with ⟨_, -, -, hafter⟩ | ⟨f, -, hattempt, hafter⟩ | ⟨-, -, hafter⟩
  · rwa [hafter]
  · obtain ⟨hworld, hstate⟩ := e.restore_attempt
    rw [hafter]
    -- the attempt has entered no room, so all that it has prepared is in the right colours
    refine h.of_dresses ((hdresses ⟨_, hattempt⟩).of_same hworld ?_ ?_ fun palette => ?_)
    · rw [hstate]
    · rw [hstate]
    · exact Session.adds_restore palette _ _
  · rwa [hafter]

end Episode

/-! ## Steps -/

namespace Session

variable {s t : Session} {es : List Episode} {earlier : List Notice}

theorem Step.presents (h : Step s es t) (hs : s.game.Presents s.avatarName earlier) :
    t.game.Presents s.avatarName earlier := by
  have hstage : ∀ {state : PlayState} {stage : Stage}, state.room = s.game.state.room →
      state.palette = s.game.state.palette → (∀ palette, s.game.stage.Adds palette stage []) →
      Game.Presents { s.game with state, stage } s.avatarName earlier :=
    fun hroom hpalette hadds =>
      hs.of_dresses ((Game.Dresses.refl s.game).of_same rfl hroom hpalette hadds)
  cases h with
  | setting => exact hs
  | draw => exact hs.draw _
  | finishPage => exact hstage rfl rfl fun _ => s.game.stage.adds_finishPage
  | endDialog => exact hstage rfl rfl fun _ => s.game.stage.adds_endDialog
  | evaluate hbegins _ =>
    cases hbegins with
    | move => exact Episode.presents_after hs
    | resume => exact Episode.presents_after (hstage rfl rfl fun _ => .refl _)

theorem Steps.presents (h : Steps s es t) (hs : s.game.Presents s.avatarName earlier) :
    t.game.Presents s.avatarName earlier := by
  induction h with
  | refl => exact hs
  | tail hsteps hstep ih =>
    rw [← hsteps.fixed.2] at ih ⊢
    exact hstep.presents ih

theorem presents_start {w : World} {config : Config} {stage : Stage}
    (h : start w config stage = .ok s) : s.game.Presents s.avatarName stage.log := by
  unfold start at h
  split at h
  · cases h
  · obtain ⟨game, hgame, h⟩ := bind_eq_ok.mp h
    cases h
    have hnothing : Screen.blank.Faithful [] := trivial
    exact Game.presents_enterRoom (List.append_nil _).symm hnothing hgame

/-! ## Who draws -/

/-- An evaluation draws nothing, and nor does undoing it. -/
theorem undrawn_after (e : Episode) : e.before.game.stage.Undrawn e.after.game.stage := by
  have hattempt : e.before.game.stage.Undrawn (e.evaluation.attempt e.before).2.game.stage :=
    Game.Changes.undrawn e.changes_attempt
  rcases e.cases with ⟨_, -, -, hafter⟩ | ⟨f, -, -, hafter⟩ | ⟨-, -, hafter⟩
  · rwa [hafter]
  · rw [hafter]
    exact hattempt.trans (adds_restore ⟨"", []⟩ _ _).undrawn
  · rwa [hafter]

theorem Draining.undrawn {n : Nat} {first : Option Failure}
    {r : Except Halt (Option Failure) × Session} (h : Draining n first s r es) :
    s.game.stage.Undrawn r.2.game.stage := by
  induction h with
  | stopped => exact .refl _
  | @lost _ _ s d gate => exact undrawn_after ⟨s.withGate gate, .resume d⟩
  | @resumed _ _ s d gate _ _ _ _ _ ih =>
    exact (undrawn_after ⟨s.withGate gate, .resume d⟩).trans ih

theorem Confirmation.undrawn {r : Except Halt Unit × Session} (h : Confirmation s r es) :
    s.game.stage.Undrawn r.2.game.stage := by
  cases h with
  | nothing => exact .refl _
  | page => exact Stage.undrawn_finishPage _
  | halted _ hdraining => exact (Stage.undrawn_endDialog _).trans hdraining.undrawn
  | drained _ hdraining =>
    rw [settlePointer_game]
    exact (Stage.undrawn_endDialog _).trans hdraining.undrawn

theorem undrawn_evaluateInput (s : Session) (due : Bool) :
    s.game.stage.Undrawn (s.evaluateInput due).2.game.stage := by
  rcases s.evaluateInput_cases due with ⟨-, heq⟩ | ⟨e, -, hsets, -, -, hafter⟩
  · rw [heq]
    exact .refl _
  · rw [hafter, ← hsets.game]
    exact undrawn_after e

/-- Only a tick that returns draws a picture, and in the current palette. -/
theorem pictured_call (s : Session) (c : Call) :
    s.game.stage.Pictured (s.call c).2.game.stage fun palette =>
      (∃ elapsed, c = .tick elapsed) ∧ (s.call c).1 ≠ .error .lostPlace ∧
        (s.call c).2.game.palette? = .ok palette := by
  cases c with
  | handle input =>
    apply Stage.Undrawn.pictured
    rcases s.handle_cases input with ⟨t, -, hsets, heq⟩ | ⟨-, -, hsets⟩
    · have hcall : (s.call (.handle input)).2 = t.confirm.2 := congrArg Prod.snd heq
      rw [hcall, ← hsets.game]
      exact t.confirmation.undrawn
    · rw [call, hsets.game]
      exact .refl _
  | confirm => exact s.confirmation.undrawn.pictured
  | move direction =>
    have hcall : (s.call (.move direction)).2 = (Episode.mk s (.move direction)).after :=
      (s.move_eq direction).2.symm
    rw [hcall]
    exact (undrawn_after _).pictured
  | tick elapsed =>
    have heval := (s.elapse elapsed).2.undrawn_evaluateInput (s.elapse elapsed).1
    rw [(s.sets_elapse elapsed).game] at heval
    have hcall : (s.call (.tick elapsed)).2 = (s.tick elapsed).2 := rfl
    rcases s.tick_cases elapsed with ⟨halt, -, htick⟩ | ⟨move, -, htick, report, hreport⟩
    · rw [hcall, htick]
      exact heval.pictured
    · have hreturn : (s.call (.tick elapsed)).1 ≠ .error .lostPlace := by
        rw [call, ne_eq, map_eq_error, hreport]
        rcases (Game.draw _ _ _).1 with f | _ <;> simp [Except.map, Except.mapError]
      rw [hcall, htick]
      generalize (evaluateInput _ _).2 = t at heval ⊢
      obtain ⟨quiet, hlog, hquiet⟩ := heval
      obtain ⟨picture, hpicture, heq⟩ := t.game.draw_parts t.avatarName t.clock.frame
      rw [heq]
      refine ⟨quiet, picture, by simp [Game.tell, Stage.tell, hlog], hquiet, ?_⟩
      refine hpicture.imp_right ?_
      rintro ⟨palette, parts, hpalette, rfl, hparts⟩
      exact ⟨palette, parts, rfl, fun part hpart => (hparts part hpart).draws,
        ⟨elapsed, rfl⟩, hreturn, hpalette⟩

/-- While a dialog shows, a tick only draws. -/
theorem tick_of_showing {s : Session} (h : s.dialogShowing = true) (elapsed : Float) :
    (s.tick elapsed).1 ≠ .error .lostPlace ∧
      (s.tick elapsed).2.game =
        (s.game.draw s.avatarName (s.elapse elapsed).2.clock.frame).2 := by
  rw [tick_eq_of_showing h]
  refine ⟨?_, rfl⟩
  rcases (Game.draw _ _ _).1 with f | _ <;> simp [Except.map, Except.mapError]

/-! ## Runs -/

/-- Pictures along a run from the start of a session. Each notice since then is allowed by
what those before it have left on the screen: so a tile is drawn after its sprite was
prepared, since all were dropped, and the avatar after its sprite was prepared in both
orientations, all in the colours of the background of that picture. Only a tick draws, as the
last thing it does, and then a single picture in the palette of the room that is then the
current one. -/
theorem pictures_of_run {w : World} {config : Config} {stage : Stage} {s₀ s : Session}
    {es : List Episode} (hstart : start w config stage = .ok s₀) (hrun : Run s₀ es s) :
    (∃ notices, s.game.stage.log = stage.log ++ notices ∧
        ∀ before notice later, notices = before ++ notice :: later →
          (Screen.blank.after before).Allows notice) ∧
      ∀ c, s.game.stage.Pictured (s.call c).2.game.stage fun palette =>
        (∃ elapsed, c = .tick elapsed) ∧ (s.call c).1 ≠ .error .lostPlace ∧ ∃ r index,
          (s.call c).2.game.world.rooms[(s.call c).2.game.state.room]? = some r ∧
          (s.call c).2.game.world.palette? r.palette = some (palette, index) := by
  obtain ⟨notices, palette, hlog, hfaithful, -⟩ := hrun.steps.presents (presents_start hstart)
  refine ⟨⟨notices, hlog, Screen.faithful_iff.mp hfaithful⟩, fun c => ?_⟩
  refine (s.pictured_call c).mono fun palette ⟨htick, hreturn, hpalette⟩ => ?_
  have hlocated : Located (s.call c).2.game.world (s.call c).2.game.state :=
    (invariant_located _ _).steps (located_start hstart) (hrun.steps.trans (steps_call hreturn))
  exact ⟨htick, hreturn, hlocated.palette?_eq hpalette⟩

/-- When time passes under the dialog of the sign, the sign is drawn, which was prepared in
the colours of its room. -/
theorem pictures_of_run_crossing :
    start crossing .default (.ofPageChars 40) = .ok atCrossing ∧
      ∃ es s, Run atCrossing es s ∧ ∃ before sign frame later,
        s.game.stage.log = before ++ .drawTile sign frame 1 0 :: later ∧ sign.name = "sign" ∧
        (Screen.blank.after before).Allows (.drawTile sign frame 1 0) := by
  obtain ⟨es, s₂, hmoves, hs₂⟩ : ∃ es s₂, Run atCrossing es s₂ ∧
      s₂ = ((atCrossing.call (.move (some .right))).2.call (.move (some .right))).2 :=
    ⟨_, _, .call (.move (some .right)) (.call (.move (some .right)) .nil (by decide))
      (by decide), rfl⟩
  have hshowing : s₂.dialogShowing = true := hs₂ ▸ rfl
  obtain ⟨hreturn, hgame⟩ := tick_of_showing hshowing 16
  have hrun := hmoves.call (.tick 16) fun h => hreturn (map_eq_error.mp h)
  obtain ⟨⟨notices, hlog, hallows⟩, -⟩ := pictures_of_run start_crossing hrun
  have hdrawn : ∀ frame, ∃ sign walker,
      (s₂.game.draw s₂.avatarName frame).2.stage.log = s₂.game.stage.log ++
        [.drawBackground ⟨"night", []⟩] ++ [.drawTile sign 0 1 0, walker] ∧
          sign.name = "sign" := by
    subst hs₂
    intro frame
    exact ⟨(crossing.sprites.find? "sign").get rfl,
      .drawAvatar ((crossing.sprites.find? "walker").get rfl) 0 1 0 .right, rfl, rfl⟩
  obtain ⟨sign, walker, hframe, hname⟩ := hdrawn (s₂.elapse 16).2.clock.frame
  have hsplit : notices = s₂.game.stage.log ++ [.drawBackground ⟨"night", []⟩] ++
      .drawTile sign 0 1 0 :: [walker] := by
    rw [← hframe, ← hgame]
    exact hlog.symm
  exact ⟨start_crossing, _, _, hrun, _, sign, 0, _, hlog.trans hsplit, hname,
    hallows _ _ _ hsplit⟩

end Session

end TileAdventure
