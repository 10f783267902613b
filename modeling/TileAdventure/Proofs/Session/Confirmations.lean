import TileAdventure.Proofs.Stage.PageTurns
import TileAdventure.Proofs.Session.UnderDialog

/-!
# Confirmations

A dialog that shows is confirmed by an arrow, by the end of a touch, or outright
(`Session.confirms`), and by nothing else: any other call leaves the stage quiet under it
(`Session.quiet_call`), also one whose evaluation fails and is undone. So the pages of a dialog
are turned by confirmations one after another (`Session.shows_callAll`), and the one after the
last page ends it.

A dialog that shows after some calls has begun in one of them (`Session.exists_beginsDialog`): where
no dialog shows before a call, or where the call ends one, a dialog that shows after it has begun
in it and has shown its first page only (`Session.Opened`). `Session.pages_of_dialog` puts both
together.
-/

namespace TileAdventure

namespace Session

/-- From `s` to `t` the stage goes on, and if a dialog shows in the end, it has begun on the
way. -/
structure Opened (s t : Session) : Prop where
  goesOn : s.game.stage.GoesOn t.game.stage
  began : t.dialogShowing = true → s.game.stage.Began t.game.stage

variable {s t u : Session}

theorem Opened.refl (h : s.dialogShowing = false) : s.Opened s :=
  ⟨.refl _, fun hs => by cases h.symm.trans hs⟩

theorem Opened.of_goesOn (h : s.game.stage.GoesOn t.game.stage) (h' : t.Opened u) :
    s.Opened u :=
  ⟨h.trans h'.goesOn, fun hu => .of_goesOn h (h'.began hu)⟩

end Session

namespace Episode

variable {e : Episode}

/-- An evaluation that begins without a dialog and ends under one has begun it. If it fails it
does not end under one. -/
theorem opened (h : e.before.dialogShowing = false) : e.before.Opened e.after := by
  have hopening := Game.Changes.opening e.changes_attempt
  have hkept : e.before.Opened (e.evaluation.attempt e.before).2 :=
    ⟨hopening.goesOn, fun hshowing => hopening.began_of_closed h hshowing⟩
  rcases e.cases with ⟨_, -, -, hafter⟩ | ⟨_, -, -, hafter⟩ | ⟨-, -, hafter⟩
  · exact hafter ▸ hkept
  · rw [hafter]
    refine ⟨?_, fun hs => by cases h.symm.trans hs⟩
    unfold Session.restore
    dsimp only
    split
    · exact hkept.goesOn.trans (.endDialog _)
    · exact hkept.goesOn
  · exact hafter ▸ hkept

end Episode

namespace Session

variable {s t : Session} {es : List Episode} {c : Call}

/-! ## Calls without a dialog -/

/-- If a dialog has begun on the way to where draining starts, or none shows there, the same
holds of where it ends. -/
theorem Draining.opened {origin : Session} {n : Nat} {first : Option Failure}
    {r : Except Halt (Option Failure) × Session} (h : Draining n first s r es)
    (hs : origin.Opened s) : origin.Opened r.2 := by
  have hresumed : ∀ {s d gate}, origin.Opened s → s.game.state.gate.next? = some (d, gate) →
      origin.Opened (Episode.after ⟨s.withGate gate, .resume d⟩) := by
    intro s d gate hs hnext
    obtain ⟨-, hclosed, -⟩ := Gate.next?_eq_some hnext
    have hopened := Episode.opened (e := ⟨s.withGate gate, .resume d⟩) hclosed
    exact ⟨hs.goesOn.trans hopened.goesOn, fun ht => .of_goesOn hs.goesOn (hopened.began ht)⟩
  induction h with
  | stopped => exact hs
  | lost hnext => exact hresumed hs hnext
  | resumed hnext _ _ ih => exact ih (hresumed hs hnext)

theorem Opened.of_game {origin : Session} (h : origin.Opened s) (hgame : t.game = s.game) :
    origin.Opened t where
  goesOn := hgame ▸ h.goesOn
  began ht := by
    rw [dialogShowing, hgame] at ht
    rw [hgame]
    exact h.began ht

theorem opened_move (h : s.dialogShowing = false) (direction : Option Direction) :
    s.Opened (s.move direction).2 :=
  (s.move_eq direction).2 ▸ Episode.opened (e := ⟨s, .move direction⟩) h

/-- Without a dialog there is nothing to confirm. -/
theorem confirm_of_closed (h : s.dialogShowing = false) : s.confirm = (.ok (), s) := by
  simp [confirm, h]

theorem Sets.dialogShowing (h : Sets s t) : t.dialogShowing = s.dialogShowing := by
  rw [Session.dialogShowing, h.game, Session.dialogShowing]

theorem opened_evaluateInput (h : s.dialogShowing = false) (due : Bool) :
    s.Opened (s.evaluateInput due).2 := by
  rcases s.evaluateInput_eq due with heq | ⟨t, direction, hsets, -, heq⟩
  · rw [heq]
    exact .refl h
  · rw [heq]
    exact .of_goesOn (hsets.game ▸ .refl _) (opened_move (hsets.dialogShowing.trans h) direction)

/-- To draw a picture leaves the stage quiet and the dialog showing if it shows. -/
theorem Opened.draw {origin : Session} (h : origin.Opened s) :
    origin.Opened { s with game := (s.game.draw s.avatarName s.clock.frame).2 } := by
  have hquiet := s.game.quiet_draw s.avatarName s.clock.frame
  obtain ⟨notices, -, hdraw⟩ := s.game.draw_eq_tell s.avatarName s.clock.frame
  refine ⟨h.goesOn.trans hquiet.goesOn, fun hs => (h.began ?_).quiet hquiet⟩
  rw [hdraw] at hs
  exact hs

/-- A call without a dialog that ends under one has begun it. -/
theorem opened_call (h : s.dialogShowing = false) (c : Call) : s.Opened (s.call c).2 := by
  have hsame : ∀ {t}, Sets s t → s.Opened t := fun hsets => (Opened.refl h).of_game hsets.game
  cases c with
  | handle input =>
    rcases s.handle_cases input with ⟨t, -, hsets, heq⟩ | ⟨-, -, hsets⟩
    · rw [call, heq, confirm_of_closed (hsets.dialogShowing.trans h)]
      exact hsame hsets
    · exact hsame hsets
  | tick elapsed =>
    have helapse := s.sets_elapse elapsed
    have heval : s.Opened ((s.elapse elapsed).2.evaluateInput (s.elapse elapsed).1).2 :=
      .of_goesOn (helapse.game ▸ .refl _)
        (opened_evaluateInput (helapse.dialogShowing.trans h) _)
    rcases s.tick_cases elapsed with ⟨halt, -, htick⟩ | ⟨move, -, hafter, -⟩
    · rw [call, htick]
      exact heval
    · rw [call, hafter]
      exact heval.draw
  | confirm =>
    rw [call, confirm_of_closed h]
    exact .refl h
  | move direction => exact opened_move h direction

/-! ## Calls under a dialog -/

/-- The call confirms a dialog that shows: it says so, an arrow is pressed, or the pointer is
lifted from a touch. -/
def confirms (s : Session) : Call → Bool
  | .confirm => true
  | .handle (.keyDown key false) => key.isArrow
  | .handle .lift => s.controls.pointer.isDown
  | _ => false

theorem isSome_confirmedBy? (hs : s.dialogShowing = true) (input : Input) :
    (s.confirmedBy? input).isSome = s.confirms (.handle input) := by
  cases input with
  | keyDown key repeated =>
    cases repeated with
    | true => rfl
    | false => cases h : key.isArrow <;> simp [confirmedBy?, confirms, hs, h]
  | lift =>
    cases h : s.controls.pointer.isDown <;>
      simp [confirmedBy?, confirms, hs, Controls.lift, Pointer.lift, h]
  | _ => rfl

/-- A call that confirms is a confirmation, for which the controls may have been set. -/
theorem call_of_confirms (hs : s.dialogShowing = true) (h : s.confirms c = true) :
    ∃ t, Sets s t ∧ (s.call c).2 = t.confirm.2 := by
  cases c with
  | handle input =>
    rw [← isSome_confirmedBy? hs] at h
    rcases s.handle_cases input with ⟨t, -, hsets, heq⟩ | ⟨hnone, -⟩
    · exact ⟨t, hsets, congrArg Prod.snd heq⟩
    · simp [hnone] at h
  | confirm => exact ⟨s, ⟨s.controls, s.clock, rfl⟩, rfl⟩
  | tick | move => cases h

/-- Under a dialog a call that does not confirm leaves the stage quiet. -/
theorem quiet_call (hs : s.dialogShowing = true) (h : s.confirms c = false) :
    (s.call c).2.dialogShowing = true ∧ s.game.stage.Quiet (s.call c).2.game.stage := by
  have hsets : ∀ {t}, Sets s t → t.dialogShowing = true ∧ s.game.stage.Quiet t.game.stage :=
    fun hsets => ⟨hsets.dialogShowing.trans hs, hsets.game ▸ .refl _⟩
  cases c with
  | handle input =>
    rw [← isSome_confirmedBy? hs] at h
    rcases s.handle_cases input with ⟨t, hsome, -⟩ | ⟨-, -, hset⟩
    · simp [hsome] at h
    · exact hsets hset
  | tick elapsed =>
    rw [call, tick_eq_of_showing hs]
    refine ⟨?_, s.game.quiet_draw ..⟩
    obtain ⟨_, -, hdraw⟩ := s.game.draw_eq_tell s.avatarName (s.elapse elapsed).2.clock.frame
    rw [hdraw]
    exact hs
  | confirm => cases h
  | move direction =>
    have hquiet := Episode.quiet_of_showing (e := ⟨s, .move direction⟩) hs
    rwa [(s.move_eq direction).2] at hquiet

/-- To confirm a page that is not the last finishes it. -/
theorem confirm_of_incomplete (hs : s.dialogShowing = true)
    (h : s.game.stage.pager.isComplete = false) :
    s.confirm = (.ok (), { s with game := { s.game with stage := s.game.stage.finishPage } }) := by
  simp [confirm, hs, h]

theorem closed_endDialog (s : Session) : s.endDialog.dialogShowing = false := rfl

/-- To confirm the last page ends the dialog. If a dialog shows after that, it has begun since. -/
theorem opened_confirm (hs : s.dialogShowing = true)
    (h : s.game.stage.pager.isComplete = true) : s.endDialog.Opened s.confirm.2 := by
  have hdraining := (draining s.game.state.gate.queue.length none s.endDialog).opened
    (.refl s.closed_endDialog)
  unfold confirm
  rw [hs, h]
  simp only [Bool.not_true, Bool.false_eq_true, if_false]
  generalize drain s.game.state.gate.queue.length none s.endDialog = r at hdraining ⊢
  obtain ⟨halt | (_ | f), t⟩ := r
  · exact hdraining
  · exact hdraining.of_game t.settlePointer_game
  · exact hdraining.of_game t.settlePointer_game

/-- Every call lets the stage go on. -/
theorem goesOn_call (s : Session) (c : Call) : s.game.stage.GoesOn (s.call c).2.game.stage := by
  cases hs : s.dialogShowing with
  | false => exact (opened_call hs c).goesOn
  | true =>
    cases hconfirms : s.confirms c with
    | false => exact (quiet_call hs hconfirms).2.goesOn
    | true =>
      obtain ⟨t, hsets, heq⟩ := call_of_confirms hs hconfirms
      have ht := hsets.dialogShowing.trans hs
      rw [heq, ← hsets.game]
      cases hcomplete : t.game.stage.pager.isComplete with
      | false =>
        rw [confirm_of_incomplete ht hcomplete]
        exact .finishPage _
      | true => exact (Stage.GoesOn.endDialog _).trans (opened_confirm ht hcomplete).goesOn

theorem goesOn_callAll (s : Session) (cs : List Call) :
    s.game.stage.GoesOn (s.callAll cs).game.stage := by
  induction cs generalizing s with
  | nil => exact .refl _
  | cons c cs ih => exact (s.goesOn_call c).trans (ih _)

/-! ## Pages in order -/

/-- How many of the calls, made one after another, confirm. -/
def confirmations (s : Session) : List Call → Nat
  | [] => 0
  | c :: cs => (s.confirms c).toNat + confirmations (s.call c).2 cs

theorem callAll_append (s : Session) (cs more : List Call) :
    s.callAll (cs ++ more) = (s.callAll cs).callAll more :=
  List.foldl_append ..

theorem confirmations_append (s : Session) (cs more : List Call) :
    s.confirmations (cs ++ more) = s.confirmations cs + (s.callAll cs).confirmations more := by
  induction cs generalizing s with
  | nil => exact (Nat.zero_add _).symm
  | cons c cs ih =>
    rw [List.cons_append, confirmations, confirmations, ih, Nat.add_assoc]
    rfl

variable {past : List Notice} {text : String} {atBottom : Bool} {pages : List String} {i : Nat}

/-- A call under a dialog shows the next page if it confirms, unless it confirms the last. -/
theorem shows_call (hs : s.dialogShowing = true)
    (h : s.game.stage.Shows past text atBottom pages i)
    (hnext : i + (s.confirms c).toNat < pages.length) :
    (s.call c).2.dialogShowing = true ∧
      (s.call c).2.game.stage.Shows past text atBottom pages (i + (s.confirms c).toNat) := by
  cases hconfirms : s.confirms c with
  | false =>
    obtain ⟨hshowing, hquiet⟩ := quiet_call hs hconfirms
    exact ⟨hshowing, h.of_quiet hquiet⟩
  | true =>
    rw [hconfirms] at hnext
    obtain ⟨t, hsets, heq⟩ := call_of_confirms hs hconfirms
    have ht := hsets.dialogShowing.trans hs
    rw [← hsets.game] at h
    have hincomplete : t.game.stage.pager.isComplete = false :=
      Bool.eq_false_iff.mpr (mt h.isComplete_iff.mp (Nat.ne_of_lt hnext))
    rw [heq, confirm_of_incomplete ht hincomplete]
    exact ⟨ht, h.finishPage hnext⟩

/-- Calls under a dialog show a page for each confirmation among them, as long as these are
fewer than the pages left. -/
theorem shows_callAll (hs : s.dialogShowing = true)
    (h : s.game.stage.Shows past text atBottom pages i) (cs : List Call)
    (hpages : i + s.confirmations cs < pages.length) :
    (s.callAll cs).dialogShowing = true ∧
      (s.callAll cs).game.stage.Shows past text atBottom pages (i + s.confirmations cs) := by
  induction cs generalizing s i with
  | nil => exact ⟨hs, h⟩
  | cons c cs ih =>
    rw [confirmations, ← Nat.add_assoc] at hpages ⊢
    obtain ⟨hshowing, hshows⟩ := shows_call hs h (Nat.lt_of_le_of_lt (Nat.le_add_right ..) hpages)
    exact ih hshowing hshows hpages

/-- To confirm the last page of a dialog ends it. If a dialog shows after that, it has begun
since. -/
theorem ends_call (hs : s.dialogShowing = true)
    (h : s.game.stage.Shows past text atBottom pages i) (hlast : i + 1 = pages.length)
    (hconfirms : s.confirms c = true) :
    s.game.stage.endDialog.GoesOn (s.call c).2.game.stage ∧
      ((s.call c).2.dialogShowing = true →
        s.game.stage.endDialog.Began (s.call c).2.game.stage) := by
  obtain ⟨t, hsets, heq⟩ := call_of_confirms hs hconfirms
  have hcomplete : t.game.stage.pager.isComplete = true := by
    rw [hsets.game]
    exact h.isComplete_iff.mpr hlast
  have hopened := opened_confirm (hsets.dialogShowing.trans hs) hcomplete
  rw [heq, ← hsets.game]
  exact ⟨hopened.goesOn, hopened.began⟩

/-- In a call a dialog begins after `past`, and it shows its first page when the call ends. -/
structure BeginsDialog (s : Session) (c : Call) (past : List Notice) (text : String)
    (atBottom : Bool) : Prop where
  earlier : s.game.stage.log <+: past
  showing : (s.call c).2.dialogShowing = true
  shows : (s.call c).2.game.stage.Shows past text atBottom
    (paginate text s.game.stage.pager.pageChars) 0

theorem exists_beginsDialog_of_began {stage : Stage} (hgoes : s.game.stage.GoesOn stage)
    (hbegan : stage.Began (s.call c).2.game.stage) (hshowing : (s.call c).2.dialogShowing = true) :
    ∃ past text atBottom, s.BeginsDialog c past text atBottom := by
  obtain ⟨past, text, atBottom, hpast, hshows⟩ := hbegan.shows
  rw [hgoes.pageChars] at hshows
  exact ⟨past, text, atBottom, hgoes.log.trans hpast, hshowing, hshows⟩

theorem BeginsDialog.begun {earlier : List Call}
    (h : (s.callAll earlier).BeginsDialog c past text atBottom) :
    (s.callAll (earlier ++ [c])).dialogShowing = true ∧
      (s.callAll (earlier ++ [c])).game.stage.Shows past text atBottom
        (paginate text s.game.stage.pager.pageChars) 0 := by
  have hshows := h.shows
  rw [(s.goesOn_callAll earlier).pageChars] at hshows
  rw [callAll_append_singleton]
  exact ⟨h.showing, hshows⟩

/-- A dialog that shows after calls has begun in one of them, and has not been confirmed since
as often as it has pages. -/
theorem exists_beginsDialog (hs : s.dialogShowing = false) {cs : List Call}
    (hshowing : (s.callAll cs).dialogShowing = true) :
    ∃ earlier c later past text atBottom, cs = earlier ++ c :: later ∧
      (s.callAll earlier).BeginsDialog c past text atBottom ∧
      (s.callAll (earlier ++ [c])).confirmations later <
        (paginate text s.game.stage.pager.pageChars).length := by
  induction cs using List.reverseRecOn with
  | nil => cases hs.symm.trans hshowing
  | append_singleton cs c ih =>
    have hpageChars := (s.goesOn_callAll cs).pageChars
    -- The dialog that shows in the end has begun in the last call, or it shows before that.
    have hnew : (∃ past text atBottom, (s.callAll cs).BeginsDialog c past text atBottom) →
        ∃ earlier c' later past text atBottom, cs ++ [c] = earlier ++ c' :: later ∧
          (s.callAll earlier).BeginsDialog c' past text atBottom ∧
          (s.callAll (earlier ++ [c'])).confirmations later <
            (paginate text s.game.stage.pager.pageChars).length := by
      rintro ⟨past, text, atBottom, hbegins⟩
      exact ⟨cs, c, [], past, text, atBottom, rfl, hbegins, length_paginate_pos ..⟩
    rw [callAll_append_singleton] at hshowing
    cases hbefore : (s.callAll cs).dialogShowing with
    | false => exact hnew (exists_beginsDialog_of_began (.refl _)
        ((opened_call hbefore c).began hshowing) hshowing)
    | true =>
      obtain ⟨earlier, c', later, past, text, atBottom, rfl, hbegins, hlt⟩ := ih hbefore
      have hsplit : s.callAll (earlier ++ c' :: later) =
          (s.callAll (earlier ++ [c'])).callAll later := by
        rw [← callAll_append, List.append_assoc, List.singleton_append]
      obtain ⟨hbegun, hfirst⟩ := hbegins.begun
      obtain ⟨-, hshows⟩ := shows_callAll hbegun hfirst later (by rwa [Nat.zero_add])
      rw [hsplit] at hbefore hshowing hnew
      rw [Nat.zero_add] at hshows
      by_cases hends : ((s.callAll (earlier ++ [c'])).callAll later).confirms c = true ∧
          (s.callAll (earlier ++ [c'])).confirmations later + 1 =
            (paginate text s.game.stage.pager.pageChars).length
      · obtain ⟨hgoes, hbegan⟩ := ends_call hbefore hshows hends.2 hends.1
        exact hnew (exists_beginsDialog_of_began (.endDialog _) (hbegan hshowing) hshowing)
      · refine ⟨earlier, c', later ++ [c], past, text, atBottom, by simp, hbegins, ?_⟩
        have hone : ((s.callAll (earlier ++ [c'])).callAll later).confirmations [c] =
            (((s.callAll (earlier ++ [c'])).callAll later).confirms c).toNat := Nat.add_zero _
        rw [confirmations_append, hone]
        cases hc : ((s.callAll (earlier ++ [c'])).callAll later).confirms c with
        | false => exact hlt
        | true => exact Nat.lt_of_le_of_ne hlt fun heq => hends ⟨hc, heq⟩

variable {w : World} {config : Config} {stage : Stage} {s₀ : Session}

/-- A session starts on its stage, which has gone on. -/
theorem goesOn_start (h : start w config stage = .ok s) : stage.GoesOn s.game.stage := by
  unfold start at h
  split at h
  · cases h
  · obtain ⟨game, hgame, h⟩ := bind_eq_ok.mp h
    cases h
    obtain ⟨_, _, _, _, _, -, -, -, -, rfl⟩ := Game.enterRoom_eq_ok hgame
    exact ⟨List.prefix_append .., rfl⟩

/-- The pages of a dialog are shown once and in order. A dialog that shows after some calls of a
session has begun in one of these, with a text and on one side of the screen. Whatever is called
from then on, the dialog goes on to show as long as there have been fewer confirmations than it
has pages. The lines since its beginning are those of its first page and of one page more for
each confirmation, in order, and nothing begins or ends a dialog. The confirmation that makes
them as many as the pages ends the dialog: then the lines have been those of all pages, and after
them it says that the dialog is closed. -/
theorem pages_of_dialog (hstart : start w config stage = .ok s₀) {cs : List Call}
    (hshowing : (s₀.callAll cs).dialogShowing = true) :
    ∃ earlier c later past text atBottom, cs = earlier ++ c :: later ∧
      (s₀.callAll earlier).game.stage.log <+: past ∧
      let pages := paginate text stage.pager.pageChars
      let begun := s₀.callAll (earlier ++ [c])
      begun.confirmations later < pages.length ∧
      (∀ more, begun.confirmations more < pages.length →
        (begun.callAll more).dialogShowing = true ∧
        ∃ since, (begun.callAll more).game.stage.log =
            past ++ .dialogBegan text atBottom :: since ∧ Unbroken since ∧
          since.filterMap Notice.line? =
            (pageLines atBottom pages).take (begun.confirmations more + 1)) ∧
      ∀ more last, begun.confirmations more + 1 = pages.length →
        (begun.callAll more).confirms last = true →
        ∃ since rest, ((begun.callAll more).call last).2.game.stage.log =
            past ++ .dialogBegan text atBottom :: since ++
              .dialogEnded :: .line "[dialog closed]" :: rest ∧ Unbroken since ∧
          since.filterMap Notice.line? = pageLines atBottom pages := by
  have hclosed : s₀.dialogShowing = false := by
    rw [dialogShowing, (idle_start hstart).1]
    rfl
  obtain ⟨earlier, c, later, past, text, atBottom, heq, hbegins, hlt⟩ :=
    exists_beginsDialog hclosed hshowing
  obtain ⟨hbegun, hfirst⟩ := hbegins.begun
  rw [(goesOn_start hstart).pageChars] at hlt hfirst
  refine ⟨earlier, c, later, past, text, atBottom, heq, hbegins.earlier, hlt,
    fun more hmore => ?_, fun more last hlast hconfirms => ?_⟩
  · obtain ⟨hmore, hshows⟩ := shows_callAll hbegun hfirst more (by rwa [Nat.zero_add])
    rw [Nat.zero_add] at hshows
    exact ⟨hmore, hshows.log⟩
  · have hmore : (s₀.callAll (earlier ++ [c])).confirmations more <
        (paginate text stage.pager.pageChars).length := hlast ▸ Nat.lt_succ_self _
    obtain ⟨hmore, hshows⟩ := shows_callAll hbegun hfirst more (by rwa [Nat.zero_add])
    rw [Nat.zero_add] at hshows
    obtain ⟨since, hlog, hunbroken, hlines⟩ := hshows.endDialog hlast
    obtain ⟨⟨rest, hrest⟩, -⟩ := (ends_call hmore hshows hlast hconfirms).1
    refine ⟨since, rest, ?_, hunbroken, hlines⟩
    rw [← hrest, hlog]
    simp

/-- The start of a session at the crossing, with two characters on a page. -/
def atNarrowCrossing : Session :=
  { atCrossing with
    game := { atCrossing.game with stage := ⟨.ofPageChars 2, atCrossing.game.stage.log⟩ } }

/-- The sign says "Halt" on two pages, of which a lifted touch has confirmed the first. A move
meanwhile makes no difference, and one more arrow closes the dialog. -/
theorem pages_of_dialog_crossing :
    let cs : List Call := [.move (some .right), .move (some .right), .handle (.touch ⟨0, 0⟩),
      .handle .lift, .move none]
    let lines (s : Session) := s.game.stage.log.filterMap Notice.line?
    start crossing .default (.ofPageChars 2) = .ok atNarrowCrossing ∧
      (atNarrowCrossing.callAll cs).dialogShowing = true ∧
      lines (atNarrowCrossing.callAll cs) = ["[dialog bottom 1/2] Ha", "[dialog bottom 2/2] lt"] ∧
      lines (atNarrowCrossing.callAll (cs ++ [.handle (.keyDown (.arrow .up) false)])) =
        ["[dialog bottom 1/2] Ha", "[dialog bottom 2/2] lt", "[dialog closed]"] ∧
      ∃ earlier c later text, cs = earlier ++ c :: later ∧
        let begun := atNarrowCrossing.callAll (earlier ++ [c])
        begun.confirmations later < (paginate text 2).length ∧
        ∀ more, begun.confirmations more < (paginate text 2).length →
          (begun.callAll more).dialogShowing = true := by
  intro cs lines
  have hstart : start crossing .default (.ofPageChars 2) = .ok atNarrowCrossing := rfl
  have hshowing : (atNarrowCrossing.callAll cs).dialogShowing = true := rfl
  obtain ⟨earlier, c, later, _, text, _, hcs, -, hlt, hshows, -⟩ :=
    pages_of_dialog hstart hshowing
  exact ⟨hstart, hshowing, rfl, rfl, earlier, c, later, text, hcs, hlt,
    fun more hmore => (hshows more hmore).1⟩

end Session

end TileAdventure
