import TileAdventure.Proofs.Stage.Dialogs
import TileAdventure.Proofs.Stage.Paging

/-!
# Turning the pages of a dialog

While a dialog shows, the stage has shown the pages up to the one it is at, in order and
nothing else (`Stage.Shows`). It stays so as long as the stage is quiet, that is, as only mute
notices are logged, which neither call the dialog nor show a line (`Stage.Shows.of_quiet`). To
finish a page that is not the last shows the next one (`Stage.Shows.finishPage`), and to end
the dialog after the last page shows that it is closed (`Stage.Shows.endDialog`).

A stage that may call the dialog goes on (`Stage.GoesOn`): its log grows, and its pages are of
the same size. Between two states of a gate that has not been lifted the stage is quiet, or a
dialog has begun on it (`Stage.Opening`).
-/

namespace TileAdventure

/-! ## The lines of pages -/

/-- The line that shows a page of a dialog, by its index. -/
def pageLine (atBottom : Bool) (pages : List String) (i : Nat) : String :=
  "[dialog " ++ (if atBottom then "bottom" else "top") ++ " " ++ toString (i + 1) ++ "/"
    ++ toString pages.length ++ "] " ++ pages.getD i ""

/-- The lines that show the pages of a dialog in order. -/
def pageLines (atBottom : Bool) (pages : List String) : List String :=
  (List.range pages.length).map (pageLine atBottom pages)

theorem length_paginate_pos (text : String) (n : Nat) : 0 < (paginate text n).length :=
  List.length_pos_iff.mpr (paginate_ne_nil text n)

/-- The lines so far, and the line of the next page. -/
theorem take_pageLines (atBottom : Bool) {pages : List String} {i : Nat}
    (h : i < pages.length) :
    (pageLines atBottom pages).take (i + 1) =
      (pageLines atBottom pages).take i ++ [pageLine atBottom pages i] := by
  have hlength : i < (pageLines atBottom pages).length := by simpa [pageLines] using h
  rw [List.take_succ_eq_append_getElem hlength]
  simp [pageLines]

theorem take_length_pageLines (atBottom : Bool) (pages : List String) :
    (pageLines atBottom pages).take pages.length = pageLines atBottom pages :=
  List.take_of_length_le (by simp [pageLines])

theorem Pager.pageLine_eq (p : Pager) (h : 0 < p.pages.length) :
    p.pageLine = TileAdventure.pageLine p.atBottom p.pages p.page := by
  delta Pager.pageLine TileAdventure.pageLine
  rw [Nat.max_eq_left h]

/-! ## Mute notices -/

/-- The notices neither begin nor end a dialog. -/
def Unbroken (notices : List Notice) : Prop :=
  .began ∉ dialogCalls notices ∧ .ended ∉ dialogCalls notices

theorem Unbroken.append_mute {notices more : List Notice} (h : Unbroken notices)
    (hmute : ∀ notice ∈ more, notice.IsMute) : Unbroken (notices ++ more) := by
  rwa [Unbroken, dialogCalls_append, dialogCalls_of_mute hmute, List.append_nil]

theorem lines_of_mute {notices : List Notice} (h : ∀ notice ∈ notices, notice.IsMute) :
    notices.filterMap Notice.line? = [] :=
  List.filterMap_eq_nil_iff.mpr fun notice hmem => (h notice hmem).2

namespace Stage

variable {s t u : Stage}

/-- From stage `s` to stage `t` the log has grown, and pages have kept their size. -/
structure GoesOn (s t : Stage) : Prop where
  log : s.log <+: t.log
  pageChars : t.pager.pageChars = s.pager.pageChars

namespace GoesOn

theorem refl (s : Stage) : s.GoesOn s :=
  ⟨List.prefix_rfl, rfl⟩

theorem trans (h : s.GoesOn t) (h' : t.GoesOn u) : s.GoesOn u :=
  ⟨h.log.trans h'.log, h'.pageChars.trans h.pageChars⟩

theorem beginDialog (s : Stage) (text : String) (atBottom : Bool) :
    s.GoesOn (s.beginDialog text atBottom) :=
  ⟨List.prefix_append .., rfl⟩

theorem endDialog (s : Stage) : s.GoesOn s.endDialog :=
  ⟨List.prefix_append .., rfl⟩

theorem finishPage (s : Stage) : s.GoesOn s.finishPage := by
  refine ⟨List.prefix_append .., ?_⟩
  unfold Stage.finishPage tellPager Pager.turnPage
  split <;> rfl

end GoesOn

theorem Quiet.goesOn (h : s.Quiet t) : s.GoesOn t := by
  obtain ⟨notices, -, rfl⟩ := h
  exact ⟨List.prefix_append .., rfl⟩

/-- From stage `s` to stage `t` a dialog has begun, and nothing else has been shown since. -/
def Began (s t : Stage) : Prop :=
  ∃ before text atBottom, s.GoesOn before ∧ (before.beginDialog text atBottom).Quiet t

theorem Began.of_goesOn (h : s.GoesOn t) (h' : t.Began u) : s.Began u := by
  obtain ⟨before, text, atBottom, hbefore, hquiet⟩ := h'
  exact ⟨before, text, atBottom, h.trans hbefore, hquiet⟩

theorem Began.quiet (h : s.Began t) (h' : t.Quiet u) : s.Began u := by
  obtain ⟨before, text, atBottom, hbefore, hquiet⟩ := h
  exact ⟨before, text, atBottom, hbefore, hquiet.trans h'⟩

namespace Opening

variable {before after : Bool}

theorem goesOn (h : Opening before s t after) : s.GoesOn t := by
  cases h with
  | quiet _ hquiet => exact hquiet.goesOn
  | began text atBottom hbefore hsince =>
    exact (hbefore.goesOn.trans (.beginDialog _ text atBottom)).trans hsince.goesOn

/-- If the gate has been closed, a dialog has begun. -/
theorem began_of_closed (h : Opening before s t after) (hbefore : before = false)
    (hafter : after = true) : s.Began t := by
  cases h with
  | quiet => cases hbefore.symm.trans hafter
  | began text atBottom hquiet hsince => exact ⟨_, text, atBottom, hquiet.goesOn, hsince⟩

end Opening

/-! ## Showing a dialog -/

/-- After `past` a dialog with these pages has begun, and the stage has shown its pages up to
the one numbered `i` in order, and nothing else. -/
structure Shows (past : List Notice) (text : String) (atBottom : Bool) (pages : List String)
    (i : Nat) (s : Stage) : Prop where
  page_lt : i < pages.length
  pager : s.pager = ⟨s.pager.pageChars, pages, i, atBottom⟩
  log : ∃ since, s.log = past ++ .dialogBegan text atBottom :: since ∧ Unbroken since ∧
    since.filterMap Notice.line? = (pageLines atBottom pages).take (i + 1)

namespace Shows

variable {past : List Notice} {text : String} {atBottom : Bool} {pages : List String} {i : Nat}

theorem of_quiet (h : Shows past text atBottom pages i s) (hquiet : s.Quiet t) :
    Shows past text atBottom pages i t := by
  obtain ⟨since, hlog, hunbroken, hlines⟩ := h.log
  obtain ⟨notices, hmute, rfl⟩ := hquiet
  refine ⟨h.page_lt, h.pager, since ++ notices, ?_, hunbroken.append_mute hmute, ?_⟩
  · simp [tell, hlog]
  · rw [List.filterMap_append, lines_of_mute hmute, List.append_nil, hlines]

theorem isComplete_iff (h : Shows past text atBottom pages i s) :
    s.pager.isComplete = true ↔ i + 1 = pages.length := by
  rw [h.pager, Pager.isComplete, decide_eq_true_eq]
  exact ⟨fun hle => Nat.le_antisymm h.page_lt hle, fun heq => heq.ge⟩

/-- To begin a dialog shows its first page. -/
theorem beginDialog (s : Stage) (text : String) (atBottom : Bool) :
    Shows s.log text atBottom (paginate text s.pager.pageChars) 0
      (s.beginDialog text atBottom) := by
  have hpos := length_paginate_pos text s.pager.pageChars
  refine ⟨hpos, rfl, [.line _], rfl, by simp [Unbroken, dialogCalls, Notice.dialogCall?], ?_⟩
  rw [take_pageLines atBottom hpos]
  exact congrArg (fun line => [line]) (Pager.pageLine_eq _ hpos)

/-- To finish a page that is not the last shows the next one. -/
theorem finishPage (h : Shows past text atBottom pages i s) (hnext : i + 1 < pages.length) :
    Shows past text atBottom pages (i + 1) s.finishPage := by
  obtain ⟨since, hlog, hunbroken, hlines⟩ := h.log
  have hnot : ¬s.pager.isComplete = true := mt h.isComplete_iff.mp hnext.ne
  have hpager : s.pager.turnPage.2 = ⟨s.pager.pageChars, pages, i + 1, atBottom⟩ := by
    rw [Pager.turnPage, if_neg hnot, h.pager]
  have hshown : s.pager.turnPage.1 = [pageLine atBottom pages (i + 1)] := by
    rw [Pager.turnPage, if_neg hnot, h.pager]
    exact congrArg (fun line => [line]) (Pager.pageLine_eq _ (Nat.zero_lt_of_lt h.page_lt))
  refine ⟨hnext, hpager.trans (by rw [Stage.finishPage, tellPager, hpager]),
    since ++ [.pageFinished, .line (pageLine atBottom pages (i + 1))], ?_, ?_, ?_⟩
  · simp [Stage.finishPage, tellPager, hshown, hlog]
  · simpa [Unbroken, dialogCalls, Notice.dialogCall?] using hunbroken
  · rw [List.filterMap_append, hlines, take_pageLines atBottom hnext]
    rfl

/-- To end the dialog after its last page shows that it is closed. -/
theorem endDialog (h : Shows past text atBottom pages i s) (hlast : i + 1 = pages.length) :
    ∃ since, s.endDialog.log = past ++ .dialogBegan text atBottom :: since ++
        [.dialogEnded, .line "[dialog closed]"] ∧
      Unbroken since ∧ since.filterMap Notice.line? = pageLines atBottom pages := by
  obtain ⟨since, hlog, hunbroken, hlines⟩ := h.log
  refine ⟨since, ?_, hunbroken, ?_⟩
  · simp [Stage.endDialog, tellPager, Pager.close, hlog]
  · rw [hlines, hlast, take_length_pageLines]

end Shows

/-- A dialog that has begun shows its first page. -/
theorem Began.shows (h : s.Began t) : ∃ past text atBottom, s.log <+: past ∧
    Shows past text atBottom (paginate text s.pager.pageChars) 0 t := by
  obtain ⟨before, text, atBottom, hbefore, hquiet⟩ := h
  have hshows := (Shows.beginDialog before text atBottom).of_quiet hquiet
  exact ⟨before.log, text, atBottom, hbefore.log, hbefore.pageChars ▸ hshows⟩

end Stage

end TileAdventure
