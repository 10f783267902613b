import Mathlib.Data.List.Chain
import TileAdventure.Stage.Basic

/-!
# The course of dialogs

The log shows which calls the dialog got: it began, ended, or finished a page. Calls are in
step with a gate (`InStep`) if dialogs begin and end in turn, pages are finished only in
between, and the gate shows just while a dialog has begun and not ended. Each call extends
calls in step by one (`InStep.began`, `InStep.paged`, `InStep.ended`). Where a gate has only been
closed, the stage has been quiet but for a dialog that may have begun (`Stage.Opening`), so
there has been at most one call (`Opens`).
-/

namespace TileAdventure

/-- A call of the dialog. -/
inductive DialogCall where
  | began
  | ended
  | paged
  deriving DecidableEq, Repr

/-- The call of the dialog that a notice reports. -/
def Notice.dialogCall? : Notice → Option DialogCall
  | .dialogBegan .. => some .began
  | .dialogEnded => some .ended
  | .pageFinished => some .paged
  | _ => none

/-- The calls of the dialog among notices. -/
def dialogCalls (notices : List Notice) : List DialogCall :=
  notices.filterMap Notice.dialogCall?

@[simp] theorem dialogCalls_append (notices more : List Notice) :
    dialogCalls (notices ++ more) = dialogCalls notices ++ dialogCalls more :=
  List.filterMap_append

@[simp] theorem dialogCalls_lines (lines : List String) :
    dialogCalls (lines.map .line) = [] := by
  simp [dialogCalls, Notice.dialogCall?]

/-! ## Logging -/

namespace Stage

/-- From stage `s` to stage `t` the log has grown by notices with the given calls. -/
def Logs (s t : Stage) (calls : List DialogCall) : Prop :=
  ∃ notices, t.log = s.log ++ notices ∧ dialogCalls notices = calls

theorem Logs.refl (s : Stage) : s.Logs s [] :=
  ⟨[], by simp, rfl⟩

theorem Logs.trans {s t u : Stage} {calls more : List DialogCall} (h : s.Logs t calls)
    (h' : t.Logs u more) : s.Logs u (calls ++ more) := by
  obtain ⟨notices, hlog, rfl⟩ := h
  obtain ⟨notices', hlog', rfl⟩ := h'
  exact ⟨notices ++ notices', by rw [hlog', hlog, List.append_assoc], by simp⟩

theorem logs_tell (s : Stage) {notices : List Notice} (h : dialogCalls notices = []) :
    s.Logs (s.tell notices) [] :=
  ⟨notices, rfl, h⟩

theorem logs_tellPager (s : Stage) (notice : Notice) (shown : List String × Pager) :
    s.Logs (s.tellPager notice shown) (dialogCalls [notice]) := by
  refine ⟨notice :: shown.1.map .line, rfl, ?_⟩
  rw [← List.singleton_append, dialogCalls_append, dialogCalls_lines, List.append_nil]

theorem logs_beginDialog (s : Stage) (text : String) (atBottom : Bool) :
    s.Logs (s.beginDialog text atBottom) [.began] :=
  s.logs_tellPager _ _

theorem logs_endDialog (s : Stage) : s.Logs s.endDialog [.ended] :=
  s.logs_tellPager _ _

theorem logs_finishPage (s : Stage) : s.Logs s.finishPage [.paged] :=
  s.logs_tellPager _ _

end Stage

/-! ## Calls in step -/

/-- The calls that begin or end a dialog. -/
def edges (calls : List DialogCall) : List DialogCall :=
  calls.filter (· ≠ .paged)

@[simp] theorem edges_append (calls more : List DialogCall) :
    edges (calls ++ more) = edges calls ++ edges more :=
  List.filter_append ..

/-- The calls are in a proper order, and leave a dialog open exactly if `showing`. -/
structure InStep (calls : List DialogCall) (showing : Bool) : Prop where
  showing_iff : showing = true ↔ (edges calls).getLast? = some .began
  starts : ∀ call ∈ (edges calls).head?, call = .began
  alternates : (edges calls).IsChain (· ≠ ·)
  pages : ∀ pre post, calls = pre ++ .paged :: post → (edges pre).getLast? = some .began

/-- An element of a list with one more at its end is that one, or stood in the list before. -/
theorem snoc_eq_append {α : Type} {xs pre post : List α} {x y : α}
    (h : xs ++ [x] = pre ++ y :: post) :
    xs = pre ∧ x = y ∨ ∃ post', xs = pre ++ y :: post' := by
  rcases List.eq_nil_or_concat post with rfl | ⟨post, last, rfl⟩
  · obtain ⟨hpre, hlast⟩ := List.append_inj' h rfl
    exact Or.inl ⟨hpre, List.singleton_inj.mp hlast⟩
  · have h' : xs ++ [x] = (pre ++ y :: post) ++ [last] := by simpa using h
    exact Or.inr ⟨post, (List.append_inj' h' rfl).1⟩

namespace InStep

variable {calls : List DialogCall}

/-- No call yet, and no dialog. -/
theorem nil : InStep [] false where
  showing_iff := by simp [edges]
  starts := by simp [edges]
  alternates := by simp [edges]
  pages := by simp

/-- A call other than a finished page comes after its opposite. -/
theorem snoc_edge {showing : Bool} (h : InStep calls showing) {call : DialogCall}
    (hedge : call ≠ .paged) (hlast : ∀ last ∈ (edges calls).getLast?, last ≠ call)
    (hfirst : edges calls = [] → call = .began) :
    InStep (calls ++ [call]) (call = .began) where
  showing_iff := by simp [edges, hedge]
  starts := by
    have hsingle : edges [call] = [call] := by simp [edges, hedge]
    rw [edges_append, hsingle]
    cases hc : edges calls with
    | nil => simpa using hfirst hc
    | cons first rest => simpa [hc] using h.starts
  alternates := by
    have hsingle : edges [call] = [call] := by simp [edges, hedge]
    rw [edges_append, hsingle]
    refine List.isChain_append.mpr ⟨h.alternates, by simp, fun last hl x hx => ?_⟩
    obtain rfl : call = x := by simpa using hx
    exact hlast last hl
  pages pre post heq := by
    rcases snoc_eq_append heq with ⟨-, hcall⟩ | ⟨post, heq⟩
    · exact (hedge hcall).elim
    · exact h.pages pre post heq

theorem began (h : InStep calls false) : InStep (calls ++ [.began]) true := by
  have hlast : (edges calls).getLast? ≠ some .began := by simpa using h.showing_iff
  exact h.snoc_edge (by decide) (fun last hl hb => hlast (hb ▸ hl)) fun _ => rfl

theorem ended (h : InStep calls true) : InStep (calls ++ [.ended]) false := by
  have hlast : (edges calls).getLast? = some .began := h.showing_iff.mp rfl
  refine h.snoc_edge (by decide) (fun last hl he => ?_) fun hnil => ?_
  · rw [Option.mem_def, hlast] at hl
    cases hl
    cases he
  · simp [hnil] at hlast

theorem paged (h : InStep calls true) : InStep (calls ++ [.paged]) true := by
  have hlast : (edges calls).getLast? = some .began := h.showing_iff.mp rfl
  have hedges : edges (calls ++ [.paged]) = edges calls := by simp [edges]
  refine ⟨by simp [hedges, hlast], hedges ▸ h.starts, hedges ▸ h.alternates,
    fun pre post heq => ?_⟩
  rcases snoc_eq_append heq with ⟨rfl, -⟩ | ⟨post, heq⟩
  · exact hlast
  · exact h.pages pre post heq

end InStep

/-! ## Gates that only close -/

/-- The notice is no call of the dialog and no line. -/
def Notice.IsMute (notice : Notice) : Prop :=
  notice.dialogCall? = none ∧ notice.line? = none

theorem dialogCalls_of_mute {notices : List Notice} (h : ∀ notice ∈ notices, notice.IsMute) :
    dialogCalls notices = [] :=
  List.filterMap_eq_nil_iff.mpr fun notice hmem => (h notice hmem).1

/-- Between two states of a gate that has not been lifted the dialog got these calls: none,
or one that began it. -/
def Opens (before : Bool) (calls : List DialogCall) (after : Bool) : Prop :=
  calls = [] ∧ after = before ∨ calls = [.began] ∧ before = false ∧ after = true

namespace Opens

variable {before after : Bool} {calls : List DialogCall}

theorem inStep {earlier : List DialogCall} (h : Opens before calls after)
    (hs : InStep earlier before) : InStep (earlier ++ calls) after := by
  rcases h with ⟨rfl, rfl⟩ | ⟨rfl, rfl, rfl⟩
  · simpa using hs
  · exact hs.began

theorem count_began_le (h : Opens before calls after) : calls.count .began ≤ 1 := by
  rcases h with ⟨rfl, -⟩ | ⟨rfl, -, -⟩ <;> simp

end Opens

namespace Stage

variable {s t u : Stage}

/-- From stage `s` to stage `t` only mute notices have been logged. -/
def Quiet (s t : Stage) : Prop :=
  ∃ notices : List Notice, (∀ notice ∈ notices, notice.IsMute) ∧ t = s.tell notices

theorem Quiet.refl (s : Stage) : s.Quiet s :=
  ⟨[], by simp, by simp [tell]⟩

theorem Quiet.trans (h : s.Quiet t) (h' : t.Quiet u) : s.Quiet u := by
  obtain ⟨notices, hmute, rfl⟩ := h
  obtain ⟨more, hmute', rfl⟩ := h'
  refine ⟨notices ++ more, fun notice hmem => ?_, by simp [tell]⟩
  exact (List.mem_append.mp hmem).elim (hmute notice) (hmute' notice)

theorem Quiet.logs (h : s.Quiet t) : s.Logs t [] := by
  obtain ⟨notices, hmute, rfl⟩ := h
  exact s.logs_tell (dialogCalls_of_mute hmute)

/-- Between two states of a gate that has not been lifted the stage is quiet, but for a dialog
that may have begun on it. -/
inductive Opening : Bool → Stage → Stage → Bool → Prop
  | quiet {s t : Stage} (showing : Bool) : s.Quiet t → Opening showing s t showing
  | began {s t u : Stage} (text : String) (atBottom : Bool) : s.Quiet t →
      (t.beginDialog text atBottom).Quiet u → Opening false s u true

namespace Opening

variable {before middle after : Bool}

theorem refl (showing : Bool) (s : Stage) : Opening showing s s showing :=
  .quiet showing (.refl s)

theorem trans (h : Opening before s t middle) (h' : Opening middle t u after) :
    Opening before s u after := by
  cases h with
  | quiet _ hquiet =>
    cases h' with
    | quiet _ hquiet' => exact .quiet _ (hquiet.trans hquiet')
    | began text atBottom hbefore hsince =>
      exact .began text atBottom (hquiet.trans hbefore) hsince
  | began text atBottom hbefore hsince =>
    cases h' with
    | quiet _ hquiet => exact .began text atBottom hbefore (hsince.trans hquiet)

/-- A gate that is closed stays so, and the stage is quiet. -/
theorem of_true (h : Opening true s t after) : after = true ∧ s.Quiet t := by
  cases h with
  | quiet _ hquiet => exact ⟨rfl, hquiet⟩

/-- The dialog gets at most one call, which begins it. -/
theorem opens (h : Opening before s t after) :
    ∃ calls, s.Logs t calls ∧ Opens before calls after := by
  cases h with
  | quiet _ hquiet => exact ⟨[], hquiet.logs, Or.inl ⟨rfl, rfl⟩⟩
  | began text atBottom hbefore hsince =>
    exact ⟨[.began], (hbefore.logs.trans (logs_beginDialog ..)).trans hsince.logs,
      Or.inr ⟨rfl, rfl, rfl⟩⟩

end Opening

end Stage

end TileAdventure
