import TileAdventure.Stage.Basic

/-!
# What is on the screen

Notices tell the screen which sprites to prepare and what to draw. `Screen` is what they leave
there: the sprites that have been prepared since all were dropped, and the background of the
picture under way. A screen allows to draw a sprite that it has prepared, in the colours of
the background, if all that it has prepared is in these colours (`Screen.Allows`). Notices are
faithful if each of them is allowed on the screen that those before it have left
(`Screen.Faithful`, `Screen.faithful_iff`). Notices that are calm about a palette neither draw
nor drop anything, and prepare only in its colours (`Notice.Calm`): they only add to what is
prepared (`Screen.prepared_after`).
-/

namespace TileAdventure

/-- A sprite that has been prepared in the colours of a palette. -/
structure Preparation where
  sprite : Sprite
  palette : Palette
  flipped : Bool

/-- What notices leave on the screen: the sprites prepared since all were dropped, and the
background of the picture under way. -/
structure Screen where
  prepared : List Preparation
  background : Option Palette

/-- What a notice prepares. -/
def Notice.preparation? : Notice → Option Preparation
  | .prepare sprite palette flipped => some ⟨sprite, palette, flipped⟩
  | _ => none

/-- What notices prepare, in order. -/
def preparations (notices : List Notice) : List Preparation :=
  notices.filterMap Notice.preparation?

@[simp] theorem preparations_append (notices more : List Notice) :
    preparations (notices ++ more) = preparations notices ++ preparations more :=
  List.filterMap_append

/-- A notice that draws a tile or the avatar. -/
def Notice.Draws : Notice → Prop
  | .drawTile .. | .drawAvatar .. => True
  | _ => False

/-- A notice that is no part of a picture. -/
def Notice.Quiet : Notice → Prop
  | .drawBackground _ | .drawTile .. | .drawAvatar .. => False
  | _ => True

/-- A notice that neither draws nor drops anything, and prepares only in the colours of the
palette. -/
def Notice.Calm (palette : Palette) : Notice → Prop
  | .dropSprites | .drawBackground _ | .drawTile .. | .drawAvatar .. => False
  | .prepare _ p _ => p = palette
  | .dialogBegan .. | .dialogEnded | .pageFinished | .line _ => True

theorem Notice.Calm.quiet {palette : Palette} {notice : Notice} (h : notice.Calm palette) :
    notice.Quiet := by
  cases notice with
  | drawBackground | drawTile | drawAvatar => exact h
  | _ => exact trivial

namespace Screen

/-- A screen on which nothing has happened. -/
def blank : Screen := ⟨[], none⟩

/-- The screen after a notice. A picture goes on as long as tiles or the avatar are drawn. -/
def next (screen : Screen) : Notice → Screen
  | .dropSprites => ⟨[], none⟩
  | .prepare sprite palette flipped => ⟨screen.prepared ++ [⟨sprite, palette, flipped⟩], none⟩
  | .drawBackground palette => ⟨screen.prepared, some palette⟩
  | .drawTile .. | .drawAvatar .. => screen
  | .dialogBegan .. | .dialogEnded | .pageFinished | .line _ => ⟨screen.prepared, none⟩

/-- The screen after notices. -/
def after (screen : Screen) (notices : List Notice) : Screen :=
  notices.foldl next screen

/-- The picture under way has this background, and all that is prepared is in its colours. -/
def ShowsIn (screen : Screen) (palette : Palette) : Prop :=
  screen.background = some palette ∧ ∀ x ∈ screen.prepared, x.palette = palette

/-- A tile may be drawn if its sprite is prepared, and the avatar if its sprite is prepared in
both orientations. -/
def Allows (screen : Screen) : Notice → Prop
  | .drawTile sprite .. =>
    ∃ palette, screen.ShowsIn palette ∧ ⟨sprite, palette, false⟩ ∈ screen.prepared
  | .drawAvatar sprite .. =>
    ∃ palette, screen.ShowsIn palette ∧
      ⟨sprite, palette, false⟩ ∈ screen.prepared ∧ ⟨sprite, palette, true⟩ ∈ screen.prepared
  | _ => True

/-- Each notice is allowed on the screen that those before it have left. -/
def Faithful : Screen → List Notice → Prop
  | _, [] => True
  | screen, notice :: notices => screen.Allows notice ∧ (screen.next notice).Faithful notices

variable {screen : Screen} {notices more : List Notice} {palette : Palette}

@[simp] theorem after_append (screen : Screen) (notices more : List Notice) :
    screen.after (notices ++ more) = (screen.after notices).after more :=
  List.foldl_append

theorem faithful_append :
    screen.Faithful (notices ++ more) ↔
      screen.Faithful notices ∧ (screen.after notices).Faithful more := by
  induction notices generalizing screen with
  | nil => simp [Faithful, after]
  | cons notice notices ih => simp only [List.cons_append, Faithful, ih, and_assoc]; rfl

theorem faithful_iff :
    screen.Faithful notices ↔
      ∀ before notice later, notices = before ++ notice :: later →
        (screen.after before).Allows notice := by
  constructor
  · rintro h before notice later rfl
    exact (faithful_append.mp h).2.1
  · intro h
    induction notices generalizing screen with
    | nil => exact trivial
    | cons notice notices ih =>
      refine ⟨h [] notice notices rfl, ih fun before notice' later heq => ?_⟩
      exact h (notice :: before) notice' later (by rw [heq, List.cons_append])

/-! ## Notices that are calm -/

theorem allows_of_calm {notice : Notice} (h : notice.Calm palette) : screen.Allows notice := by
  cases notice with
  | drawTile | drawAvatar => exact h.elim
  | _ => exact trivial

theorem prepared_next {notice : Notice} (h : notice.Calm palette) :
    (screen.next notice).prepared = screen.prepared ++ preparations [notice] := by
  cases notice with
  | dropSprites | drawBackground | drawTile | drawAvatar => exact h.elim
  | prepare => rfl
  | dialogBegan | dialogEnded | pageFinished | line => exact (List.append_nil _).symm

theorem faithful_of_calm (h : ∀ notice ∈ notices, notice.Calm palette) :
    screen.Faithful notices := by
  induction notices generalizing screen with
  | nil => exact trivial
  | cons notice notices ih =>
    exact ⟨allows_of_calm (h notice (by simp)), ih fun n hn => h n (by simp [hn])⟩

/-- Calm notices only add to what is prepared. -/
theorem prepared_after (h : ∀ notice ∈ notices, notice.Calm palette) :
    (screen.after notices).prepared = screen.prepared ++ preparations notices := by
  induction notices generalizing screen with
  | nil => simp [after, preparations]
  | cons notice notices ih =>
    have hrest : ((screen.next notice).after notices).prepared = _ :=
      ih fun n hn => h n (by simp [hn])
    rw [prepared_next (h notice (by simp)), List.append_assoc, ← preparations_append] at hrest
    exact hrest

/-! ## Notices that draw -/

theorem next_of_draws {notice : Notice} (h : notice.Draws) : screen.next notice = screen := by
  cases notice with
  | drawTile | drawAvatar => rfl
  | _ => exact h.elim

/-- A picture is faithful if the screen at its start allows all its parts. -/
theorem faithful_of_draws (h : ∀ notice ∈ notices, notice.Draws ∧ screen.Allows notice) :
    screen.Faithful notices ∧ screen.after notices = screen := by
  induction notices with
  | nil => exact ⟨trivial, rfl⟩
  | cons notice notices ih =>
    obtain ⟨hdraws, hallows⟩ := h notice (by simp)
    obtain ⟨hfaithful, hafter⟩ := ih fun n hn => h n (by simp [hn])
    have hnext : screen.next notice = screen := next_of_draws hdraws
    refine ⟨⟨hallows, ?_⟩, ?_⟩
    · rw [hnext]
      exact hfaithful
    · rw [after, List.foldl_cons, hnext]
      exact hafter

end Screen

end TileAdventure
