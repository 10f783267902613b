import TileAdventure.World.Palette

/-!
# The fallback of colours

A lookup in a palette gives the defined colour at the greatest index up to the one asked for
(`resolve?_eq_some_iff`). It gives none just if none of these colours is defined, the one at
index zero included (`resolve?_eq_none_iff`). So it depends on the colours up to the index alone
(`resolve?_congr`), and where only the background is defined among them, it gives the background
(`resolve_of_colors`).
-/

namespace TileAdventure

namespace Palette

variable {p q : Palette} {i index : Nat} {color : String}

/-- The palette has no colour at index `i`, or an empty one. -/
def Undefined (p : Palette) (i : Nat) : Prop :=
  ∀ color, p.colors[i]? = some color → color = ""

/-- The palette with more colours at the end. -/
def append (p : Palette) (more : List String) : Palette :=
  { p with colors := p.colors ++ more }

theorem color?_eq_some_iff :
    p.color? i = some color ↔ p.colors[i]? = some color ∧ color ≠ "" := by
  simp [color?, Option.filter_eq_some_iff]

theorem color?_eq_none_iff : p.color? i = none ↔ p.Undefined i := by
  simp [color?, Undefined, Option.filter_eq_none_iff]

/-- A lookup takes the colour at the index, or else falls back to the index before. -/
theorem resolve?_succ (p : Palette) (index : Nat) :
    p.resolve? (index + 1) = (p.color? (index + 1)).or (p.resolve? index) := by
  rw [resolve?]
  cases p.color? (index + 1) <;> rfl

/-- The lookup gives none just if no colour up to the index is defined. -/
theorem resolve?_eq_none_iff : p.resolve? index = none ↔ ∀ i ≤ index, p.Undefined i := by
  induction index with
  | zero => simp [resolve?, color?_eq_none_iff]
  | succ index ih =>
    rw [resolve?_succ, Option.or_eq_none_iff, color?_eq_none_iff, ih]
    simp only [Nat.le_succ_iff, or_imp, forall_and, forall_eq, and_comm]

/-- The lookup gives the defined colour at the greatest index up to the one asked for. -/
theorem resolve?_eq_some_iff : p.resolve? index = some color ↔
    ∃ i ≤ index, p.color? i = some color ∧ ∀ j, i < j → j ≤ index → p.Undefined j := by
  induction index with
  | zero =>
    constructor
    · intro h
      exact ⟨0, Nat.le_refl 0, h, fun j hj hle => by omega⟩
    · rintro ⟨i, hi, hcolor, -⟩
      rwa [Nat.le_zero.mp hi] at hcolor
  | succ index ih =>
    rw [resolve?_succ, Option.or_eq_some_iff, ih]
    constructor
    · rintro (h | ⟨hnone, i, hi, hcolor, habove⟩)
      · exact ⟨index + 1, Nat.le_refl _, h, fun j hj hle => by omega⟩
      · refine ⟨i, by omega, hcolor, fun j hj hle => ?_⟩
        rcases Nat.le_succ_iff.mp hle with hle | rfl
        · exact habove j hj hle
        · exact color?_eq_none_iff.mp hnone
    · rintro ⟨i, hi, hcolor, habove⟩
      rcases Nat.lt_or_eq_of_le hi with hlt | rfl
      · have hnone := color?_eq_none_iff.mpr (habove _ hlt (Nat.le_refl _))
        exact Or.inr ⟨hnone, i, by omega, hcolor, fun j hj hle => habove j hj (by omega)⟩
      · exact Or.inl hcolor

/-- The lookup depends on the colours up to the index. -/
theorem resolve?_congr (h : ∀ i ≤ index, q.color? i = p.color? i) :
    q.resolve? index = p.resolve? index := by
  induction index with
  | zero => exact h 0 (Nat.le_refl _)
  | succ index ih =>
    rw [resolve?_succ, resolve?_succ, h (index + 1) (Nat.le_refl _),
      ih fun i hi => h i (by omega)]

/-- Colours appended beyond the index, or empty ones, change no colour up to it. -/
theorem color?_append {more : List String}
    (hmore : ∀ i color, more[i]? = some color → color ≠ "" → index < p.colors.length + i)
    (hi : i ≤ index) : (p.append more).color? i = p.color? i := by
  rcases Nat.lt_or_ge i p.colors.length with hlt | hge
  · simp only [color?, append, List.getElem?_append_left hlt]
  · have hold : p.Undefined i := by simp [Undefined, List.getElem?_eq_none hge]
    have hnew : (p.append more).Undefined i := by
      intro color hcolor
      rw [append, List.getElem?_append_right hge] at hcolor
      refine Decidable.byContradiction fun hne => ?_
      have hbeyond := hmore _ color hcolor hne
      omega
    rw [color?_eq_none_iff.mpr hold, color?_eq_none_iff.mpr hnew]

/-- What a lookup gives, for every palette and index. It is the colour at the greatest index up
to the given one where there is a colour that is not empty, and none just if there is no such
index. So it stays the same when colours are appended beyond the index, with empty ones before
them if the list ends earlier. And it is the background if at no index from 1 up to the given one
there is a colour other than the empty one. -/
theorem resolve_of_colors (p : Palette) (index : Nat) :
    (∀ color, p.resolve? index = some color ↔
      ∃ i ≤ index, p.colors[i]? = some color ∧ color ≠ "" ∧
        ∀ j, i < j → j ≤ index → p.Undefined j) ∧
    (p.resolve? index = none ↔ ∀ i ≤ index, p.Undefined i) ∧
    (∀ more : List String,
      (∀ i color, more[i]? = some color → color ≠ "" → index < p.colors.length + i) →
      (p.append more).resolve? index = p.resolve? index) ∧
    ((∀ i, 1 ≤ i → i ≤ index → p.Undefined i) → p.resolve? index = p.background?) := by
  refine ⟨fun color => ?_, resolve?_eq_none_iff, fun more hmore => ?_, fun hundefined => ?_⟩
  · simp only [resolve?_eq_some_iff, color?_eq_some_iff, and_assoc]
  · exact resolve?_congr fun i hi => color?_append hmore hi
  · induction index with
    | zero => rfl
    | succ index ih =>
      have hlast := hundefined (index + 1) (by omega) (Nat.le_refl _)
      rw [resolve?_succ, color?_eq_none_iff.mpr hlast, Option.none_or]
      exact ih fun i hi hle => hundefined i hi (by omega)

/-- A palette with one colour and an empty one keeps it at every index before the colour that is
appended, after an empty one, at index 3. -/
theorem resolve_of_colors_night :
    let night : Palette := ⟨"night", ["#113", ""]⟩
    (∀ i color, ["", "#fff"][i]? = some color → color ≠ "" → 2 < night.colors.length + i) ∧
      (night.append ["", "#fff"]).resolve? 2 = night.resolve? 2 ∧
      (∀ i, 1 ≤ i → i ≤ 2 → night.Undefined i) ∧ night.resolve? 2 = night.background? := by
  intro night
  obtain ⟨-, -, happend, hbackground⟩ := resolve_of_colors night 2
  have hmore : ∀ i color, ["", "#fff"][i]? = some color → color ≠ "" →
      2 < night.colors.length + i := by
    intro i color hcolor hne
    match i with
    | 0 => exact (hne (by simpa using hcolor.symm)).elim
    | i + 1 => simp [night]
  have hundefined : ∀ i, 1 ≤ i → i ≤ 2 → night.Undefined i := by
    intro i hi hle color hcolor
    match i with
    | 1 => simpa [night] using hcolor.symm
    | 2 => simp [night] at hcolor
  exact ⟨hmore, happend _ hmore, hundefined, hbackground hundefined⟩

-- Far beyond the list the lookup finds the last colour that is not empty.
example : (⟨"day", ["#000", "", "#fff", ""]⟩ : Palette).resolve? 100 = some "#fff" := by decide

end Palette

end TileAdventure
