import Mathlib.Data.Int.Order.Basic
import TileAdventure.Proofs.Outcome
import TileAdventure.World.Decode.Parts

/-!
# What readers accept

A reader either gives what a value stands for or tells its fault. The lemmas here say when it
gives something, reader by reader: for single values (`integer_eq_ok`), for lists
(`forall_of_list`) and for records. A property of drafts that no field can break holds of the
draft of every record that is read, however the record is written (`Shape.of_read`).
-/

namespace TileAdventure.Decode

/-! ## Single values -/

/-- The range contains `n`. -/
def IntegerRange.Has (range : IntegerRange) (n : Int) : Prop :=
  range.least ≤ n ∧ n ≤ range.greatest

instance (range : IntegerRange) (n : Int) : Decidable (range.Has n) :=
  inferInstanceAs (Decidable (_ ∧ _))

theorem integer_eq_ok {range : IntegerRange} {j : Json} {n : Int} :
    integer range j = .ok n ↔ j = .integer n ∧ range.Has n := by
  cases j with
  | integer m =>
    simp only [integer]
    split
    · rename_i hm
      simp only [Except.ok.injEq, Json.integer.injEq]
      exact ⟨fun h => ⟨h, h ▸ hm⟩, And.left⟩
    · rename_i hm
      simp only [reduceCtorEq, Json.integer.injEq, false_iff, not_and]
      rintro rfl
      exact hm
  | _ => simp [integer]

theorem integer_of_has {range : IntegerRange} {n : Int} (h : range.Has n) :
    integer range (.integer n) = .ok n :=
  integer_eq_ok.mpr ⟨rfl, h⟩

theorem natural_of_has {range : IntegerRange} {n : Nat} (h : range.Has n) :
    natural range (.natural n) = .ok n := by
  rw [natural, Json.natural, integer_of_has h]
  rfl

theorem has_of_natural {range : IntegerRange} (hleast : 0 ≤ range.least) {j : Json} {n : Nat}
    (h : natural range j = .ok n) : range.Has n := by
  obtain ⟨m, hm, rfl⟩ := map_eq_ok.mp h
  have hhas := (integer_eq_ok.mp hm).2
  rwa [Int.toNat_of_nonneg (le_trans hleast hhas.1)]

@[simp] theorem text_string (s : String) : text (.string s) = .ok s := rfl

@[simp] theorem flag_bool (b : Bool) : flag (.bool b) = .ok b := rfl

/-! ## Lists -/

section

variable {α : Type} {item : Json → Except Fault α}

theorem itemsFrom_map {encode : α → Json} {as : List α}
    (h : ∀ a ∈ as, item (encode a) = .ok a) (index : Nat) :
    itemsFrom item index (as.map encode) = .ok as := by
  induction as generalizing index with
  | nil => rfl
  | cons a as ih =>
    have ha := h a List.mem_cons_self
    have has := ih (fun b hb => h b (List.mem_cons_of_mem a hb)) (index + 1)
    simp [itemsFrom, ha, has]

/-- A list is read back if every item is. -/
theorem list_map (encode : α → Json) {as : List α} (h : ∀ a ∈ as, item (encode a) = .ok a) :
    list item (.array (as.map encode)) = .ok as :=
  itemsFrom_map h 0

theorem forall_of_itemsFrom {P : α → Prop} (hitem : ∀ {j a}, item j = .ok a → P a)
    {js : List Json} {index : Nat} {as : List α} (h : itemsFrom item index js = .ok as) :
    ∀ a ∈ as, P a := by
  induction js generalizing index as with
  | nil =>
    obtain rfl := Except.ok.inj h
    simp
  | cons j js ih =>
    simp only [itemsFrom, bind_eq_ok, mapError_eq_ok, pure_eq_ok, Except.ok.injEq] at h
    obtain ⟨a, ha, bs, hbs, rfl⟩ := h
    exact List.forall_mem_cons.mpr ⟨hitem ha, ih hbs⟩

/-- What holds of every item that can be read holds of the items of a list. -/
theorem forall_of_list {P : α → Prop} (hitem : ∀ {j a}, item j = .ok a → P a) {j : Json}
    {as : List α} (h : list item j = .ok as) : ∀ a ∈ as, P a := by
  cases j with
  | array js => exact forall_of_itemsFrom hitem h
  | _ => cases h

end

/-! ## Records -/

@[simp] theorem required_some {α : Type} (absent : Absence) (place : Nat) (name : String)
    (a : α) : required absent place name (some a) = .ok a := rfl

theorem required_eq_ok {α : Type} {absent : Absence} {place : Nat} {name : String}
    {field : Option α} {a : α} : required absent place name field = .ok a ↔ field = some a := by
  cases field <;> simp [required]

/-- A field with a default has a property if the default has it. -/
theorem of_getD {α : Type} {P : α → Prop} {field : Option α} {default : α}
    (hdefault : P default) (h : ∀ a ∈ field, P a) : P (field.getD default) := by
  cases field with
  | none => exact hdefault
  | some a => exact h a rfl

theorem slot_fill_eq_ok {δ β : Type} {name : String} {get : δ → Option β} {put : δ → β → δ}
    {decode : Json → Except Fault β} {j : Json} {d d' : δ} :
    (slot name get put decode).fill j d = .ok d' ↔ ∃ b, decode j = .ok b ∧ put d b = d' :=
  map_eq_ok

section

variable {δ α : Type} {P : δ → Prop}

theorem of_fillMembers {slots : List (Slot δ)}
    (hfill : ∀ s ∈ slots, ∀ {j d d'}, P d → s.fill j d = .ok d' → P d')
    {members : List (String × Json)} {d d' : δ} (hd : P d)
    (h : fillMembers slots members d = .ok d') : P d' := by
  induction members generalizing d with
  | nil => exact Except.ok.inj h ▸ hd
  | cons m members ih =>
    obtain ⟨name, j⟩ := m
    rw [fillMembers] at h
    split at h
    · exact ih hd h
    · rename_i s hs
      split at h
      · cases h
      · obtain ⟨e, he, h⟩ := bind_eq_ok.mp h
        exact ih (hfill s (List.mem_of_find?_eq_some hs) hd (mapError_eq_ok.mp he)) h

theorem of_fillItems {slots : List (Slot δ)}
    (hfill : ∀ s ∈ slots, ∀ {j d d'}, P d → s.fill j d = .ok d' → P d')
    {js : List Json} {index : Nat} {d d' : δ} (hd : P d)
    (h : fillItems slots index js d = .ok d') : P d' := by
  induction slots generalizing js index d with
  | nil => exact Except.ok.inj h ▸ hd
  | cons s slots ih =>
    cases js with
    | nil => exact Except.ok.inj h ▸ hd
    | cons j js =>
      obtain ⟨e, he, h⟩ := bind_eq_ok.mp h
      refine ih (fun s hs => hfill s (List.mem_cons_of_mem _ hs)) ?_ h
      exact hfill s List.mem_cons_self hd (mapError_eq_ok.mp he)

/-- A property of drafts that no field can break holds of the draft of every record. -/
theorem Shape.of_read {shape : Shape δ α} {Q : α → Prop} (hempty : P shape.empty)
    (hfill : ∀ s ∈ shape.slots, ∀ {j d d'}, P d → s.fill j d = .ok d' → P d')
    (hfinish : ∀ {absent d a}, P d → shape.finish absent d = .ok a → Q a) {mode : Mode}
    {j : Json} {a : α} (h : shape.read mode j = .ok a) : Q a := by
  cases j with
  | object members =>
    simp only [Shape.read, bind_eq_ok, mapError_eq_ok] at h
    obtain ⟨d, hd, h⟩ := h
    exact hfinish (of_fillMembers hfill hempty hd) h
  | array js =>
    simp only [Shape.read, bind_eq_ok, mapError_eq_ok] at h
    obtain ⟨d, hd, b, hb, h⟩ := h
    split at h
    · cases h
    · cases h
      exact hfinish (of_fillItems hfill hempty hd) hb
  | _ => cases h

end

end TileAdventure.Decode
