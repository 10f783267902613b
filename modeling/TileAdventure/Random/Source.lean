import TileAdventure.Power

/-!
# Sources of random words

A source yields one 64-bit word after another. `drawBelow?` turns a word into a number below
a bound or rejects it, and `visitOrder` uses it to shuffle: it draws indexes until each one
has come up, and keeps them in the order of their first appearance.
-/

namespace TileAdventure.Random

/-- A source of 64-bit words. -/
class Source (γ : Type) where
  /-- The next word, and the source after it. -/
  next : γ → UInt64 × γ

/-- The largest multiple of `n` by a power of two that fits 64 bits, less one. -/
def acceptZone (n : Nat) : Nat :=
  n <<< (63 - n.log2) - 1

/-- The number below `n` that the word `v` stands for. The product `v * n` has the number as
its high word, and words whose low word is beyond the zone are rejected to keep the draw
uniform. -/
def drawBelow? (n : Nat) (v : UInt64) : Option Nat :=
  let product := v.toNat * n
  if product % 2 ^ 64 ≤ acceptZone n then some (product / 2 ^ 64) else none

theorem drawBelow?_lt {n : Nat} {v : UInt64} {i : Nat} (hn : 0 < n) (h : drawBelow? n v = some i) :
    i < n := by
  have hv := v.toNat_lt
  simp only [drawBelow?] at h
  split at h
  · cases h
    rw [Nat.div_lt_iff_lt_mul (by decide), Nat.mul_comm]
    exact Nat.mul_lt_mul_of_pos_left hv hn
  · cases h

variable {γ : Type} [Source γ]

/-- Draw indexes below `n` with at most `fuel` words until `order` holds `n` of them. -/
def collect (n : Nat) : Nat → List Nat → γ → List Nat × γ
  | 0, order, source => (order, source)
  | fuel + 1, order, source =>
    if n ≤ order.length then (order, source)
    else
      let (word, source) := Source.next source
      match drawBelow? n word with
      | some i => collect n fuel (if i ∈ order then order else order ++ [i]) source
      | none => collect n fuel order source

/-- Indexes that are drawn stay below `n`, and none comes twice. -/
theorem collect_order (n fuel : Nat) (order : List Nat) (source : γ)
    (hlt : ∀ i ∈ order, i < n) (hnd : order.Nodup) :
    (∀ i ∈ (collect n fuel order source).1, i < n) ∧ (collect n fuel order source).1.Nodup := by
  fun_induction collect n fuel order source with
  | case1 => exact ⟨hlt, hnd⟩
  | case2 => exact ⟨hlt, hnd⟩
  | case3 => grind [drawBelow?_lt]
  | case4 => grind

/-- The words one shuffle of `n` indexes may take, so that it ends whatever the source. At least
half of all words stand for a number, which is why shuffles end long before. -/
def wordLimit (n : Nat) : Nat :=
  65536 * (n + 1)

/-- The indexes below `n` in a random order, which is the order of the draws unless the word
limit is met. Only then are there missing indexes, and they follow in ascending order. -/
def shuffled (n : Nat) (source : γ) : List Nat × γ :=
  let (order, source) := collect n (wordLimit n) [] source
  (order ++ (List.range n).filter (· ∉ order), source)

-- Stated about a name for the drawn indexes, so that checking a use never runs `collect`.
theorem shuffled_fst {n : Nat} {source : γ} {drawn : List Nat × γ}
    (h : collect n (wordLimit n) [] source = drawn) :
    (shuffled n source).1 = drawn.1 ++ (List.range n).filter (· ∉ drawn.1) := by
  rw [shuffled, h]

theorem mem_shuffled {n i : Nat} {source : γ} : i ∈ (shuffled n source).1 ↔ i < n := by
  obtain ⟨drawn, hdrawn⟩ : ∃ drawn, collect n (wordLimit n) [] source = drawn := ⟨_, rfl⟩
  have h := (collect_order n (wordLimit n) [] source (by simp) (by simp)).1 i
  rw [hdrawn] at h
  simp only [shuffled_fst hdrawn, List.mem_append, List.mem_filter, List.mem_range,
    decide_eq_true_eq]
  grind

theorem nodup_shuffled (n : Nat) (source : γ) : (shuffled n source).1.Nodup := by
  obtain ⟨drawn, hdrawn⟩ : ∃ drawn, collect n (wordLimit n) [] source = drawn := ⟨_, rfl⟩
  have h := (collect_order n (wordLimit n) [] source (by simp) (by simp)).2
  rw [hdrawn] at h
  rw [shuffled_fst hdrawn, List.nodup_append]
  exact ⟨h, List.nodup_range.filter _, by grind⟩

/-- The order in which a sequence visits its `n` actions. -/
def visitOrder (n : Nat) (shuffle : Bool) (source : γ) : List Nat × γ :=
  if shuffle then shuffled n source else (List.range n, source)

/-- A visiting order has every index below `n`. -/
@[simp] theorem mem_visitOrder {n i : Nat} {shuffle : Bool} {source : γ} :
    i ∈ (visitOrder n shuffle source).1 ↔ i < n := by
  cases shuffle <;> simp [visitOrder, mem_shuffled]

/-- A visiting order has no index twice. -/
theorem nodup_visitOrder (n : Nat) (shuffle : Bool) (source : γ) :
    (visitOrder n shuffle source).1.Nodup := by
  cases shuffle
  · exact List.nodup_range
  · rw [visitOrder, if_pos rfl]
    exact nodup_shuffled n source

end TileAdventure.Random
