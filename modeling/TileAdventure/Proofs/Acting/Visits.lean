import Mathlib.Data.List.Induction
import Mathlib.Logic.Function.Basic
import TileAdventure.Proofs.Acting.Bookmarks

/-!
# The order of visits

Bookmarks are looked up, moved on and forgotten in any order, for any keys, with orders drawn
from any source (`BookmarkUse`). A key is used in runs if each lookup under it is followed by
a move before the next one, for a sequence of one form; whatever concerns other keys may come
in between (`BookmarkUse.InRuns`). Such runs go through the sequence as its form demands
(`SequenceForm.Visits`), from the beginning if the key is new or its tile has been forgotten
(`visits_of_inRuns`).
-/

namespace TileAdventure

/-! ## Uses of bookmarks -/

/-- A use of the bookmarks. -/
inductive BookmarkUse where
  | current (key : SequenceKey) (form : SequenceForm)
  | advance (key : SequenceKey) (form : SequenceForm)
  | forget (tiles : List TileId)
  deriving DecidableEq, Repr

namespace BookmarkUse

/-- Whether a use looks up the bookmark of a key, moves it on, or drops it. -/
def concerns (key : SequenceKey) : BookmarkUse → Bool
  | current other _ | advance other _ => other = key
  | forget tiles => key.tile ∈ tiles

/-- Whether a use looks up the bookmark of a key. -/
def looksUp (key : SequenceKey) : BookmarkUse → Bool
  | current other _ => other = key
  | advance .. | forget _ => false

/-- The uses under a key are runs of a sequence of one form, each a lookup and then a move,
and its tile is not forgotten. The last run may be under way. -/
inductive InRuns (key : SequenceKey) (form : SequenceForm) : List BookmarkUse → Bool → Prop
  | nil : InRuns key form [] false
  | other {uses : List BookmarkUse} {use : BookmarkUse} {underWay : Bool} :
      InRuns key form uses underWay → use.concerns key = false →
      InRuns key form (uses ++ [use]) underWay
  | current {uses : List BookmarkUse} : InRuns key form uses false →
      InRuns key form (uses ++ [.current key form]) true
  | advance {uses : List BookmarkUse} : InRuns key form uses true →
      InRuns key form (uses ++ [.advance key form]) false

variable {γ : Type} [Random.Source γ]

/-- Make a use of bookmarks, with orders drawn from a source. -/
def apply (marks : Bookmarks × γ) : BookmarkUse → Bookmarks × γ
  | current key form => (marks.1.current key form marks.2).2
  | advance key form => marks.1.advance key form marks.2
  | forget tiles => (marks.1.forget tiles, marks.2)

/-- The index that a use finds under a key, if it looks it up. -/
def found? (key : SequenceKey) (marks : Bookmarks × γ) : BookmarkUse → Option (Except Halt Nat)
  | current other form =>
    if other = key then some (marks.1.current other form marks.2).1 else none
  | advance .. | forget _ => none

/-- What is left by uses in order. -/
def applyAll (uses : List BookmarkUse) (marks : Bookmarks × γ) : Bookmarks × γ :=
  uses.foldl apply marks

/-- What uses in order find under a key. -/
def found (key : SequenceKey) : List BookmarkUse → Bookmarks × γ → List (Except Halt Nat)
  | [], _ => []
  | use :: uses, marks => (use.found? key marks).toList ++ found key uses (use.apply marks)

@[simp] theorem applyAll_concat (uses : List BookmarkUse) (use : BookmarkUse)
    (marks : Bookmarks × γ) :
    applyAll (uses ++ [use]) marks = use.apply (applyAll uses marks) := by
  simp [applyAll]

@[simp] theorem found_concat (key : SequenceKey) (uses : List BookmarkUse) (use : BookmarkUse)
    (marks : Bookmarks × γ) :
    found key (uses ++ [use]) marks =
      found key uses marks ++ (use.found? key (applyAll uses marks)).toList := by
  induction uses generalizing marks with
  | nil => simp [found, applyAll]
  | cons first uses ih =>
    rw [List.cons_append, found, ih, found, List.append_assoc]
    rfl

/-- A use that does not concern a key leaves its bookmark alone, and finds nothing under it. -/
theorem get?_apply {key : SequenceKey} {use : BookmarkUse} (h : use.concerns key = false)
    (marks : Bookmarks × γ) :
    (use.apply marks).1.get? key = marks.1.get? key ∧ use.found? key marks = none := by
  cases use with
  | current other form =>
    have hne : key ≠ other := by simpa [concerns, eq_comm] using h
    refine ⟨Bookmarks.get?_current rfl hne, if_neg hne.symm⟩
  | advance other form =>
    have hne : key ≠ other := by simpa [concerns, eq_comm] using h
    exact ⟨Bookmarks.get?_advance hne, rfl⟩
  | forget tiles =>
    have hnotMem : key.tile ∉ tiles := by simpa [concerns] using h
    exact ⟨by simp [apply, hnotMem], rfl⟩

end BookmarkUse

/-! ## Places in rounds -/

namespace SequenceForm

/-- The round that the `k`-th run of a sequence is in, and its position there. Without loops
there is one round, at whose last position the sequence stays. -/
def place (form : SequenceForm) (k : Nat) : Nat × Nat :=
  if form.looping then (k / form.length, k % form.length) else (0, min k (form.length - 1))

/-- Each round goes through all indexes, and in ascending order unless they are shuffled. -/
def Orders (form : SequenceForm) (orders : Nat → List Nat) : Prop :=
  ∀ round, (orders round).Perm (List.range form.length) ∧
    (form.shuffled = false → orders round = List.range form.length)

/-- The index that the `k`-th run of a sequence finds when its rounds have these orders. -/
def indexAt (form : SequenceForm) (orders : Nat → List Nat) (k : Nat) : Nat :=
  (orders (form.place k).1).getD (form.place k).2 0

/-- The bookmark after `k` runs when rounds have these orders. -/
def markAt (form : SequenceForm) (orders : Nat → List Nat) (k : Nat) : Bookmark :=
  ⟨(form.place k).2, orders (form.place k).1⟩

/-- The indexes are those that a sequence of a form runs, time after time. In ascending order
a sequence loops or stays at the last index. When it is shuffled, every block of as many runs
as it has indexes is a permutation of these, or, without loops, the first block is, and the
last index of it comes again and again. -/
def Visits (form : SequenceForm) (indexes : List Nat) : Prop :=
  match form.looping, form.shuffled with
  | false, false => ∀ k < indexes.length, indexes[k]? = some (min k (form.length - 1))
  | true, false => ∀ k < indexes.length, indexes[k]? = some (k % form.length)
  | false, true =>
    (form.length ≤ indexes.length →
      (indexes.take form.length).Perm (List.range form.length)) ∧
      ∀ k < indexes.length, form.length ≤ k → indexes[k]? = indexes[form.length - 1]?
  | true, true => ∀ block, (block + 1) * form.length ≤ indexes.length →
    ((indexes.drop (block * form.length)).take form.length).Perm (List.range form.length)

variable {form : SequenceForm} {orders : Nat → List Nat}

theorem place_zero (form : SequenceForm) : form.place 0 = (0, 0) := by
  unfold place
  split <;> simp

theorem place_snd_lt (hlength : form.length ≠ 0) (k : Nat) : (form.place k).2 < form.length := by
  have hpos := Nat.pos_of_ne_zero hlength
  unfold place
  split
  · exact Nat.mod_lt k hpos
  · dsimp only
    omega

theorem place_fst_le {i k : Nat} (h : i ≤ k) : (form.place i).1 ≤ (form.place k).1 := by
  unfold place
  split
  · exact Nat.div_le_div_right h
  · exact Nat.le_refl 0

/-- Before the last position the next run is one position further. -/
theorem place_succ_of_lt {k : Nat} (h : (form.place k).2 + 1 < form.length) :
    form.place (k + 1) = ((form.place k).1, (form.place k).2 + 1) := by
  unfold place at h ⊢
  cases hlooping : form.looping with
  | true =>
    simp only [hlooping, if_true] at h ⊢
    have hparts := Nat.div_add_mod k form.length
    obtain ⟨hdiv, hmod⟩ :=
      (Nat.div_mod_unique (Nat.zero_lt_of_lt h)).mpr ⟨(by omega : k % form.length + 1 +
        form.length * (k / form.length) = k + 1), h⟩
    rw [hdiv, hmod]
  | false =>
    simp only [hlooping, Bool.false_eq_true, if_false] at h ⊢
    rw [Prod.mk.injEq]
    omega

/-- After the last position a loop goes on with the next round. -/
theorem place_succ_of_looping (hlength : form.length ≠ 0) (hlooping : form.looping = true)
    {k : Nat} (h : form.length ≤ (form.place k).2 + 1) :
    form.place (k + 1) = ((form.place k).1 + 1, 0) := by
  have hpos := Nat.pos_of_ne_zero hlength
  unfold place at h ⊢
  simp only [hlooping, if_true] at h ⊢
  have hlt := Nat.mod_lt k hpos
  have hparts := Nat.div_add_mod k form.length
  obtain ⟨hdiv, hmod⟩ := (Nat.div_mod_unique hpos).mpr ⟨(by rw [Nat.mul_succ]; omega : 0 +
    form.length * (k / form.length + 1) = k + 1), hpos⟩
  rw [hdiv, hmod]

/-- Without loops the last position is the place to stay. -/
theorem place_succ_of_not_looping (hlooping : form.looping = false) {k : Nat}
    (h : form.length ≤ (form.place k).2 + 1) :
    form.place (k + 1) = ((form.place k).1, form.length - 1) := by
  unfold place at h ⊢
  simp only [hlooping, Bool.false_eq_true, if_false] at h ⊢
  rw [Prod.mk.injEq]
  omega

theorem Orders.length (h : form.Orders orders) (round : Nat) :
    (orders round).length = form.length := by
  simpa using (h round).1.length_eq

/-- A run finds what stands at its place. -/
theorem Orders.getElem? (h : form.Orders orders) (hlength : form.length ≠ 0) (k : Nat) :
    (orders (form.place k).1)[(form.place k).2]? = some (form.indexAt orders k) := by
  have hlt : (form.place k).2 < (orders (form.place k).1).length :=
    h.length _ ▸ place_snd_lt hlength k
  simp [indexAt, hlt]

theorem Orders.update (h : form.Orders orders) {order : List Nat}
    (hperm : order.Perm (List.range form.length))
    (hrange : form.shuffled = false → order = List.range form.length) (round : Nat) :
    form.Orders (Function.update orders round order) := by
  intro other
  by_cases hother : other = round
  · rw [hother, Function.update_self]
    exact ⟨hperm, hrange⟩
  · rw [Function.update_of_ne hother]
    exact h other

theorem indexAt_update {k round : Nat} (h : (form.place k).1 ≠ round) (order : List Nat) :
    form.indexAt (Function.update orders round order) k = form.indexAt orders k := by
  rw [indexAt, indexAt, Function.update_of_ne h]

/-- In ascending order the index is the position. -/
theorem Orders.indexAt_of_not_shuffled (h : form.Orders orders) (hlength : form.length ≠ 0)
    (hshuffled : form.shuffled = false) (k : Nat) : form.indexAt orders k = (form.place k).2 := by
  have hlt := form.place_snd_lt hlength k
  simp [indexAt, (h _).2 hshuffled, hlt]

/-- Runs that go through one round from its start find the indexes of its order. -/
theorem Orders.take_drop_map_indexAt (h : form.Orders orders) {start round n : Nat}
    (hplace : ∀ i < form.length, form.place (start + i) = (round, i))
    (hn : start + form.length ≤ n) :
    (((List.range n).map (form.indexAt orders)).drop start).take form.length = orders round := by
  have hlength := h.length round
  apply List.ext_getElem
  · simp
    omega
  · intro i hi hi'
    rw [hlength] at hi'
    have hlt : i < (orders round).length := hlength ▸ hi'
    simp [indexAt, hplace i hi', hlt]

/-- The indexes found in rounds of some orders are those that a sequence runs. -/
theorem Orders.visits (h : form.Orders orders) (hlength : form.length ≠ 0) (n : Nat) :
    form.Visits ((List.range n).map (form.indexAt orders)) := by
  have hget : ∀ k < n, ((List.range n).map (form.indexAt orders))[k]? =
      some (form.indexAt orders k) := by
    intro k hk
    simp [hk]
  unfold Visits
  cases hlooping : form.looping <;> cases hshuffled : form.shuffled <;> dsimp only
  · intro k hk
    rw [List.length_map, List.length_range] at hk
    rw [hget k hk, h.indexAt_of_not_shuffled hlength hshuffled, place]
    simp [hlooping]
  · have hstay : ∀ k, form.length - 1 ≤ k → form.place k = (0, form.length - 1) := by
      intro k hk
      simp [place, hlooping, hk]
    constructor
    · intro hle
      rw [List.length_map, List.length_range] at hle
      have hplace : ∀ i < form.length, form.place (0 + i) = (0, i) := by
        intro i hi
        simp [place, hlooping]
        omega
      have hround := h.take_drop_map_indexAt hplace (by omega : 0 + form.length ≤ n)
      rw [List.drop_zero] at hround
      exact hround ▸ (h 0).1
    · intro k hk hle
      rw [List.length_map, List.length_range] at hk
      rw [hget k hk, hget _ (by omega), indexAt, indexAt, hstay k (by omega),
        hstay _ (Nat.le_refl _)]
  · intro k hk
    rw [List.length_map, List.length_range] at hk
    rw [hget k hk, h.indexAt_of_not_shuffled hlength hshuffled, place]
    simp [hlooping]
  · intro block hle
    rw [List.length_map, List.length_range, Nat.succ_mul] at hle
    have hplace : ∀ i < form.length, form.place (block * form.length + i) = (block, i) := by
      intro i hi
      obtain ⟨hdiv, hmod⟩ := (Nat.div_mod_unique (Nat.zero_lt_of_lt hi)).mpr
        ⟨(by rw [Nat.mul_comm, Nat.add_comm] : i + form.length * block =
          block * form.length + i), hi⟩
      rw [place, if_pos hlooping, hdiv, hmod]
    rw [h.take_drop_map_indexAt hplace hle]
    exact (h block).1

theorem map_indexAt {orders' : Nat → List Nat} {n : Nat}
    (h : ∀ i < n, form.indexAt orders' i = form.indexAt orders i) :
    (List.range n).map (fun i => (.ok (form.indexAt orders i) : Except Halt Nat)) =
      (List.range n).map fun i => .ok (form.indexAt orders' i) :=
  List.map_congr_left fun i hi => by rw [h i (List.mem_range.mp hi)]

end SequenceForm

/-! ## Runs -/

namespace Bookmarks

variable {γ : Type} [Random.Source γ] {marks : Bookmarks} {key : SequenceKey}
  {form : SequenceForm} {orders : Nat → List Nat} {k : Nat}

/-- The bookmark of a key stands after `k` runs. A key that has not been used has none. -/
def StandsAt (marks : Bookmarks) (key : SequenceKey) (form : SequenceForm)
    (orders : Nat → List Nat) (k : Nat) : Prop :=
  marks.get? key = some (form.markAt orders k) ∨ marks.get? key = none ∧ k = 0

/-- A lookup after `k` runs finds the index of the next one, if need be in an order that it
draws up. -/
theorem StandsAt.current (h : marks.StandsAt key form orders k) (hlength : form.length ≠ 0)
    (horders : form.Orders orders) (source : γ) :
    ∃ orders', form.Orders orders' ∧
      (∀ i < k, form.indexAt orders' i = form.indexAt orders i) ∧
      (marks.current key form source).1 = .ok (form.indexAt orders' k) ∧
      (marks.current key form source).2.1.get? key = some (form.markAt orders' k) := by
  rcases hcurrent : marks.current key form source with ⟨result, marks', source'⟩
  obtain ⟨mark, hmark, hcases, hindex⟩ := current_of_actions hcurrent hlength
  obtain ⟨orders', horders', hsame, rfl⟩ : ∃ orders', form.Orders orders' ∧
      (∀ i < k, form.indexAt orders' i = form.indexAt orders i) ∧
      mark = form.markAt orders' k := by
    rcases hcases with ⟨hsome, -⟩ | ⟨hnone, -, rfl⟩
    · rcases h with h | ⟨h, -⟩
      · exact ⟨orders, horders, fun _ _ => rfl, Option.some.inj (hsome.symm.trans h)⟩
      · cases hsome.symm.trans h
    · rcases h with h | ⟨-, rfl⟩
      · cases hnone.symm.trans h
      · have hdrawn := Random.perm_visitOrder form.length form.shuffled source
        refine ⟨_, horders.update hdrawn (fun hshuffled => ?_) 0, by simp, ?_⟩
        · simp [Random.visitOrder, hshuffled]
        · simp [SequenceForm.markAt, SequenceForm.place_zero]
  refine ⟨orders', horders', hsame, ?_, hmark⟩
  rcases hindex with ⟨index, hat, hok⟩ | ⟨hat, -⟩
  · have heq := hat.symm.trans (horders'.getElem? hlength k)
    rw [← Option.some.inj heq]
    exact hok
  · cases hat.symm.trans (horders'.getElem? hlength k)

/-- To move on after the lookup of a run completes it. -/
theorem get?_advance_markAt (h : marks.get? key = some (form.markAt orders k))
    (hlength : form.length ≠ 0) (horders : form.Orders orders) (source : γ) :
    ∃ orders', form.Orders orders' ∧
      (∀ i < k + 1, form.indexAt orders' i = form.indexAt orders i) ∧
      (marks.advance key form source).1.get? key = some (form.markAt orders' (k + 1)) := by
  -- a next round has a number of its own, so its order leaves what has been found alone
  have hround : ∀ order : List Nat, order.Perm (List.range form.length) →
      (form.shuffled = false → order = List.range form.length) → form.looping = true →
      form.length ≤ (form.place k).2 + 1 → ∃ orders', form.Orders orders' ∧
        (∀ i < k + 1, form.indexAt orders' i = form.indexAt orders i) ∧
        some ⟨0, order⟩ = some (form.markAt orders' (k + 1)) := by
    intro order hperm hrange hlooping hlast
    refine ⟨_, horders.update hperm hrange ((form.place k).1 + 1), fun i hi => ?_, ?_⟩
    · have hle := form.place_fst_le (Nat.le_of_lt_succ hi)
      exact SequenceForm.indexAt_update (by omega) order
    · simp [SequenceForm.markAt, SequenceForm.place_succ_of_looping hlength hlooping hlast]
  have hdrawn := Random.perm_visitOrder form.length true source
  unfold advance
  generalize Random.visitOrder form.length true source = drawn at hdrawn ⊢
  obtain ⟨order, source'⟩ := drawn
  rw [h]
  dsimp only [SequenceForm.markAt]
  split_ifs with hlt hlooping hshuffled
  · refine ⟨orders, horders, fun _ _ => rfl, ?_⟩
    simp [SequenceForm.place_succ_of_lt hlt]
  · refine ⟨orders, horders, fun _ _ => rfl, ?_⟩
    simp [SequenceForm.place_succ_of_not_looping (by simpa using hlooping) (Nat.le_of_not_lt hlt)]
  · rw [get?_put, if_pos rfl]
    exact hround order hdrawn (by simp [hshuffled]) (by simpa using hlooping)
      (Nat.le_of_not_lt hlt)
  · have horder := horders (form.place k).1
    rw [get?_put, if_pos rfl]
    exact hround _ horder.1 horder.2 (by simpa using hlooping) (Nat.le_of_not_lt hlt)

end Bookmarks

namespace BookmarkUse

variable {γ : Type} [Random.Source γ] {key : SequenceKey} {form : SequenceForm}
  {uses : List BookmarkUse} {underWay : Bool}

/-- Lookups under a key find one index each. -/
theorem length_found (key : SequenceKey) (uses : List BookmarkUse) (marks : Bookmarks × γ) :
    (found key uses marks).length = uses.countP (looksUp key) := by
  induction uses generalizing marks with
  | nil => rfl
  | cons use uses ih =>
    have hone : (use.found? key marks).toList.length = if use.looksUp key then 1 else 0 := by
      cases use with
      | current other form =>
        by_cases hother : other = key <;> simp [found?, looksUp, hother]
      | _ => rfl
    rw [found, List.length_append, ih, hone, List.countP_cons, Nat.add_comm]

/-- Runs from a key without a bookmark find the indexes at their places, in rounds of some
orders. -/
theorem InRuns.exists_orders (h : InRuns key form uses underWay) (hlength : form.length ≠ 0)
    {marks : Bookmarks × γ} (hfresh : marks.1.get? key = none) :
    ∃ orders k, form.Orders orders ∧
      found key uses marks =
        (List.range (k + underWay.toNat)).map (fun i => .ok (form.indexAt orders i)) ∧
      (applyAll uses marks).1.StandsAt key form orders k ∧
      (underWay = true → (applyAll uses marks).1.get? key = some (form.markAt orders k)) := by
  induction h with
  | nil =>
    exact ⟨fun _ => List.range form.length, 0, fun _ => ⟨.refl _, fun _ => rfl⟩, rfl,
      Or.inr ⟨hfresh, rfl⟩, by simp⟩
  | @other uses use underWay _ hother ih =>
    obtain ⟨orders, k, horders, hfound, hstands, hmark⟩ := ih
    obtain ⟨hget, hnone⟩ := get?_apply hother (applyAll uses marks)
    refine ⟨orders, k, horders, ?_, ?_, ?_⟩
    · simp [hnone, hfound]
    · rw [applyAll_concat, Bookmarks.StandsAt, hget]
      exact hstands
    · rw [applyAll_concat, hget]
      exact hmark
  | @current uses _ ih =>
    obtain ⟨orders, k, horders, hfound, hstands, -⟩ := ih
    obtain ⟨orders', horders', hsame, hindex, hmark⟩ :=
      hstands.current hlength horders (applyAll uses marks).2
    refine ⟨orders', k, horders', ?_, Or.inl ?_, fun _ => ?_⟩
    · have hfind : (BookmarkUse.current key form).found? key (applyAll uses marks) =
          some (.ok (form.indexAt orders' k)) := by rw [found?, if_pos rfl, hindex]
      simp only [found_concat, hfound, hfind, Bool.toNat_false, Bool.toNat_true, Nat.add_zero,
        Option.toList_some]
      rw [SequenceForm.map_indexAt hsame, List.range_succ, List.map_append]
      rfl
    · rw [applyAll_concat]
      exact hmark
    · rw [applyAll_concat]
      exact hmark
  | @advance uses _ ih =>
    obtain ⟨orders, k, horders, hfound, -, hmark⟩ := ih
    obtain ⟨orders', horders', hsame, hmoved⟩ :=
      Bookmarks.get?_advance_markAt (hmark rfl) hlength horders (applyAll uses marks).2
    refine ⟨orders', k + 1, horders', ?_, Or.inl ?_, by simp⟩
    · rw [found_concat, hfound]
      exact (List.append_nil _).trans (SequenceForm.map_indexAt hsame)
    · rw [applyAll_concat]
      exact hmoved

/-- A key has not been used, or its tile has been forgotten since. -/
def Afresh (key : SequenceKey) (uses : List BookmarkUse) : Prop :=
  ∀ use ∈ (uses.filter (·.concerns key)).getLast?, ∃ tiles, use = .forget tiles

/-- A key that starts afresh has no bookmark. -/
theorem Afresh.get?_applyAll (h : Afresh key uses) (source : γ) :
    (applyAll uses (.empty, source)).1.get? key = none := by
  induction uses using List.reverseRecOn with
  | nil => rfl
  | append_singleton uses use ih =>
    rw [applyAll_concat]
    cases hconcerns : use.concerns key with
    | false =>
      rw [(get?_apply hconcerns _).1]
      exact ih fun last hlast => h last (by simpa [hconcerns] using hlast)
    | true =>
      obtain ⟨tiles, rfl⟩ := h use (by simp [hconcerns])
      have hmem : key.tile ∈ tiles := by simpa [concerns] using hconcerns
      simp [apply, hmem]

/-- Runs of a sequence under a key that starts afresh, among any other uses of bookmarks and
with orders drawn from any source. Each lookup finds an index, and the indexes are those that
the form of the sequence demands. -/
theorem visits_of_inRuns (source : γ) {before : List BookmarkUse} (hafresh : Afresh key before)
    (hlength : form.length ≠ 0) (hruns : InRuns key form uses underWay) :
    ∃ indexes, found key uses (applyAll before (.empty, source)) = indexes.map .ok ∧
      indexes.length = uses.countP (looksUp key) ∧ form.Visits indexes := by
  obtain ⟨orders, k, horders, hfound, -⟩ :=
    hruns.exists_orders hlength (hafresh.get?_applyAll source)
  have hmap : found key uses (applyAll before (.empty, source)) =
      ((List.range (k + underWay.toNat)).map (form.indexAt orders)).map .ok := by
    rw [hfound, List.map_map]
    rfl
  refine ⟨_, hmap, ?_, horders.visits hlength _⟩
  rw [← length_found key uses (applyAll before (.empty, source)), hmap]
  exact (List.length_map _).symm

/-- A key whose tile is forgotten after a run of another form starts afresh, and its shuffled
runs go on whatever happens under another key, though a run of that one may be under way. -/
theorem visits_of_inRuns_shuffled :
    let key : SequenceKey := ⟨⟨4⟩, .root "push" 0⟩
    let other : SequenceKey := ⟨⟨5⟩, .root "push" 0⟩
    let form : SequenceForm := ⟨3, true, true⟩
    let before := [.current key ⟨2, false, false⟩, .forget [⟨4⟩, ⟨7⟩]]
    let uses := [.current other ⟨2, false, true⟩, .current key form,
      .advance other ⟨2, false, true⟩, .advance key form, .forget [⟨5⟩], .current key form]
    Afresh key before ∧ form.length ≠ 0 ∧ InRuns key form uses true ∧
      ∃ indexes, found key uses (applyAll before (.empty, Random.Stream.ofSeed 0)) =
        indexes.map .ok ∧ indexes.length = 2 ∧ form.Visits indexes := by
  intro key other form before uses
  have hafresh : Afresh key before := by
    intro use huse
    exact ⟨[⟨4⟩, ⟨7⟩], (Option.some.inj huse).symm⟩
  have hone : InRuns key form [.current other ⟨2, false, true⟩, .current key form] true :=
    (InRuns.nil.other (by decide : concerns key (.current other ⟨2, false, true⟩) = false)).current
  have htwo : InRuns key form ([.current other ⟨2, false, true⟩, .current key form] ++
      [.advance other ⟨2, false, true⟩] ++ [.advance key form] ++ [.forget [⟨5⟩]]) false :=
    (hone.other (by decide)).advance.other (by decide)
  have hruns : InRuns key form uses true := htwo.current
  exact ⟨hafresh, by decide, hruns,
    visits_of_inRuns (Random.Stream.ofSeed 0) hafresh (by decide) hruns⟩

end BookmarkUse

end TileAdventure
