import Mathlib.Data.List.Perm.Subperm
import TileAdventure.Random.Source

/-!
# What a shuffle draws

A shuffle draws indexes until each of them has come up, and `collect` puts a limit on the words
that this may take. While the limit is not met it plays no part: to allow more words changes
nothing once all indexes have come up (`collect_of_le`), these are then a permutation as they
have been drawn (`perm_collect`), and a shuffle adds nothing to them (`shuffled_eq_collect`).
-/

namespace TileAdventure.Random

variable {γ : Type} [Source γ] {n fuel more : Nat} {order : List Nat} {source : γ}

/-- Once `n` indexes have come up, no further word is taken, however many are allowed. -/
theorem collect_of_le (hle : fuel ≤ more) (h : n ≤ (collect n fuel order source).1.length) :
    collect n more order source = collect n fuel order source := by
  induction more generalizing fuel order source with
  | zero => rw [Nat.le_zero.mp hle]
  | succ more ih =>
    cases fuel with
    | zero => exact if_pos h
    | succ fuel =>
      have hle := Nat.le_of_succ_le_succ hle
      unfold collect at h ⊢
      split
      · rfl
      · rename_i hfew
        rw [if_neg hfew] at h
        dsimp only at h ⊢
        split
        · rename_i hdraw
          rw [hdraw] at h
          exact ih hle h
        · rename_i hdraw
          rw [hdraw] at h
          exact ih hle h

/-- Once `n` indexes have come up, they are those below `n`, in the order of the draws. -/
theorem perm_collect (h : n ≤ (collect n fuel [] source).1.length) :
    (collect n fuel [] source).1.Perm (List.range n) := by
  obtain ⟨hlt, hnodup⟩ := collect_order n fuel [] source (by simp) (by simp)
  have hsubset : (collect n fuel [] source).1 ⊆ List.range n :=
    fun i hi => List.mem_range.mpr (hlt i hi)
  exact (hnodup.subperm hsubset).perm_of_length_le (by rwa [List.length_range])

/-- A shuffle whose draws end within the word limit is what has been drawn and nothing else. -/
theorem shuffled_eq_collect (hle : fuel ≤ wordLimit n)
    (h : n ≤ (collect n fuel [] source).1.length) :
    shuffled n source = collect n fuel [] source := by
  obtain ⟨drawn, hdrawn⟩ : ∃ drawn, collect n fuel [] source = drawn := ⟨_, rfl⟩
  have hperm := perm_collect h
  have hlimit := (collect_of_le hle h).trans hdrawn
  rw [hdrawn] at hperm ⊢
  have hnone : (List.range n).filter (· ∉ drawn.1) = [] := by
    rw [List.filter_eq_nil_iff]
    exact fun i hi => by simp [hperm.mem_iff.mpr hi]
  refine Prod.ext ?_ ?_
  · rw [shuffled_fst hlimit, hnone, List.append_nil]
  · rw [shuffled, hlimit]

end TileAdventure.Random
