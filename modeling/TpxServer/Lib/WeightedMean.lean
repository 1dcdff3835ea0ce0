import Mathlib.Algebra.BigOperators.Ring.Multiset
import Mathlib.Algebra.Order.BigOperators.Group.Multiset
import Mathlib.Algebra.Order.Field.Basic

/-!
# Weighted means over multisets

The mean of a function over a multiset, weighted by a second function. The mean over a sum of two
multisets is the weighted mean of their means (`mean_add`), so a running mean does not depend on how
it was built up, and a mean with positive weights lies between any bounds of its values.
-/

namespace WeightedMean

variable {ι K : Type*}

section Sums

variable [Field K] {w f : ι → K} {s t : Multiset ι}

/-- The weight of a multiset. -/
def total (w : ι → K) (s : Multiset ι) : K := (s.map w).sum

/-- The mean of `f` over a multiset, weighted by `w`. -/
def mean (w f : ι → K) (s : Multiset ι) : K := (s.map fun i => f i * w i).sum / total w s

@[simp] theorem total_singleton (w : ι → K) (i : ι) : total w {i} = w i := by simp [total]

@[simp] theorem total_add (w : ι → K) (s t : Multiset ι) :
    total w (s + t) = total w s + total w t := by
  simp [total]

theorem mean_singleton {i : ι} (h : w i ≠ 0) : mean w f {i} = f i := by
  simp [mean, h]

theorem mean_mul_total (h : total w s ≠ 0) :
    mean w f s * total w s = (s.map fun i => f i * w i).sum := div_mul_cancel₀ _ h

/-- The mean over a sum is the weighted mean of the means. -/
theorem mean_add (hs : total w s ≠ 0) (ht : total w t ≠ 0) :
    mean w f (s + t) =
      (mean w f s * total w s + mean w f t * total w t) / (total w s + total w t) := by
  rw [mean_mul_total hs, mean_mul_total ht, ← Multiset.sum_add, ← Multiset.map_add, ← total_add]
  rfl

end Sums

section Order

variable [Field K] [LinearOrder K] [IsStrictOrderedRing K] {w f : ι → K} {s : Multiset ι}
  (hw : ∀ i ∈ s, 0 < w i) (hs : s ≠ 0)
include hw

theorem total_nonneg : 0 ≤ total w s :=
  Multiset.sum_nonneg (by simpa using fun i hi => (hw i hi).le)

include hs

theorem total_pos : 0 < total w s := by
  obtain ⟨i, hi⟩ := Multiset.exists_mem_of_ne_zero hs
  obtain ⟨t, rfl⟩ := Multiset.exists_cons_of_mem hi
  have ht : 0 ≤ total w t := total_nonneg fun j hj => hw j (Multiset.mem_cons_of_mem hj)
  rw [← Multiset.singleton_add, total_add, total_singleton]
  exact add_pos_of_pos_of_nonneg (hw i hi) ht

/-- A lower bound of the values is one of their mean. -/
theorem le_mean {a : K} (h : ∀ i ∈ s, a ≤ f i) : a ≤ mean w f s := by
  rw [mean, le_div_iff₀ (total_pos hw hs), total, ← Multiset.sum_map_mul_left]
  exact Multiset.sum_map_le_sum_map _ _ fun i hi => mul_le_mul_of_nonneg_right (h i hi) (hw i hi).le

/-- An upper bound of the values is one of their mean. -/
theorem mean_le {b : K} (h : ∀ i ∈ s, f i ≤ b) : mean w f s ≤ b := by
  rw [mean, div_le_iff₀ (total_pos hw hs), total, ← Multiset.sum_map_mul_left]
  exact Multiset.sum_map_le_sum_map _ _ fun i hi => mul_le_mul_of_nonneg_right (h i hi) (hw i hi).le

end Order

end WeightedMean
