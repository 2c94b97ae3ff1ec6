import Abridge.Bisection
import Mathlib.Data.List.GetD
import Mathlib.Order.Bounds.Basic

/-!
Bisection from zero.

If a test that passes at an index passes at all before it, bisection ends at the greatest index that
passes (`isGreatest_bisect`), and at zero where none does (`bisect_eq_zero`). Such tests come from
rows of numbers that grow: a later entry is not less than an earlier one (`getD_le_getD`).
-/
namespace Abridge

section
variable {fits : Nat → Bool} {hi : Nat}

theorem isGreatest_bisect
    (hmono : ∀ i j, i ≤ j → j ≤ hi → fits j = true → fits i = true)
    (h : ∃ k ≤ hi, fits k = true) :
    IsGreatest {k | k ≤ hi ∧ fits k = true} (bisect fits 0 hi) := by
  obtain ⟨k, hk, hfits⟩ := h
  refine ⟨⟨bisect_le fits 0 hi (Nat.zero_le hi), ?_⟩, fun j ⟨hj, hfits⟩ =>
    le_bisect_of_fits hmono hj hfits⟩
  rcases bisect_eq_or_fits fits 0 hi with heq | hpass
  · rw [heq]
    exact hmono 0 k (Nat.zero_le k) hk hfits
  · exact hpass

theorem bisect_eq_zero (h : ∀ k ≤ hi, fits k = false) : bisect fits 0 hi = 0 := by
  rcases bisect_eq_or_fits fits 0 hi with heq | hpass
  · exact heq
  · rw [h _ (bisect_le fits 0 hi (Nat.zero_le hi))] at hpass
    cases hpass

end

theorem getD_le_getD {row : List Nat} (h : row.Pairwise (· < ·)) {i j : Nat} (hij : i ≤ j)
    (hj : j < row.length) : row.getD i 0 ≤ row.getD j 0 := by
  rw [List.getD_eq_getElem _ _ (Nat.lt_of_le_of_lt hij hj), List.getD_eq_getElem _ _ hj]
  rcases Nat.eq_or_lt_of_le hij with rfl | hlt
  · exact Nat.le_refl _
  · exact Nat.le_of_lt (List.pairwise_iff_getElem.mp h i j _ hj hlt)

end Abridge
