/-!
Bisection: the largest index of a range that passes a test which, once it fails, keeps failing.
-/
namespace Abridge

/-- Halves the range from `lo` to `hi` until one index is left: `lo` is taken as passing, and a
middle index that passes moves `lo` up, one that fails moves `hi` below it. -/
def bisect (fits : Nat → Bool) (lo hi : Nat) : Nat :=
  if lo < hi then
    let mid := (lo + hi + 1) / 2
    if fits mid then bisect fits mid hi else bisect fits lo (mid - 1)
  else
    lo
termination_by hi - lo

theorem bisect_le (fits : Nat → Bool) (lo hi : Nat) (h : lo ≤ hi) : bisect fits lo hi ≤ hi := by
  fun_induction bisect fits lo hi <;> omega

/-- Bisection ends where it began or at an index that passes. -/
theorem bisect_eq_or_fits (fits : Nat → Bool) (lo hi : Nat) :
    bisect fits lo hi = lo ∨ fits (bisect fits lo hi) = true := by
  fun_induction bisect fits lo hi with
  | case1 lo hi hlt mid hmid ih =>
    rcases ih with heq | hfits
    · exact .inr (by rw [heq]; exact hmid)
    · exact .inr hfits
  | case2 lo hi hlt mid hmid ih => exact ih
  | case3 lo hi hlt => exact .inl rfl

/-- If all indices below one that passes do so too, bisection ends behind all that pass. -/
theorem le_bisect_of_fits {fits : Nat → Bool} {lo hi k : Nat}
    (hfits : ∀ i j, i ≤ j → j ≤ hi → fits j = true → fits i = true) (hk : k ≤ hi)
    (h : fits k = true) : k ≤ bisect fits lo hi := by
  fun_induction bisect fits lo hi with
  | case1 lo hi hlt mid hmid ih => exact ih hfits hk
  | case2 lo hi hlt mid hmid ih =>
    have hlt : k < mid := Nat.lt_of_not_le fun hle => hmid (hfits mid k hle hk h)
    exact ih (fun i j hij hj => hfits i j hij (by omega)) (by omega)
  | case3 lo hi hlt => omega

end Abridge
