import Abridge.Comment.Summary
import Abridge.Proofs.Bisection
import Abridge.Proofs.Budget.Growth
import Mathlib.Data.List.Range

/-!
Texts that are cut to fit.

A text may be cut in front of each of its blanks (`StopsAtBlank`), and the later it is cut, the more
tokens a counter counts that grows with the text. So bisection finds the longest front that fits,
and there are three ways for a text to end up: whole, as that front without the blanks at its end,
or with nothing left (`cuts`). Whatever the counter, a front of the text is left
(`truncate_isPrefix`).
-/
namespace Abridge.Summary
variable {count : Counter} {max : Nat} {t : Text}

/-- Whether a text is a front of another one with a blank behind it. -/
def StopsAtBlank (t front : Text) : Prop :=
  ∃ c rest, t = front ++ c :: rest ∧ Text.isBlank c = true

/-- Whether a front is the longest that stops at a blank and fits. -/
structure IsLongestFront (count : Counter) (max : Nat) (t front : Text) : Prop where
  stops : StopsAtBlank t front
  fits : count front ≤ max
  longest : ∀ other, StopsAtBlank t other → count other ≤ max → other <+: front

/-! ### The places of the blanks -/

theorem mem_blankIndices {k : Nat} :
    k ∈ blankIndices t ↔ ∃ c, t[k]? = some c ∧ Text.isBlank c = true := by
  simp only [blankIndices, List.mem_map, List.mem_filter, Prod.exists,
    List.mem_zipIdx_iff_getElem?]
  constructor
  · rintro ⟨c, _, ⟨hc, hblank⟩, rfl⟩
    exact ⟨c, hc, hblank⟩
  · rintro ⟨c, hc, hblank⟩
    exact ⟨c, k, ⟨hc, hblank⟩, rfl⟩

theorem pairwise_blankIndices (t : Text) : (blankIndices t).Pairwise (· < ·) := by
  have hsub : (blankIndices t).Sublist (t.zipIdx.map Prod.snd) := List.filter_sublist.map _
  rw [List.zipIdx_map_snd] at hsub
  exact List.Pairwise.sublist hsub List.pairwise_lt_range'

/-- The fronts that stop at a blank are those as long as a blank has characters in front. -/
theorem stopsAtBlank_iff {front : Text} :
    StopsAtBlank t front ↔ ∃ k ∈ blankIndices t, front = t.take k := by
  simp only [mem_blankIndices]
  constructor
  · rintro ⟨c, rest, rfl, hc⟩
    exact ⟨front.length, ⟨c, by simp, hc⟩, by simp⟩
  · rintro ⟨k, ⟨c, hk, hc⟩, rfl⟩
    obtain ⟨hlt, rfl⟩ := List.getElem?_eq_some_iff.mp hk
    exact ⟨t[k], t.drop (k + 1), by rw [← List.drop_eq_getElem_cons hlt, List.take_append_drop], hc⟩

/-! ### The search -/

/-- What the search cuts a text to at its `k`-th blank; at no blank the same as at the first. -/
def frontAt (t : Text) (k : Nat) : Text :=
  t.take ((blankIndices t).getD (k - 1) 0)

theorem frontAt_isPrefix {i j : Nat} (hij : i ≤ j) (hj : j ≤ (blankIndices t).length) :
    frontAt t i <+: frontAt t j := by
  refine List.take_prefix_take_left ?_
  rcases Nat.eq_zero_or_pos (blankIndices t).length with hnil | hpos
  · rw [List.length_eq_zero_iff.mp hnil]
    exact Nat.le_refl 0
  · exact getD_le_getD (pairwise_blankIndices t) (by omega) (by omega)

theorem stopsAtBlank_frontAt {k : Nat} (hpos : 0 < k) (hk : k ≤ (blankIndices t).length) :
    StopsAtBlank t (frontAt t k) := by
  refine stopsAtBlank_iff.mpr ⟨_, ?_, rfl⟩
  rw [List.getD_eq_getElem _ _ (by omega)]
  exact List.getElem_mem _

theorem exists_frontAt {front : Text} (h : StopsAtBlank t front) :
    ∃ k, 0 < k ∧ k ≤ (blankIndices t).length ∧ front = frontAt t k := by
  obtain ⟨stop, hstop, rfl⟩ := stopsAtBlank_iff.mp h
  obtain ⟨i, hi, rfl⟩ := List.mem_iff_getElem.mp hstop
  refine ⟨i + 1, Nat.succ_pos i, hi, ?_⟩
  rw [frontAt, Nat.add_sub_cancel, List.getD_eq_getElem _ _ hi]

/-- The number of the blank that a text is cut at, or zero. -/
def stopFor (count : Counter) (max : Nat) (t : Text) : Nat :=
  bisect (fun k => count (frontAt t k) ≤ max) 0 (blankIndices t).length

theorem truncate_of_le (h : count t ≤ max) : truncate count max t = t :=
  if_pos h

theorem truncate_of_lt (h : max < count t) : truncate count max t =
    if stopFor count max t = 0 then [] else (frontAt t (stopFor count max t)).trimEnd :=
  if_neg (Nat.not_le_of_lt h)

/-- Cutting leaves a front of the text. -/
theorem truncate_isPrefix (count : Counter) (max : Nat) (t : Text) :
    truncate count max t <+: t := by
  rcases Nat.lt_or_ge max (count t) with hover | hfits
  · rw [truncate_of_lt hover]
    split
    · exact List.nil_prefix
    · exact (Text.trimEnd_isPrefix _).trans (List.take_prefix _ t)
  · rw [truncate_of_le hfits]

/-- A front stops at a blank without the blanks at its end, too. -/
theorem StopsAtBlank.trimEnd {front : Text} (h : StopsAtBlank t front) :
    StopsAtBlank t front.trimEnd := by
  obtain ⟨c, rest, rfl, hc⟩ := h
  obtain ⟨blanks, hfront, hblanks⟩ := Text.exists_eq_trimEnd_append front
  cases blanks with
  | nil => exact ⟨c, rest, by rw [List.append_nil] at hfront; rw [← hfront], hc⟩
  | cons b blanks =>
    refine ⟨b, blanks ++ c :: rest, ?_, (Bool.and_eq_true_iff.mp hblanks).1⟩
    rw [← List.cons_append, ← List.append_assoc, ← hfront]

/-- What is left of a text that was cut stopped at a blank. -/
theorem stopsAtBlank_truncate (hcut : truncate count max t ≠ t) (hne : truncate count max t ≠ []) :
    StopsAtBlank t (truncate count max t) ∧
      ∀ c ∈ (truncate count max t).getLast?, Text.isBlank c = false := by
  have hover : max < count t := Nat.lt_of_not_le fun hfits => hcut (truncate_of_le hfits)
  rw [truncate_of_lt hover] at hne ⊢
  split at hne
  · exact absurd rfl hne
  next hstop =>
    rw [if_neg hstop]
    have hle : stopFor count max t ≤ (blankIndices t).length := bisect_le _ 0 _ (Nat.zero_le _)
    exact ⟨(stopsAtBlank_frontAt (Nat.pos_of_ne_zero hstop) hle).trimEnd,
      fun _ => Text.not_of_mem_getLast?_dropEndWhile⟩

theorem fits_frontAt (hcount : count.Grows) {i j : Nat} (hij : i ≤ j)
    (hj : j ≤ (blankIndices t).length) (hfits : decide (count (frontAt t j) ≤ max) = true) :
    decide (count (frontAt t i) ≤ max) = true :=
  decide_eq_true <|
    (hcount.le_of_isPrefix (frontAt_isPrefix hij hj)).trans (of_decide_eq_true hfits)

/-- Where a front fits, the search ends at the longest one. -/
theorem isLongestFront_stopFor (hcount : count.Grows) {front : Text}
    (hstops : StopsAtBlank t front) (hfits : count front ≤ max) :
    0 < stopFor count max t ∧ IsLongestFront count max t (frontAt t (stopFor count max t)) := by
  obtain ⟨k, hpos, hk, rfl⟩ := exists_frontAt hstops
  obtain ⟨⟨hle, hfits'⟩, hgreatest⟩ :=
    isGreatest_bisect (fun _ _ => fits_frontAt hcount) ⟨k, hk, decide_eq_true hfits⟩
  have hstop : 0 < stopFor count max t :=
    Nat.lt_of_lt_of_le hpos (hgreatest ⟨hk, decide_eq_true hfits⟩)
  refine ⟨hstop, stopsAtBlank_frontAt hstop hle, of_decide_eq_true hfits', fun other hother hfits =>
    ?_⟩
  obtain ⟨j, -, hj, rfl⟩ := exists_frontAt hother
  exact frontAt_isPrefix (hgreatest ⟨hj, decide_eq_true hfits⟩) hle

/-- Where no front fits, the search ends at no blank. -/
theorem stopFor_eq_zero (hnone : ∀ front, StopsAtBlank t front → max < count front) :
    stopFor count max t = 0 := by
  rcases Nat.eq_zero_or_pos (blankIndices t).length with hnil | hpos
  · exact Nat.le_zero.mp (hnil ▸ bisect_le _ 0 _ (Nat.zero_le _))
  · refine bisect_eq_zero fun k hk => decide_eq_false (Nat.not_le_of_lt ?_)
    rcases Nat.eq_zero_or_pos k with rfl | hk'
    · exact hnone (frontAt t 1) (stopsAtBlank_frontAt Nat.one_pos hpos)
    · exact hnone _ (stopsAtBlank_frontAt hk' hk)

/-! ### What is left -/

/-- The ways for a text to be cut to a number of tokens. -/
inductive Cuts (count : Counter) (max : Nat) (t : Text) : Text → Prop
  | whole (hfits : count t ≤ max) : Cuts count max t t
  | front {front : Text} (hover : max < count t) (hfront : IsLongestFront count max t front) :
      Cuts count max t front.trimEnd
  | nothing (hover : max < count t) (hnone : ∀ front, StopsAtBlank t front → max < count front) :
      Cuts count max t []

theorem cuts (hcount : count.Grows) (max : Nat) (t : Text) :
    Cuts count max t (truncate count max t) := by
  rcases Nat.lt_or_ge max (count t) with hover | hfits
  · rw [truncate_of_lt hover]
    by_cases h : ∃ front, StopsAtBlank t front ∧ count front ≤ max
    · obtain ⟨front, hstops, hfits⟩ := h
      obtain ⟨hpos, hlongest⟩ := isLongestFront_stopFor hcount hstops hfits
      rw [if_neg (Nat.ne_of_gt hpos)]
      exact .front hover hlongest
    · have hnone : ∀ front, StopsAtBlank t front → max < count front := fun front hstops =>
        Nat.lt_of_not_le fun hfits => h ⟨front, hstops, hfits⟩
      rw [if_pos (stopFor_eq_zero hnone)]
      exact .nothing hover hnone
  · rw [truncate_of_le hfits]
    exact .whole hfits

/-- What is left fits, unless nothing is. -/
theorem count_truncate_le (hcount : count.Grows) (h : truncate count max t ≠ []) :
    count (truncate count max t) ≤ max := by
  have hcuts := cuts hcount max t
  generalize truncate count max t = short at hcuts h
  cases hcuts with
  | whole hfits => exact hfits
  | front _ hfront =>
    exact Nat.le_trans (hcount.le_of_isPrefix (Text.trimEnd_isPrefix _)) hfront.fits
  | nothing => exact absurd rfl h

/-- **A text is cut to its longest front that fits.** If it fits itself, all of it is left. If not,
what is left is the longest of its fronts that stop at a blank and fit, without the blanks at the
end, or nothing if none of them fits. So a front of the text is left in each case, and it fits
unless it is empty. -/
theorem truncate_leaves_longest_front (hcount : count.Grows) (max : Nat) (t : Text) :
    (count t ≤ max → truncate count max t = t) ∧
    (max < count t →
      (∃ front, IsLongestFront count max t front ∧ truncate count max t = front.trimEnd) ∨
      (∀ front, StopsAtBlank t front → max < count front) ∧ truncate count max t = []) ∧
    truncate count max t <+: t ∧
    (truncate count max t = [] ∨ count (truncate count max t) ≤ max) := by
  refine ⟨truncate_of_le, fun hover => ?_, truncate_isPrefix count max t, ?_⟩
  · have hcuts := cuts hcount max t
    generalize truncate count max t = short at hcuts ⊢
    cases hcuts with
    | whole hfits => exact absurd hfits (Nat.not_le_of_lt hover)
    | front _ hfront => exact .inl ⟨_, hfront, rfl⟩
    | nothing _ hnone => exact .inr ⟨hnone, rfl⟩
  · exact Decidable.or_iff_not_imp_left.mpr (count_truncate_le hcount)

/-- Three words, of which a space and an em space part the first two. -/
def wideGap : Text :=
  ['a', ' ', '\u2003', 'b', ' ', 'c']

/-- The front that ends between the two blanks fits five bytes, and loses one of them. -/
theorem truncate_leaves_longest_front_wide :
    Counter.bytes.Grows ∧ 5 < Counter.bytes wideGap ∧
      (∃ front, IsLongestFront Counter.bytes 5 wideGap front ∧ front.trimEnd = ['a']) ∧
      truncate Counter.bytes 5 wideGap = ['a'] ∧ ['a'] <+: wideGap := by
  have hgrows : Counter.bytes.Grows := Counter.followsSize_bytes.growsInside.grows
  have hover : 5 < Counter.bytes wideGap := by decide
  have hcut : truncate Counter.bytes 5 wideGap = ['a'] := by decide +kernel
  obtain ⟨-, hlong, hfront, -⟩ := truncate_leaves_longest_front hgrows 5 wideGap
  rw [hcut] at hlong hfront
  obtain ⟨front, hlongest, heq⟩ := (hlong hover).resolve_right fun h => by cases h.2
  exact ⟨hgrows, hover, ⟨front, hlongest, heq.symm⟩, hcut, hfront⟩

end Abridge.Summary
