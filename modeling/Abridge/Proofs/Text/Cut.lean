import Abridge.Text.Basic

/-!
Cutting a text at boundaries.

A boundary is an offset at which the text falls into two texts (`isBoundary_iff`), so that `before`,
`after` and `slice` of appended texts give the appended parts back. From this, neighbouring cuts
join: what stands before an offset and the slice behind it is what stands before the end of the
slice (`before_append_slice`), and a slice with all behind it is all behind its start
(`slice_append_after`).
-/
namespace Abridge.Text

/-! ### Appended texts -/

@[simp] theorem before_append_size (a b : Text) : before (a ++ b) (size a) = a := by
  induction a with
  | nil =>
    cases b with
    | nil => rfl
    | cons c b =>
      have : ¬ c.utf8Size ≤ 0 := Nat.not_le.mpr c.utf8Size_pos
      simp [before, this]
  | cons c a ih => simp [before, ih]

@[simp] theorem after_append_size (a b : Text) : after (a ++ b) (size a) = b := by
  have h := before_append_after (a ++ b) (size a)
  rw [before_append_size] at h
  exact List.append_cancel_left h

theorem size_pos {t : Text} (h : t ≠ []) : 0 < t.size := by
  obtain ⟨c, t, rfl⟩ := List.exists_cons_of_ne_nil h
  exact Nat.lt_of_lt_of_le c.utf8Size_pos (Nat.le_add_right _ _)

@[simp] theorem isBoundary_append_size (a b : Text) : (a ++ b).isBoundary (size a) = true := by
  simp [isBoundary]

/-- A boundary is where a text falls into two. -/
theorem isBoundary_iff {t : Text} {n : Nat} :
    t.isBoundary n = true ↔ ∃ a b, t = a ++ b ∧ size a = n := by
  constructor
  · intro h
    exact ⟨before t n, after t n, (before_append_after t n).symm, size_before h⟩
  · rintro ⟨a, b, rfl, rfl⟩
    exact isBoundary_append_size a b

@[simp] theorem isBoundary_zero (t : Text) : t.isBoundary 0 = true :=
  isBoundary_append_size [] t

theorem le_size_of_isBoundary {t : Text} {n : Nat} (h : t.isBoundary n = true) : n ≤ size t := by
  obtain ⟨a, b, rfl, rfl⟩ := isBoundary_iff.mp h
  simp

@[simp] theorem before_zero (t : Text) : before t 0 = [] :=
  before_append_size [] t

@[simp] theorem after_zero (t : Text) : after t 0 = t :=
  after_append_size [] t

/-! ### Two boundaries -/

/-- A boundary that is not at the front is one behind the first character. -/
theorem isBoundary_of_cons {c : Char} {t : Text} {n : Nat} (h : isBoundary (c :: t) n = true)
    (hn : 0 < n) : c.utf8Size ≤ n ∧ t.isBoundary (n - c.utf8Size) = true := by
  obtain ⟨a, b, hab, rfl⟩ := isBoundary_iff.mp h
  cases a with
  | nil => exact absurd hn (Nat.lt_irrefl 0)
  | cons d a =>
    obtain ⟨rfl, rfl⟩ := List.cons.inj hab
    rw [size_cons, Nat.add_sub_cancel_left]
    exact ⟨Nat.le_add_right _ _, isBoundary_append_size a b⟩

/-- Two boundaries in order are where a text falls into three. -/
theorem exists_append_of_isBoundary {t : Text} {m n : Nat} (hm : t.isBoundary m = true)
    (hn : t.isBoundary n = true) (h : m ≤ n) :
    ∃ a b c, t = a ++ (b ++ c) ∧ size a = m ∧ size a + size b = n := by
  induction t generalizing m n with
  | nil =>
    have hm0 : m = 0 := Nat.le_zero.mp (le_size_of_isBoundary hm)
    have hn0 : n = 0 := Nat.le_zero.mp (le_size_of_isBoundary hn)
    exact ⟨[], [], [], rfl, hm0.symm, hn0.symm⟩
  | cons c t ih =>
    rcases Nat.eq_zero_or_pos m with rfl | hpos
    · obtain ⟨b, e, hbe, hsize⟩ := isBoundary_iff.mp hn
      exact ⟨[], b, e, hbe, rfl, by simpa using hsize⟩
    · obtain ⟨hcm, hm'⟩ := isBoundary_of_cons hm hpos
      obtain ⟨hcn, hn'⟩ := isBoundary_of_cons hn (Nat.lt_of_lt_of_le hpos h)
      obtain ⟨a, b, e, rfl, ha, hb⟩ := ih hm' hn' (by omega)
      exact ⟨c :: a, b, e, rfl, by rw [size_cons]; omega, by rw [size_cons]; omega⟩

@[simp] theorem slice?_append_append (a b c : Text) :
    (a ++ (b ++ c)).slice? (size a) (size a + size b) = some b := by
  have hstop : (a ++ (b ++ c)).isBoundary (size a + size b) = true :=
    isBoundary_iff.mpr ⟨a ++ b, c, (List.append_assoc a b c).symm, size_append a b⟩
  have hcut : size a + size b - size a = size b := Nat.add_sub_cancel_left ..
  simp [slice?, hstop, hcut]

@[simp] theorem slice_append_append (a b c : Text) :
    (a ++ (b ++ c)).slice (size a) (size a + size b) = b := by
  simp [slice]

/-- A slice is what stands between two boundaries. -/
theorem slice?_eq_some_iff {t b : Text} {m n : Nat} :
    t.slice? m n = some b ↔ ∃ a c, t = a ++ (b ++ c) ∧ size a = m ∧ size a + size b = n := by
  constructor
  · intro h
    have hcond : m ≤ n ∧ t.isBoundary m = true ∧ t.isBoundary n = true := by
      unfold slice? at h
      split at h
      next hc => simpa [and_assoc] using hc
      · cases h
    obtain ⟨a, b', c, rfl, rfl, rfl⟩ := exists_append_of_isBoundary hcond.2.1 hcond.2.2 hcond.1
    obtain rfl : b' = b := by simpa using h
    exact ⟨a, c, rfl, rfl, rfl⟩
  · rintro ⟨a, c, rfl, rfl, rfl⟩
    exact slice?_append_append a b c

section Join
variable {t : Text} {m n : Nat} (hm : t.isBoundary m = true) (hn : t.isBoundary n = true)
  (h : m ≤ n)
include hm hn h

theorem before_append_slice : before t m ++ t.slice m n = before t n := by
  obtain ⟨a, b, c, rfl, rfl, rfl⟩ := exists_append_of_isBoundary hm hn h
  have hn' : before (a ++ (b ++ c)) (size a + size b) = a ++ b := by
    rw [← List.append_assoc, ← size_append, before_append_size]
  rw [before_append_size, slice_append_append, hn']

theorem slice_append_after : t.slice m n ++ after t n = after t m := by
  obtain ⟨a, b, c, rfl, rfl, rfl⟩ := exists_append_of_isBoundary hm hn h
  have hn' : after (a ++ (b ++ c)) (size a + size b) = c := by
    rw [← List.append_assoc, ← size_append, after_append_size]
  rw [after_append_size, slice_append_append, hn']

theorem size_slice : m + size (t.slice m n) = n := by
  obtain ⟨a, b, c, rfl, rfl, rfl⟩ := exists_append_of_isBoundary hm hn h
  rw [slice_append_append]

/-- Two texts that make up a slice are slices, one on each side of a boundary. -/
theorem slice_eq_append {x y : Text} (heq : t.slice m n = x ++ y) :
    t.isBoundary (m + size x) = true ∧ t.slice m (m + size x) = x ∧
      t.slice (m + size x) n = y := by
  obtain ⟨a, b, c, rfl, rfl, rfl⟩ := exists_append_of_isBoundary hm hn h
  rw [slice_append_append] at heq
  subst heq
  have hfront : a ++ (x ++ y ++ c) = a ++ (x ++ (y ++ c)) := by simp only [List.append_assoc]
  have hback : a ++ (x ++ y ++ c) = (a ++ x) ++ (y ++ c) := by simp only [List.append_assoc]
  refine ⟨?_, ?_, ?_⟩
  · rw [hback, ← size_append, isBoundary_append_size]
  · rw [hfront, slice_append_append]
  · rw [hback, size_append, ← Nat.add_assoc, ← size_append, slice_append_append]

theorem before_before : before (before t n) m = before t m := by
  obtain ⟨a, b, c, rfl, rfl, rfl⟩ := exists_append_of_isBoundary hm hn h
  have hn' : before (a ++ (b ++ c)) (size a + size b) = a ++ b := by
    rw [← List.append_assoc, ← size_append, before_append_size]
  rw [hn', before_append_size, before_append_size]

theorem isBoundary_before : isBoundary (before t n) m = true := by
  rw [isBoundary, before_before hm hn h, size_before hm]
  exact BEq.rfl

/-- What stands before an offset, cut at an earlier one. -/
theorem after_before : after (before t n) m = t.slice m n := by
  have hjoin := (before_append_after (before t n) m).trans (before_append_slice hm hn h).symm
  rw [before_before hm hn h] at hjoin
  exact List.append_cancel_left hjoin

end Join

theorem slice_ne_nil {t : Text} {m n : Nat} (hm : t.isBoundary m = true)
    (hn : t.isBoundary n = true) (h : m < n) : t.slice m n ≠ [] := by
  obtain ⟨a, b, c, rfl, rfl, rfl⟩ := exists_append_of_isBoundary hm hn (Nat.le_of_lt h)
  rw [slice_append_append]
  rintro rfl
  exact Nat.lt_irrefl _ h

theorem slice_self {t : Text} {n : Nat} (h : t.isBoundary n = true) : t.slice n n = [] :=
  List.append_right_eq_self.mp (before_append_slice h h (Nat.le_refl n))

/-- A slice is the same in all that stands before an offset behind it. -/
theorem slice_before {t : Text} {l m n : Nat} (hl : t.isBoundary l = true)
    (hm : t.isBoundary m = true) (hn : t.isBoundary n = true) (hlm : l ≤ m) (hmn : m ≤ n) :
    (before t n).slice l m = t.slice l m := by
  have hl' := isBoundary_before hl hn (Nat.le_trans hlm hmn)
  have hjoin := before_append_slice hl' (isBoundary_before hm hn hmn) hlm
  rw [before_before hl hn (Nat.le_trans hlm hmn), before_before hm hn hmn,
    ← before_append_slice hl hm hlm] at hjoin
  exact List.append_cancel_left hjoin

/-- Neighbouring slices join. -/
theorem slice_append_slice {t : Text} {l m n : Nat} (hl : t.isBoundary l = true)
    (hm : t.isBoundary m = true) (hn : t.isBoundary n = true) (hlm : l ≤ m) (hmn : m ≤ n) :
    t.slice l m ++ t.slice m n = t.slice l n := by
  have h := slice_append_after hl hn (Nat.le_trans hlm hmn)
  rw [← slice_append_after hl hm hlm, ← slice_append_after hm hn hmn, ← List.append_assoc] at h
  exact (List.append_cancel_right h).symm

/-- Cutting in front of the seam of two texts cuts the first. -/
theorem before_append_of_isBoundary {s : Text} (t : Text) {n : Nat} (h : s.isBoundary n = true) :
    before (s ++ t) n = before s n := by
  obtain ⟨a, b, rfl, rfl⟩ := isBoundary_iff.mp h
  rw [List.append_assoc, before_append_size, before_append_size]

end Abridge.Text
