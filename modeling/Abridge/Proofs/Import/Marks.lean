import Abridge.Budget.Ladder
import Abridge.Import.Reduction
import Mathlib.Data.List.Forall2

/-!
Marks on imports, under one configuration and under a tighter one.

A lower limit marks more of the same imports (`markBeyond_le`), but a policy that takes out more by
itself need not: it leaves fewer imports that count towards the limit. Configurations are ordered
accordingly (`Tightens`): the policy stays or takes out everything. Then marks only become more
(`marks_le`).
-/
namespace Abridge.Import

open Budget (summaryLimit)

/-- Whether two marks are on one import, and it goes by the second if it goes by the first. -/
structure Mark.Le (m n : Mark) : Prop where
  node : n.node = m.node
  removed : m.isRemoved = true → n.isRemoved = true

theorem Mark.Le.refl (m : Mark) : m.Le m :=
  ⟨rfl, id⟩

/-! ### The limit -/

theorem le_markBeyond (limit : Nat) (ms : List Mark) :
    List.Forall₂ Mark.Le ms (markBeyond limit ms) := by
  fun_induction markBeyond limit ms with
  | case1 limit => exact .nil
  | case2 limit m rest _ ih => exact .cons (.refl m) ih
  | case3 m rest _ ih => exact .cons ⟨rfl, fun _ => rfl⟩ ih
  | case4 m rest limit _ ih => exact .cons (.refl m) ih

/-- A lower limit marks at least what a higher one does. -/
theorem markBeyond_le {low high : Nat} (h : low ≤ high) (ms : List Mark) :
    List.Forall₂ Mark.Le (markBeyond high ms) (markBeyond low ms) := by
  induction ms generalizing low high with
  | nil => exact .nil
  | cons m rest ih =>
    unfold markBeyond
    split
    · exact .cons (.refl m) (ih h)
    · cases low with
      | zero =>
        cases high with
        | zero => exact .cons (.refl _) (ih h)
        | succ high => exact .cons ⟨rfl, fun _ => rfl⟩ (ih (Nat.zero_le _))
      | succ low =>
        obtain ⟨high, rfl⟩ := Nat.exists_eq_succ_of_ne_zero (Nat.ne_zero_of_lt h)
        exact .cons (.refl m) (ih (Nat.le_of_succ_le_succ h))

/-- Where all goes that may go, a limit has nothing to mark. -/
theorem markBeyond_of_forall {ms : List Mark}
    (h : ∀ m ∈ ms, m.isRemoved = true ∨ m.node.isOpaque = true) (limit : Nat) :
    markBeyond limit ms = ms := by
  induction ms generalizing limit with
  | nil => rfl
  | cons m rest ih =>
    have hm : (m.isRemoved || m.node.isOpaque) = true := by simpa using h m List.mem_cons_self
    unfold markBeyond
    rw [if_pos hm, ih fun n hn => h n (List.mem_cons_of_mem _ hn)]

/-! ### All that may go -/

/-- The marks that take out every import but those that the parser did not understand. -/
def allMarks (units : List Node) : List Mark :=
  units.map fun n => ⟨n, !n.isOpaque⟩

theorem markBeyond_le_allMarks {ms : List Mark} {units : List Node} (limit : Nat)
    (h : List.Forall₂ Mark.Le ms (allMarks units)) :
    List.Forall₂ Mark.Le (markBeyond limit ms) (allMarks units) := by
  induction units generalizing ms limit with
  | nil =>
    cases h
    exact .nil
  | cons n units ih =>
    cases h with
    | @cons m _ rest _ hm hrest =>
      unfold markBeyond
      split
      · exact .cons hm (ih limit hrest)
      next hclear =>
        have hopen : (!n.isOpaque) = true := by
          rw [show n = m.node from hm.node]
          simp_all
        cases limit with
        | zero => exact .cons ⟨hm.node, fun _ => hopen⟩ (ih 0 hrest)
        | succ limit => exact .cons hm (ih limit hrest)

section
variable {profile : Profile} {d : Document} {i j : ImportConfig} {external : List Pattern}

theorem marks_of_limit {limit : Nat} (h : summaryLimit i = some limit) (units : List Node) :
    marks profile d i external units =
      markBeyond limit (units.map (markByPolicy profile d i external)) := by
  unfold summaryLimit at h
  split at h
  next hlong =>
    cases h
    rw [marks, if_pos hlong]
  · cases h

theorem marks_of_no_limit (h : summaryLimit i = none) (units : List Node) :
    marks profile d i external units = units.map (markByPolicy profile d i external) := by
  unfold summaryLimit at h
  split at h
  · cases h
  next hshort => rw [marks, if_neg hshort]

theorem marks_le_allMarks (units : List Node) :
    List.Forall₂ Mark.Le (marks profile d i external units) (allMarks units) := by
  have hpolicy : List.Forall₂ Mark.Le (units.map (markByPolicy profile d i external))
      (allMarks units) := by
    simp only [allMarks, List.forall₂_map_left_iff, List.forall₂_map_right_iff,
      List.forall₂_same]
    intro n _
    refine ⟨rfl, fun hremoved => ?_⟩
    simp only [markByPolicy, Bool.and_eq_true] at hremoved
    exact hremoved.1
  cases hlimit : summaryLimit i with
  | none =>
    rw [marks_of_no_limit hlimit]
    exact hpolicy
  | some limit =>
    rw [marks_of_limit hlimit]
    exact markBeyond_le_allMarks limit hpolicy

theorem marks_of_stripAll (h : i.policy = .stripAll) (units : List Node) :
    marks profile d i external units = allMarks units := by
  have hpolicy : units.map (markByPolicy profile d i external) = allMarks units := by
    refine List.map_congr_left fun n _ => ?_
    simp [markByPolicy, isStripped, h]
  have hall : ∀ m ∈ allMarks units, m.isRemoved = true ∨ m.node.isOpaque = true := by
    intro m hm
    obtain ⟨n, -, rfl⟩ := List.mem_map.mp hm
    cases n.isOpaque <;> simp
  cases hlimit : summaryLimit i with
  | none => rw [marks_of_no_limit hlimit, hpolicy]
  | some limit => rw [marks_of_limit hlimit, hpolicy, markBeyond_of_forall hall]

/-! ### Tighter configurations -/

/-- Whether imports are treated at least as strictly: origins are told apart as before, the policy
is the same or takes out all, and a limit that there was has not become higher. -/
structure Tightens (i j : ImportConfig) : Prop where
  patterns : j.externalPatterns = i.externalPatterns
  roots : j.localRoots = i.localRoots
  policy : j.policy = i.policy ∨ j.policy = .stripAll
  limit : ∀ high, summaryLimit i = some high → ∃ low ≤ high, summaryLimit j = some low

theorem Tightens.refl (i : ImportConfig) : Tightens i i :=
  ⟨rfl, rfl, .inl rfl, fun high h => ⟨high, Nat.le_refl _, h⟩⟩

theorem Tightens.trans {k : ImportConfig} (hij : Tightens i j) (hjk : Tightens j k) :
    Tightens i k where
  patterns := hjk.patterns.trans hij.patterns
  roots := hjk.roots.trans hij.roots
  policy := by
    rcases hjk.policy with h | h
    · rw [h]
      exact hij.policy
    · exact .inr h
  limit := fun high h => by
    obtain ⟨middle, hmiddle, hj⟩ := hij.limit high h
    obtain ⟨low, hlow, hk⟩ := hjk.limit middle hj
    exact ⟨low, Nat.le_trans hlow hmiddle, hk⟩

/-- Where imports are left alone, they are under every looser configuration. -/
theorem isNoop_of_tightens (h : Tightens i j) (hnoop : j.isNoop = true) : i.isNoop = true := by
  simp only [ImportConfig.isNoop, Bool.and_eq_true, beq_iff_eq, Bool.not_eq_true'] at hnoop ⊢
  obtain ⟨hpolicy, hshort⟩ := hnoop
  constructor
  · rcases h.policy with hsame | hall
    · exact hsame.symm.trans hpolicy
    · rw [hpolicy] at hall
      cases hall
  · by_contra hlong
    obtain ⟨low, -, hlimit⟩ := h.limit i.maxItemsBeforeSummary (by simp_all [summaryLimit])
    simp [summaryLimit, hshort] at hlimit

theorem markByPolicy_congr (hroots : j.localRoots = i.localRoots) (hpolicy : j.policy = i.policy) :
    markByPolicy profile d j external = markByPolicy profile d i external := by
  have hlocal : j.isLocalRoot = i.isLocalRoot := by
    funext path
    unfold ImportConfig.isLocalRoot
    rw [hroots]
  funext n
  simp only [markByPolicy, originOf, hlocal, hpolicy]

/-- What goes under a configuration goes under a tighter one. -/
theorem marks_le (h : Tightens i j) (units : List Node) :
    List.Forall₂ Mark.Le (marks profile d i external units)
      (marks profile d j external units) := by
  rcases h.policy with hpolicy | hpolicy
  · have hsame : markByPolicy profile d j external = markByPolicy profile d i external :=
      markByPolicy_congr h.roots hpolicy
    cases hi : summaryLimit i with
    | none =>
      rw [marks_of_no_limit hi, ← hsame]
      cases hj : summaryLimit j with
      | none =>
        rw [marks_of_no_limit hj]
        exact List.forall₂_same.mpr fun m _ => .refl m
      | some low =>
        rw [marks_of_limit hj]
        exact le_markBeyond low _
    | some high =>
      obtain ⟨low, hle, hj⟩ := h.limit high hi
      rw [marks_of_limit hi, marks_of_limit hj, hsame]
      exact markBeyond_le hle _
  · rw [marks_of_stripAll hpolicy]
    exact marks_le_allMarks units

end

end Abridge.Import
