import Abridge.Edit.Queue
import Abridge.Proofs.Text.Cut
import Mathlib.Data.List.Pairwise

/-!
What a queue of edits takes, and in which order it carries it out.

A queue is `IsSound` if its edits fit the source and no two collide; taking an edit keeps it so
(`IsSound.replace?`). In the order in which edits are carried out each one stops before the next
starts (`IsSound.inOrder_apart`), which is all that the walk over the source needs.
-/
namespace Abridge

/-! ### Spans -/

namespace Span

theorem isEmpty_iff {s : Span} : s.isEmpty = true ↔ s.start = s.stop := by
  simp [isEmpty]

theorem contains_iff {s t : Span} :
    s.contains t = true ↔ s.start ≤ t.start ∧ t.stop ≤ s.stop := by
  simp [contains]

/-- Whether two spans collide does not depend on which of them comes first. -/
theorem collides_comm (s t : Span) : s.collides t = t.collides s := by
  have hs := s.start_le_stop
  have ht := t.start_le_stop
  unfold collides isEmpty overlaps
  by_cases h : s.start = s.stop <;> by_cases h' : t.start = t.stop <;> simp [h, h'] <;> grind

/-- Spans that hold something collide if they overlap. -/
theorem collides_of_nonempty {s t : Span} (hs : s.isEmpty = false) (ht : t.isEmpty = false) :
    s.collides t = s.overlaps t := by
  simp [collides, hs, ht]

/-- A span without width collides with one that it lies strictly inside. -/
theorem collides_of_isEmpty {s t : Span} (hs : s.isEmpty = true) :
    s.collides t = (decide (t.start < s.start) && decide (s.start < t.stop)) := by
  simp [collides, hs]

/-- Spans of which one stops before the other starts do not collide. -/
theorem collides_of_stop_le {s t : Span} (h : s.stop ≤ t.start) : s.collides t = false := by
  have hs := s.start_le_stop
  have ht := t.start_le_stop
  unfold collides isEmpty overlaps
  grind

/-- Spans collide just when they overlap, also where one of them is empty. -/
theorem collides_iff {s t : Span} :
    s.collides t = true ↔ s.start < t.stop ∧ t.start < s.stop := by
  by_cases hs : s.start = s.stop
  · simp [collides, isEmpty_iff.mpr hs, hs, and_comm]
  by_cases ht : t.start = t.stop
  · simp [collides, isEmpty, hs, ht]
  · simp [collides, isEmpty, overlaps, hs, ht]

/-- What collides with a part of a span collides with the span. -/
theorem collides_of_contains {s t u : Span} (hcontains : s.contains t = true)
    (h : t.collides u = true) : s.collides u = true := by
  obtain ⟨hstart, hstop⟩ := contains_iff.mp hcontains
  obtain ⟨hfront, hback⟩ := collides_iff.mp h
  exact collides_iff.mpr ⟨Nat.lt_of_le_of_lt hstart hfront, Nat.lt_of_lt_of_le hback hstop⟩

end Span

/-! ### Soundness -/

/-- Whether two edits do not collide. -/
def Edit.Apart (a b : Edit) : Prop :=
  a.span.collides b.span = false

theorem Edit.Apart.symm {a b : Edit} (h : a.Apart b) : b.Apart a := by
  rw [Apart, Span.collides_comm]
  exact h

instance : Std.Symm Edit.Apart :=
  ⟨fun _ _ h => h.symm⟩

namespace EditQueue

/-- Whether all edits fit the source and no two collide. -/
structure IsSound (q : EditQueue) : Prop where
  fits : ∀ e ∈ q.edits, q.fits e.span = true
  apart : q.edits.Pairwise Edit.Apart

theorem isSound_empty (source : Text) : IsSound { source } :=
  ⟨fun _ h => absurd h List.not_mem_nil, List.Pairwise.nil⟩

/-- An edit is taken if it fits and collides with none, and then comes last. -/
theorem replace?_eq_some_iff {q q' : EditQueue} {span : Span} {text : Text} :
    q.replace? span text = some q' ↔
      q.fits span = true ∧ q.collides span = false ∧
        q' = { q with edits := q.edits ++ [⟨span, text⟩] } := by
  unfold replace?
  cases q.fits span <;> cases q.collides span <;> simp [eq_comm]

theorem collides_eq_false_iff {q : EditQueue} {span : Span} :
    q.collides span = false ↔ ∀ e ∈ q.edits, span.collides e.span = false := by
  simp [collides]

theorem source_of_replace? {q q' : EditQueue} {span : Span} {text : Text}
    (h : q.replace? span text = some q') : q'.source = q.source := by
  obtain ⟨-, -, rfl⟩ := replace?_eq_some_iff.mp h
  rfl

theorem IsSound.replace? {q q' : EditQueue} (hq : q.IsSound) {span : Span} {text : Text}
    (h : q.replace? span text = some q') : q'.IsSound := by
  obtain ⟨hfits, hcollides, rfl⟩ := replace?_eq_some_iff.mp h
  constructor
  · intro e he
    rcases List.mem_append.mp he with he | he
    · exact hq.fits e he
    · obtain rfl := List.mem_singleton.mp he
      exact hfits
  · refine List.pairwise_append.mpr ⟨hq.apart, List.pairwise_singleton _ _, ?_⟩
    intro a ha b hb
    obtain rfl := List.mem_singleton.mp hb
    exact Edit.Apart.symm (collides_eq_false_iff.mp hcollides a ha)

theorem IsSound.isBoundary_start {q : EditQueue} (hq : q.IsSound) {e : Edit} (he : e ∈ q.edits) :
    q.source.isBoundary e.span.start = true :=
  (Bool.and_eq_true_iff.mp (hq.fits e he)).1

theorem IsSound.isBoundary_stop {q : EditQueue} (hq : q.IsSound) {e : Edit} (he : e ∈ q.edits) :
    q.source.isBoundary e.span.stop = true :=
  (Bool.and_eq_true_iff.mp (hq.fits e he)).2

/-- Two edits of a sound queue do not collide. -/
theorem IsSound.apart_of_ne {q : EditQueue} (hq : q.IsSound) {a b : Edit} (ha : a ∈ q.edits)
    (hb : b ∈ q.edits) (h : a ≠ b) : a.Apart b :=
  hq.apart.forall ha hb h

/-! ### The order of edits -/

theorem precedes_iff {a b : Edit} :
    precedes a b = true ↔
      a.span.start < b.span.start ∨ a.span.start = b.span.start ∧ a.span.stop ≤ b.span.stop := by
  simp [precedes]

theorem precedes_total (a b : Edit) : (precedes a b || precedes b a) = true := by
  simp only [Bool.or_eq_true, precedes_iff]
  omega

theorem precedes_trans (a b c : Edit) (hab : precedes a b = true) (hbc : precedes b c = true) :
    precedes a c = true := by
  rw [precedes_iff] at *
  omega

/-- Of two edits in order that do not collide, the first stops before the second starts. -/
theorem stop_le_start {a b : Edit} (h : precedes a b = true) (hc : a.Apart b) :
    a.span.stop ≤ b.span.start := by
  have ha := a.span.start_le_stop
  have hb := b.span.start_le_stop
  rw [precedes_iff] at h
  unfold Edit.Apart Span.collides Span.isEmpty Span.overlaps at hc
  grind

theorem inOrder_perm (q : EditQueue) : q.inOrder.Perm q.edits :=
  List.mergeSort_perm _ _

theorem mem_inOrder {q : EditQueue} {e : Edit} : e ∈ q.inOrder ↔ e ∈ q.edits :=
  q.inOrder_perm.mem_iff

theorem inOrder_pairwise (q : EditQueue) : q.inOrder.Pairwise fun a b => precedes a b = true :=
  List.pairwise_mergeSort precedes_trans precedes_total q.edits

/-- In order, each edit of a sound queue stops before every later one starts. -/
theorem IsSound.inOrder_apart {q : EditQueue} (hq : q.IsSound) :
    q.inOrder.Pairwise fun a b => a.span.stop ≤ b.span.start := by
  have hapart : q.inOrder.Pairwise Edit.Apart :=
    q.inOrder_perm.symm.pairwise hq.apart fun h => h.symm
  exact (q.inOrder_pairwise.and hapart).imp fun h => stop_le_start h.1 h.2

end EditQueue

end Abridge
