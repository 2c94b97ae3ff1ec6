import Abridge.Declaration.Reduction
import Abridge.Proofs.Declaration.Laminar
import Mathlib.Data.List.Pairwise

/-!
The outermost of the declarations that do not belong to the surface.

The reduction sorts them by where they start and drops each that goes with the one kept before it.
In lists in which the first of any two comes in front of the second or around it, the sorting
changes nothing, and what is kept is exactly what lies in no other hidden declaration
(`outermostHidden_eq_filter`).
-/
namespace Abridge.Declaration

/-- Whether a hidden declaration lies in no other one. -/
def isOutermost (ds : List Declaration) (e : Declaration) : Bool :=
  isHidden e && !ds.any fun x => isHidden x && x.node.encloses e.node

namespace Ahead
variable {d : Document} {e f : Declaration}

theorem start_le (h : Ahead d e f) (he : d.IsSolid e.span) : e.span.start ≤ f.span.start := by
  cases h with
  | apart hspan =>
    have := he.start_lt_stop
    omega
  | around _ hspan => exact (Span.contains_iff.mp hspan).1

/-- What comes later never encloses what came before. -/
theorem not_encloses (h : Ahead d e f) : f.node.encloses e.node = false := by
  cases h with
  | apart _ _ hfe => exact hfe
  | around hnode => exact Node.encloses_asymm hnode

theorem contains (h : Ahead d e f) (hnode : e.node.encloses f.node = true) :
    e.span.start ≤ f.span.start ∧ f.span.stop ≤ e.span.stop := by
  cases h with
  | apart _ hef =>
    rw [hef] at hnode
    cases hnode
  | around _ hspan => exact Span.contains_iff.mp hspan

theorem stop_le (h : Ahead d e f) (hnode : e.node.encloses f.node = false) :
    e.span.stop ≤ f.span.start := by
  cases h with
  | apart hspan => exact hspan
  | around hef =>
    rw [hef] at hnode
    cases hnode

theorem precedes (h : Ahead d e f) (he : d.IsSolid e.span) : precedes e f = true := by
  have hlt := he.start_lt_stop
  simp only [Declaration.precedes, Bool.or_eq_true, Bool.and_eq_true, decide_eq_true_eq,
    beq_iff_eq]
  cases h with
  | apart hspan => omega
  | around _ hspan =>
    have := Span.contains_iff.mp hspan
    omega

/-- One declaration goes with another exactly if it lies in it. -/
theorem covers_eq (h : Ahead d e f) (he : d.IsSolid e.span) (hf : d.IsSolid f.span) :
    covers e f = e.node.encloses f.node := by
  have hlte := he.start_lt_stop
  have hltf := hf.start_lt_stop
  cases h with
  | apart hspan hef =>
    rw [hef]
    simp only [covers, Span.contains, Span.overlaps, Bool.or_eq_false_iff, Bool.and_eq_false_iff,
      decide_eq_false_iff_not]
    omega
  | around hnode hspan =>
    rw [hnode, covers, hspan, Bool.true_or]

end Ahead

section
variable {d : Document} {ds : List Declaration}

/-- What is kept are the declarations that no other one encloses. -/
theorem dropRepeats_go_covers {kept : Declaration} {rest : List Declaration}
    (h : (kept :: rest).Pairwise (Ahead d)) (hsolid : ∀ e ∈ kept :: rest, d.IsSolid e.span) :
    Document.dropRepeats.go covers kept rest =
      kept :: rest.filter fun f => !(kept :: rest).any fun e => e.node.encloses f.node := by
  induction rest generalizing kept with
  | nil => rfl
  | cons f rest ih =>
    obtain ⟨hkept, htail⟩ := List.pairwise_cons.mp h
    obtain ⟨hf, hrest⟩ := List.pairwise_cons.mp htail
    have hsolidKept := hsolid kept List.mem_cons_self
    have hsolidTail : ∀ e ∈ f :: rest, d.IsSolid e.span :=
      fun e he => hsolid e (List.mem_cons_of_mem _ he)
    have hcovers := (hkept f List.mem_cons_self).covers_eq hsolidKept
      (hsolidTail f List.mem_cons_self)
    rw [Document.dropRepeats.go, hcovers]
    cases hnode : kept.node.encloses f.node with
    | true =>
      rw [if_pos rfl, ih (List.pairwise_cons.mpr ⟨fun e he => hkept e (List.mem_cons_of_mem _ he),
        hrest⟩) fun e he => ?_, List.filter_cons_of_neg (by simp [hnode])]
      · congr 1
        refine List.filter_congr fun g _ => ?_
        -- what lies in `f` lies in `kept` as well
        have htrans : f.node.encloses g.node = true → kept.node.encloses g.node = true :=
          Node.encloses_trans hnode
        simp only [List.any_cons]
        cases hfg : f.node.encloses g.node with
        | false => rw [Bool.false_or]
        | true => rw [htrans hfg, Bool.true_or, Bool.true_or]
      · rcases List.mem_cons.mp he with rfl | he
        · exact hsolidKept
        · exact hsolidTail e (List.mem_cons_of_mem _ he)
    | false =>
      have hkeep : (!(kept :: f :: rest).any fun e => e.node.encloses f.node) = true := by
        have hlater : ∀ e ∈ rest, e.node.encloses f.node = false :=
          fun e he => (hf e he).not_encloses
        simpa [hnode, Node.encloses_irrefl] using hlater
      rw [if_neg Bool.false_ne_true, ih htail hsolidTail, List.filter_cons, if_pos hkeep]
      congr 2
      refine List.filter_congr fun g hg => ?_
      -- `kept` ends before `f` starts, and `f` starts before `g`
      have hnone : kept.node.encloses g.node = false := by
        refine Bool.eq_false_iff.mpr fun hkg => ?_
        have hstop := (hkept f List.mem_cons_self).stop_le hnode
        have hstart := (hf g hg).start_le (hsolidTail f List.mem_cons_self)
        have hspan := (hkept g (List.mem_cons_of_mem _ hg)).contains hkg
        have hlt := (hsolidTail g (List.mem_cons_of_mem _ hg)).start_lt_stop
        omega
      simp only [List.any_cons, hnone, Bool.false_or]

/-- The reduction finds exactly the outermost declarations that are hidden. -/
theorem outermostHidden_eq_filter (h : ds.Pairwise (Ahead d))
    (hsolid : ∀ e ∈ ds, d.IsSolid e.span) :
    outermostHidden ds = ds.filter (isOutermost ds) := by
  have hhidden : (ds.filter isHidden).Pairwise (Ahead d) := h.sublist List.filter_sublist
  have hsolid' : ∀ e ∈ ds.filter isHidden, d.IsSolid e.span :=
    fun e he => hsolid e (List.mem_filter.mp he).1
  have hsorted : (ds.filter isHidden).mergeSort precedes = ds.filter isHidden := by
    refine List.mergeSort_of_pairwise (hhidden.imp_of_mem fun he _ h => ?_)
    exact h.precedes (hsolid' _ he)
  have hfilter : Document.dropRepeats covers (ds.filter isHidden) =
      (ds.filter isHidden).filter
        fun f => !(ds.filter isHidden).any fun e => e.node.encloses f.node := by
    generalize ds.filter isHidden = l at hhidden hsolid'
    cases l with
    | nil => rfl
    | cons kept rest =>
      have hlater : ∀ e ∈ rest, e.node.encloses kept.node = false :=
        fun e he => ((List.pairwise_cons.mp hhidden).1 e he).not_encloses
      rw [Document.dropRepeats, dropRepeats_go_covers hhidden hsolid', List.filter_cons_of_pos]
      simpa [Node.encloses_irrefl] using hlater
  rw [outermostHidden, hsorted, hfilter, List.filter_filter]
  refine List.filter_congr fun e _ => ?_
  rw [isOutermost, List.any_filter, Bool.and_comm]

end

end Abridge.Declaration
