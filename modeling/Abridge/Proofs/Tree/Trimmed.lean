import Abridge.Proofs.Text.Trim
import Abridge.Proofs.Tree.WellFormed

/-!
Where nodes end, the blanks at their end apart.

Some grammars take the line feed into a node, so reductions cut nodes off behind what can be seen
(`Document.trimmedSpan`). Trimming leaves something of every solid node (`IsSolid.trimmed`), and
only blanks stand behind it (`IsStretch.isBlankText_behind`). A node that does not end behind
another one does not do so after trimming either (`IsSolid.trimmed_stop_le`).
-/
namespace Abridge

namespace Document
variable {d : Document} {n m : Node}

section
variable (h : d.IsStretch n.start n.stop)
include h

/-- A stretch without the blanks at its end is a stretch. -/
theorem IsStretch.trimmed :
    d.IsStretch n.start (d.trimmedSpan n).stop ∧ (d.trimmedSpan n).stop ≤ n.stop := by
  obtain ⟨blanks, heq, -⟩ := Text.exists_eq_trimEnd_append (d.textOf n)
  have hcut := Text.slice_eq_append h.isBoundary_start h.isBoundary_stop h.start_le_stop heq
  have hsize := Text.size_slice h.isBoundary_start h.isBoundary_stop h.start_le_stop
  rw [show d.text.slice n.start n.stop = d.textOf n from rfl, heq, Text.size_append] at hsize
  refine ⟨⟨h.isBoundary_start, hcut.1, (d.trimmedSpan n).start_le_stop⟩, ?_⟩
  show n.start + Text.size (d.textOf n).trimEnd ≤ n.stop
  omega

/-- Only blanks stand between where a node ends but for blanks and where it ends. -/
theorem IsStretch.isBlankText_behind :
    (d.text.slice (d.trimmedSpan n).stop n.stop).isBlankText = true := by
  obtain ⟨blanks, heq, hblank⟩ := Text.exists_eq_trimEnd_append (d.textOf n)
  have hcut := Text.slice_eq_append h.isBoundary_start h.isBoundary_stop h.start_le_stop heq
  exact hcut.2.2.symm ▸ hblank

end

/-- Trimming leaves something of a solid node. -/
theorem IsSolid.start_lt_trimmed (h : d.IsSolid n.span) : n.start < (d.trimmedSpan n).stop := by
  have hjoin : d.textOf n ++ d.text.after n.stop = d.text.after n.start :=
    Text.slice_append_after h.isBoundary_start h.isBoundary_stop h.start_lt_stop.le
  have hne : d.textOf n ≠ [] :=
    Text.slice_ne_nil h.isBoundary_start h.isBoundary_stop h.start_lt_stop
  have hopens : ((d.textOf n).head?.any fun c => !Text.isBlank c) = true := by
    have h' := h.opens
    rw [show n.span.start = n.start from rfl, ← hjoin] at h'
    obtain ⟨c, t, htext⟩ := List.exists_cons_of_ne_nil hne
    rw [htext] at h' ⊢
    exact h'
  exact Nat.lt_add_of_pos_right (Text.size_pos (Text.trimEnd_ne_nil hopens))

theorem IsSolid.isStretch (h : d.IsSolid n.span) : d.IsStretch n.start n.stop :=
  ⟨h.isBoundary_start, h.isBoundary_stop, h.start_lt_stop.le⟩

/-- A solid node stays so when the blanks at its end are left out. -/
theorem IsSolid.trimmed (h : d.IsSolid n.span) : d.IsSolid (d.trimmedSpan n) where
  isBoundary_start := h.isBoundary_start
  isBoundary_stop := h.isStretch.trimmed.1.isBoundary_stop
  start_lt_stop := h.start_lt_trimmed
  opens := h.opens

section
variable (hn : d.IsSolid n.span) (hm : d.IsSolid m.span)
include hn hm

/-- Where only blanks stand between two nodes, only blanks do when those at the end of the first are
left out. -/
theorem IsSolid.isBlankText_between (h : d.lines.onlyBlanksBetween n.stop m.start = true) :
    (d.text.slice (d.trimmedSpan n).stop m.start).isBlankText = true := by
  simp only [Lines.onlyBlanksBetween, Bool.and_eq_true, decide_eq_true_eq] at h
  have hjoin : d.text.slice (d.trimmedSpan n).stop n.stop ++ d.text.slice n.stop m.start =
      d.text.slice (d.trimmedSpan n).stop m.start :=
    Text.slice_append_slice hn.trimmed.isBoundary_stop hn.isBoundary_stop hm.isBoundary_start
      hn.isStretch.trimmed.2 h.1
  rw [← hjoin, Text.isBlankText, List.all_append, Bool.and_eq_true]
  exact ⟨hn.isStretch.isBlankText_behind, h.2⟩

/-- What starts in front of the end of a node does so when the blanks there are left out. -/
theorem IsSolid.start_lt_trimmed_stop (hlt : n.start < m.stop) :
    n.start < (d.trimmedSpan m).stop := by
  by_contra hle
  have hnot := hn.not_isBlankText hm.trimmed.isBoundary_stop hm.isBoundary_stop
    (Nat.le_of_not_lt hle) hlt
  exact absurd hm.isStretch.isBlankText_behind (Bool.eq_false_iff.mp hnot)

/-- What does not end behind a node does not do so either when the blanks at the end of both are
left out. -/
theorem IsSolid.trimmed_stop_le (hstop : n.stop ≤ m.stop) :
    (d.trimmedSpan n).stop ≤ (d.trimmedSpan m).stop := by
  have hlt := hn.start_lt_trimmed_stop hm (hn.start_lt_stop.trans_le hstop)
  rcases Nat.le_total n.stop (d.trimmedSpan m).stop with hle | hle
  · exact hn.isStretch.trimmed.2.trans hle
  · -- From where the second ends but for blanks, the end of the first is blank.
    have hcut := hm.trimmed.isBoundary_stop
    have hjoin : d.text.slice (d.trimmedSpan m).stop n.stop ++ d.text.slice n.stop m.stop =
        d.text.slice (d.trimmedSpan m).stop m.stop :=
      Text.slice_append_slice hcut hn.isBoundary_stop hm.isBoundary_stop hle hstop
    have hblank : (d.text.slice (d.trimmedSpan m).stop n.stop).isBlankText = true := by
      have h := hm.isStretch.isBlankText_behind
      rw [← hjoin, Text.isBlankText, List.all_append, Bool.and_eq_true] at h
      exact h.1
    have hsplit : d.text.slice n.start (d.trimmedSpan m).stop ++
        d.text.slice (d.trimmedSpan m).stop n.stop = d.textOf n :=
      Text.slice_append_slice hn.isBoundary_start hcut hn.isBoundary_stop hlt.le hle
    have hsize : n.start + Text.size (d.text.slice n.start (d.trimmedSpan m).stop) =
        (d.trimmedSpan m).stop := Text.size_slice hn.isBoundary_start hcut hlt.le
    obtain ⟨rest, hrest⟩ : (d.textOf n).trimEnd <+: d.text.slice n.start (d.trimmedSpan m).stop :=
      hsplit ▸ Text.trimEnd_append_isPrefix hblank _
    rw [← hrest, Text.size_append] at hsize
    show n.start + Text.size (d.textOf n).trimEnd ≤ _
    omega

end

end Document

end Abridge
