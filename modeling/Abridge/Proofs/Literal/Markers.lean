import Abridge.Proofs.Literal.Shape
import Abridge.Proofs.Literal.Treatment
import Abridge.Proofs.Literal.Trimming
import Abridge.Proofs.Reduction.Removals
import Abridge.Proofs.Text.Chars
import Mathlib.Data.List.TakeWhile

/-!
The markers that trimmed literals bring into a text.

A trimmed collection has as many as it says (`count_marker_of_trimCollection?`). A trimmed string
has none, but the note about it has one, and the note always finds a place: literals are treated in
the order of their starts, so that no edit before it reaches behind the string
(`insert?_of_startsBy`).
-/
namespace Abridge

open Placeholder (marker)

namespace Literal

variable {d : Document} {config : Config} {count : Counter}

/-! ### Collections -/

theorem count_marker_more (missing : Nat) : (Placeholder.more missing).count marker = 1 := by
  rw [Placeholder.more, List.count_append, List.count_append,
    List.count_eq_zero_of_not_mem (Placeholder.not_mem_decimal missing)]
  decide

/-- What stands for missing elements has one marker. -/
theorem Layout.IsEnding.count_marker {l : Layout} {anyKept : Bool} {missing : Nat} {t : Text}
    (h : l.IsEnding anyKept missing t) : t.count marker = 1 := by
  obtain ⟨before, comment, behind, rfl, hbefore, hbehind, hcomment⟩ := h
  have hstyle : ∀ s ∈ l.document.comments.delimiters, marker ∉ s.toList :=
    l.document.language.not_mem_delimiters
  have hone : comment.count marker = 1 := by
    rw [← count_marker_more missing]
    rcases hcomment with hblock | ⟨rfl, -⟩
    · exact (wraps_blockComment? hstyle hblock).count_marker
    · exact (wraps_lineComment hstyle _).count_marker
  have hcomma : (if anyKept then [','] else ([] : Text)).count marker = 0 := by
    cases anyKept <;> decide
  simp only [List.count_append, hcomma, hone,
    List.count_eq_zero_of_not_mem (Placeholder.not_mem_of_isBlankText hbefore),
    List.count_eq_zero_of_not_mem (Placeholder.not_mem_of_isBlankText hbehind)]

/-- A trimmed collection has a marker at each level where elements are missing. -/
theorem Trims.count_marker (hmarker : marker ∉ d.text) {profile : Profile} {n : Node} {text : Text}
    {levels : List Level} (h : Trims profile d n text levels) :
    text.count marker = levels.countP Level.isMarked := by
  have hbetween : ∀ start stop, (d.textBetween start stop).count marker = 0 :=
    fun start stop => List.count_eq_zero_of_not_mem fun h => hmarker (Text.mem_of_mem_slice h)
  induction h with
  | @cut n l k _ hl hk hending =>
    obtain ⟨rfl, rfl⟩ := document_of_layout? hl
    rw [countP_isMarked_cons (Nat.sub_pos_of_lt hk)]
    simp [Layout.head, Layout.closer, hbetween, hending.count_marker]
  | @last n l k _ _ _ _ hl hk hboundary hnested hinner ih =>
    obtain ⟨rfl, rfl⟩ := document_of_layout? hl
    simp [Layout.lead, Layout.head, hbetween, ih, Level.isMarked]
  | @inside n l k _ _ _ _ _ hl hk hboundary hnested hinner hending ih =>
    obtain ⟨rfl, rfl⟩ := document_of_layout? hl
    rw [countP_isMarked_cons (by omega)]
    simp [Layout.lead, Layout.head, Layout.closer, hbetween, hending.count_marker, ih]

/-- A trimmed collection has as many markers as it says. -/
theorem count_marker_of_trimCollection? (hmarker : marker ∉ d.text) {profile : Profile} {n : Node}
    {budget : Nat} {t : Trimmed} (h : trimCollection? profile d count n budget = some t) :
    t.text.count marker = t.markers := by
  obtain ⟨levels, htrims, hmarkers⟩ := trims_of_trimCollection? h
  rw [htrims.count_marker hmarker, hmarkers]

/-! ### Strings -/

/-- The delimiters of a string are read off its text. -/
theorem exists_ofText?_of_stringShape? {n : Node} {shape : StringShape}
    (h : d.language.profile.stringShape? d n = some shape) :
    ∃ read : StringShape, StringShape.ofText? (d.textOf n) n.start = some read ∧
      read.opener = shape.opener ∧ read.closer = shape.closer := by
  cases hl : d.language <;> rw [hl] at h
  case go =>
    obtain ⟨read, hread, rfl⟩ := Option.map_eq_some_iff.mp h
    exact ⟨read, hread, rfl, rfl⟩
  all_goals exact ⟨shape, h, rfl, rfl⟩

theorem textOf_ne_nil_of_stringShape? {n : Node} {shape : StringShape}
    (h : d.language.profile.stringShape? d n = some shape) : d.textOf n ≠ [] := by
  obtain ⟨read, hread, -⟩ := exists_ofText?_of_stringShape? h
  obtain ⟨lead, q, rest, -, -, -, heq, -⟩ := StringShape.ofText?_eq_some_iff.mp hread
  rw [heq]
  exact List.append_ne_nil_of_right_ne_nil lead (List.cons_ne_nil q rest)

/-- The delimiters of a string of a document without markers. -/
theorem not_mem_of_stringShape? (hmarker : marker ∉ d.text) {n : Node} {shape : StringShape}
    (h : d.language.profile.stringShape? d n = some shape) :
    marker ∉ shape.opener ∧ marker ∉ shape.closer := by
  have htext : marker ∉ d.textOf n := fun hmem => hmarker (Text.mem_of_mem_slice hmem)
  obtain ⟨read, hread, hopener, hcloser⟩ := exists_ofText?_of_stringShape? h
  obtain ⟨-, ho, hc, -⟩ := StringShape.not_mem_of_ofText? hread htext
  exact ⟨hopener ▸ ho, hcloser ▸ hc⟩

/-- What is cut out of the middle of a literal that holds something is not empty. -/
theorem start_lt_stop_of_textOf {n : Node} (h : d.textOf n ≠ []) : n.start < n.stop := by
  refine Nat.lt_of_le_of_ne n.span.start_le_stop fun heq => h ?_
  show d.lines.text.slice n.start n.stop = []
  rw [← heq]
  unfold Text.slice Text.slice?
  split
  · rw [Nat.sub_self, Text.before_zero]
    rfl
  · rfl

theorem not_mem_keptContent? {shape : StringShape} {content kept : Text} {max : Nat}
    (hcontent : marker ∉ content) (h : keptContent? count shape content max = some kept) :
    marker ∉ kept := by
  unfold keptContent? at h
  simp only at h
  split at h
  · cases h
  · obtain rfl := Option.some.inj h
    intro hmem
    refine hcontent ?_
    rw [← Text.before_append_after content]
    exact List.mem_append_left _ hmem

/-- A note comes behind its string, on the same line and with closing marks in between at most. -/
theorem note?_place {stop : Nat} {text : Text} {noteAt : Nat} {note : Text}
    (h : note? d stop text = some (noteAt, note)) :
    ∃ front back, d.lines.lineRest stop = front ++ back ∧ (∀ c ∈ front, isTail c = true) ∧
      noteAt = stop + front.size := by
  unfold note? at h
  simp only at h
  split at h
  next htail =>
    obtain ⟨back, hback⟩ := Text.trimEnd_isPrefix (d.lines.lineRest stop)
    refine ⟨_, back, hback.symm, fun c hc => ?_, (Prod.mk.inj (Option.some.inj h)).1.symm⟩
    have hall := List.dropWhile_eq_nil_iff.mp (List.isEmpty_iff.mp htail)
    exact hall c (hback ▸ List.mem_append_left back hc)
  · split at h
    · exact ⟨_, _, List.takeWhile_append_dropWhile.symm,
        fun c hc => List.all_eq_true.mp List.all_takeWhile c hc,
        (Prod.mk.inj (Option.some.inj h)).1.symm⟩
    · obtain ⟨comment, -, heq⟩ := Option.map_eq_some_iff.mp h
      exact ⟨[], _, rfl, fun _ hc => absurd hc List.not_mem_nil, (Prod.mk.inj heq).1.symm⟩

theorem count_marker_of_note? {stop : Nat} {text : Text} {noteAt : Nat} {note : Text}
    (h : note? d stop text = some (noteAt, note)) : note.count marker = text.count marker := by
  have hspace : ([' '] : Text).count marker = 0 := by decide
  have hline : (d.comments.lineComment text).count marker = text.count marker :=
    (wraps_lineComment d.language.not_mem_delimiters text).count_marker
  unfold note? at h
  simp only at h
  split at h
  · rw [← (Prod.mk.inj (Option.some.inj h)).2, List.count_append, hspace, hline, Nat.zero_add]
  · split at h
    · rw [← (Prod.mk.inj (Option.some.inj h)).2, List.count_append, hspace, hline, Nat.add_zero]
    · obtain ⟨comment, hcomment, heq⟩ := Option.map_eq_some_iff.mp h
      have hblock := (wraps_blockComment? d.language.not_mem_delimiters hcomment).count_marker
      rw [← (Prod.mk.inj heq).2, List.count_append, hspace, hblock, Nat.zero_add]

/-- A note stands between two characters behind its string, and only closing marks stand between
them. -/
theorem note?_spec {stop : Nat} {text : Text} {noteAt : Nat} {note : Text}
    (hstop : d.text.isBoundary stop = true) (h : note? d stop text = some (noteAt, note)) :
    d.text.isBoundary noteAt = true ∧ stop ≤ noteAt ∧
      ∀ c ∈ d.text.slice stop noteAt, isTail c = true := by
  obtain ⟨front, back, hsplit, htail, rfl⟩ := note?_place h
  have hrest : d.lines.lineRest stop = (d.text.after stop).takeWhile (· ≠ '\n') :=
    Lines.lineRest_eq hstop
  obtain ⟨a, c, hac, rfl⟩ := Text.isBoundary_iff.mp hstop
  have hafter : d.text.after a.size = front ++ (back ++
      (d.text.after a.size).dropWhile (· ≠ '\n')) := by
    rw [← List.append_assoc, ← hsplit, hrest, List.takeWhile_append_dropWhile]
  refine ⟨?_, Nat.le_add_right _ _, ?_⟩
  · rw [hac, Text.after_append_size] at hafter
    rw [hac, hafter, ← Text.size_append, ← List.append_assoc]
    exact Text.isBoundary_append_size _ _
  · rwa [Text.slice_of_after hstop hafter]

theorem count_marker_literalString (saved : Nat) :
    (Placeholder.literalString saved).count marker = 1 := by
  rw [Placeholder.literalString, List.count_append, List.count_append, List.count_append,
    List.count_eq_zero_of_not_mem (Placeholder.not_mem_decimal saved)]
  decide

/-- A string that is trimmed is not empty, and the note about it has a place behind it. -/
theorem note?_of_trimString? {n : Node} {before max : Nat} {t : TrimmedString}
    (h : trimString? d.language.profile d count n before max = some t) :
    n.start < n.stop ∧ ∃ saved, note? d n.stop (Placeholder.literalString saved) =
      some (t.noteAt, t.note) := by
  obtain ⟨shape, _, hshape, -, -, -, hnote⟩ := exists_of_trimString? h
  exact ⟨start_lt_stop_of_textOf (textOf_ne_nil_of_stringShape? hshape), _, hnote⟩

/-- A trimmed string has no marker, and the note about it one. -/
theorem count_marker_of_trimString? (hmarker : marker ∉ d.text) {n : Node} {before max : Nat}
    {t : TrimmedString} (h : trimString? d.language.profile d count n before max = some t) :
    t.text.count marker = 0 ∧ t.note.count marker = 1 := by
  obtain ⟨shape, kept, hshape, hcontent, htext, -, hnote⟩ := exists_of_trimString? h
  refine ⟨?_, (count_marker_of_note? hnote).trans (count_marker_literalString _)⟩
  obtain ⟨hopener, hcloser⟩ := not_mem_of_stringShape? hmarker hshape
  have hkept := not_mem_keptContent? (fun hmem => hmarker (Text.mem_of_mem_slice hmem)) hcontent
  rw [htext, StringShape.rebuild, List.count_append, List.count_append,
    List.count_eq_zero_of_not_mem hopener, List.count_eq_zero_of_not_mem hkept,
    List.count_eq_zero_of_not_mem hcloser]

/-! ### The draft -/

/-- Whether an edit, if it replaces something, starts at or in front of an offset. -/
def StartsBy (offset : Nat) (e : Edit) : Prop :=
  e.span.isEmpty = false → e.span.start ≤ offset

/-- Whether a draft has no replacement behind an offset, and as many markers as it counts. -/
structure IsMarked (d : Document) (offset : Nat) (draft : Draft) : Prop where
  keeps : draft.Keeps d d.language.profile (StartsBy offset)
  balances : draft.Balances (List.count marker) removedKey

section
variable {draft : Draft} {offset : Nat}

theorem IsMarked.mono (h : IsMarked d offset draft) {offset' : Nat} (hle : offset ≤ offset') :
    IsMarked d offset' draft :=
  ⟨⟨h.keeps.source, h.keeps.sound, h.keeps.stubs,
    fun e he hne => Nat.le_trans (h.keeps.edits e he hne) hle⟩, h.balances⟩

/-- Behind a string that collides with nothing there is room for a note. -/
theorem insert?_of_startsBy {queue queue' : EditQueue} (hq : queue.source = d.text)
    (hedits : ∀ e ∈ queue.edits, StartsBy offset e) {span : Span} {text : Text}
    (hoffset : offset ≤ span.start) (hspan : span.start < span.stop)
    (hqueue : queue.replace? span text = some queue') {noteAt : Nat}
    (hboundary : d.text.isBoundary noteAt = true) (hle : span.stop ≤ noteAt) (note : Text) :
    queue'.insert? noteAt note =
      some { queue' with edits := queue'.edits ++ [⟨.point noteAt, note⟩] } := by
  obtain ⟨-, hcollides, rfl⟩ := EditQueue.replace?_eq_some_iff.mp hqueue
  refine EditQueue.replace?_eq_some_iff.mpr ⟨?_, ?_, rfl⟩
  · show (queue.source.isBoundary noteAt && queue.source.isBoundary noteAt) = true
    rw [hq, hboundary]
    rfl
  · refine EditQueue.collides_eq_false_iff.mpr fun e he => ?_
    have hpoint : (Span.point noteAt).isEmpty = true := beq_self_eq_true noteAt
    rw [Span.collides_of_isEmpty hpoint]
    show (decide (e.span.start < noteAt) && decide (noteAt < e.span.stop)) = false
    rcases List.mem_append.mp he with he | he
    · have hcol : span.collides e.span = false := EditQueue.collides_eq_false_iff.mp hcollides e he
      cases hempty : e.span.isEmpty with
      | true =>
        have heq := Span.isEmpty_iff.mp hempty
        grind
      | false =>
        have hspan' : span.isEmpty = false := by
          rw [Bool.eq_false_iff]
          exact fun h => absurd (Span.isEmpty_iff.mp h) (Nat.ne_of_lt hspan)
        have hstart := hedits e he hempty
        rw [Span.collides_of_nonempty hspan' hempty] at hcol
        simp only [Span.overlaps, Bool.and_eq_false_iff, decide_eq_false_iff_not] at hcol ⊢
        omega
    · obtain rfl := List.mem_singleton.mp he
      simp only [Bool.and_eq_false_iff, decide_eq_false_iff_not]
      omega

theorem IsMarked.replaceString (hmarker : marker ∉ d.text) (h : IsMarked d offset draft) {n : Node}
    (hoffset : offset ≤ n.start) {before max : Nat} {t : TrimmedString}
    (ht : trimString? d.language.profile d count n before max = some t) :
    IsMarked d n.start (replaceString draft n.span t) := by
  unfold Literal.replaceString
  split
  · exact h.mono hoffset
  next queue hqueue =>
    have hsource : draft.queue.source = d.text := h.keeps.source
    obtain ⟨hfits, -, hqueue'⟩ := EditQueue.replace?_eq_some_iff.mp hqueue
    have hstop : d.text.isBoundary n.stop = true := by
      rw [← hsource]
      exact (Bool.and_eq_true_iff.mp hfits).2
    obtain ⟨hspan, saved, hplace⟩ := note?_of_trimString? ht
    obtain ⟨hboundary, hle, -⟩ := note?_spec hstop hplace
    obtain ⟨htext, hnote⟩ := count_marker_of_trimString? hmarker ht
    have hinsert := insert?_of_startsBy hsource h.keeps.edits hoffset hspan hqueue hboundary hle
      t.note
    have hsound := (h.keeps.sound.replace? hqueue).replace? hinsert
    rw [hinsert, Option.getD_some]
    subst hqueue'
    refine ⟨⟨hsource, hsound, h.keeps.stubs, fun e he hne => ?_⟩,
      ⟨Tally.isSorted_incr h.balances.sorted _ _, fun hlimit => ?_⟩⟩
    · rcases List.mem_append.mp he with he | he
      · rcases List.mem_append.mp he with he | he
        · exact Nat.le_trans (h.keeps.edits e he hne) hoffset
        · obtain rfl := List.mem_singleton.mp he
          exact Nat.le_refl _
      · obtain rfl := List.mem_singleton.mp he
        exact absurd (beq_self_eq_true t.noteAt) (Bool.eq_false_iff.mp hne)
    · have hget := Tally.get_incr h.balances.sorted removedKey removedKey 1
      rw [if_pos rfl] at hget
      have hold := h.balances.total_eq (by simp only [hget] at hlimit; omega)
      simp only [hget, List.map_append, total_append, hold, List.map_cons, List.map_nil,
        total_cons, total_nil, htext, hnote]

theorem IsMarked.treat (hmarker : marker ∉ d.text) (h : IsMarked d offset draft) (max : Nat)
    {capture : Document.Capture} (hoffset : offset ≤ capture.node.start) :
    IsMarked d capture.node.start (treat (d.job config count) max draft capture) := by
  have hsame := h.mono hoffset
  have hcases := treats (d.job config count) max draft capture
  generalize Literal.treat (d.job config count) max draft capture = after at hcases ⊢
  cases hcases with
  | kept => exact hsame
  | string _ _ htrim => exact h.replaceString hmarker hoffset htrim
  | collection _ _ _ htrim _ =>
    refine ⟨hsame.keeps.replace _ _ fun _ => Nat.le_refl _, hsame.balances.replace _ fun _ => ?_⟩
    rw [if_pos rfl]
    exact count_marker_of_trimCollection? hmarker htrim

/-- The markers of the draft are those that it counts. -/
theorem draft_isMarked (hmarker : marker ∉ d.text) (max : Nat) {captures : List Document.Capture}
    (hsorted : captures.Pairwise fun a b => a.node.start ≤ b.node.start) :
    ∃ offset, IsMarked d offset (Literal.draft (d.job config count) max captures) := by
  have hrun : ∀ (captures : List Document.Capture) (draft : Draft) (offset : Nat),
      captures.Pairwise (fun a b => a.node.start ≤ b.node.start) →
      (∀ c ∈ captures, offset ≤ c.node.start) → IsMarked d offset draft →
      ∃ offset', IsMarked d offset'
        (captures.foldl (Literal.treat (d.job config count) max) draft) := by
    intro captures
    induction captures with
    | nil => exact fun _ offset _ _ h => ⟨offset, h⟩
    | cons c rest ih =>
      intro draft offset hsorted hoffset h
      obtain ⟨hc, hrest⟩ := List.pairwise_cons.mp hsorted
      exact ih _ _ hrest hc (h.treat hmarker max (hoffset c List.mem_cons_self))
  exact hrun captures _ 0 hsorted (fun _ _ => Nat.zero_le _)
    ⟨Draft.keeps_of d _ _, Draft.balances_of d _ _⟩

end

end Literal

end Abridge
