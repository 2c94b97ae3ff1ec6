import Abridge.Proofs.Comment.Short
import Abridge.Proofs.Document
import Abridge.Proofs.Reduction.Removals
import Abridge.Proofs.Reduction.Steps

/-!
The account of comments.

Comments that go leave a placeholder, those that are cut short a text that reports nothing. Such a
text may end in a bare marker only where the comment runs to the end of its line: either it has its
lines for itself, or the parser saw to it (`Document.LineDocsEnd`).
-/
namespace Abridge

open Placeholder (marker nouns omitted elisions IsClosed IsCapped Opens Settled)

/-- What is relied on of a parser: documentation that does not open as a comment that closes itself
runs to the end of its line. -/
def Document.LineDocsEnd (d : Document) : Prop :=
  ∀ n ∈ d.nodes, d.hasRole n .comment = true →
    (d.language.profile.documentsNext d n || d.language.profile.isDoc d n) = true →
    Comment.opensBlock d.comments (d.textOf n) = false → d.endsLine n = true

/-- Whether an edit can be read apart from what follows it. Where comments can close themselves it
begins with a slash. -/
structure Edit.IsLegible (d : Document) (e : Edit) : Prop where
  settled : Settled d.lines e
  closed : d.language = .python → IsClosed e
  opens : d.language ≠ .python → Opens e.text

namespace Comment

/-- The account of comments. -/
def sorts : List (String × String) :=
  [("comment", "removed.comment")]

theorem isLedger_sorts : IsLedger sorts := by
  decide

variable {d : Document} {config : Config} {count : Counter} {rules : Rules}

theorem isLegible_of_wraps {span : Span} {text : Text} {n : Nat}
    (hwraps : text.Wraps (omitted n "comment".toList))
    (hopens : d.language ≠ .python → Opens text) : Edit.IsLegible d ⟨span, text⟩ := by
  have hclosed : Edit.IsClosed ⟨span, text⟩ := Edit.isClosed_of_wraps (by decide) hwraps
  exact ⟨.inl hclosed, fun _ => hclosed, hopens⟩

/-! ### What is cut short -/

/-- Only documentation is cut short. -/
theorem isDoc_of_truncate {comment : Text} {isDoc : Bool}
    (h : rules.decide comment isDoc = .truncate) : isDoc = true := by
  cases isDoc with
  | true => rfl
  | false =>
    unfold Rules.decide Rules.byPolicy at h
    grind

/-- No comment of Python is documentation. -/
theorem isDoc_python (hl : d.language = .python) (n : Node) :
    (d.language.profile.documentsNext d n || d.language.profile.isDoc d n) = false := by
  have hcomments : d.comments = Grammar.python.comments := by
    rw [Document.comments, Document.grammar, hl]
    rfl
  rw [hl]
  show (false || d.comments.isDoc (d.textOf n)) = false
  rw [hcomments]
  simp [CommentStyle.isDoc, Grammar.python]

/-! ### Segments -/

theorem Item.isAlone_of_continues {a b : Item} (h : a.continues d b = true) :
    a.isAlone = true ∧ b.isAlone = true := by
  simp only [continues, Bool.and_eq_true] at h
  exact h.1.1

/-- In a group of several comments, each has its lines for itself. -/
theorem isAlone_of_isChain {a b : Item} {rest : List Item}
    (h : (a :: b :: rest).IsChain fun x y => Item.continues d x y = true) :
    ∀ item ∈ a :: b :: rest, item.isAlone = true := by
  induction rest generalizing a b with
  | nil =>
    obtain ⟨ha, hb⟩ := Item.isAlone_of_continues (List.isChain_cons_cons.mp h).1
    exact List.forall_mem_cons.mpr ⟨ha, List.forall_mem_singleton.mpr hb⟩
  | cons c rest ih =>
    obtain ⟨hab, hrest⟩ := List.isChain_cons_cons.mp h
    exact List.forall_mem_cons.mpr ⟨(Item.isAlone_of_continues hab).1, ih hrest⟩

section Segments
variable {comments : List Node} {segment : List Verdict} {first last : Verdict}
variable (hsegment : segment ∈ segments d.language.profile d rules comments)
variable (hfirst : segment.head? = some first) (hlast : segment.getLast? = some last)
include hsegment hfirst hlast

/-- The first and the last comment of a segment, in the order of the document. -/
theorem exists_nodes_of_segment (hsorted : comments.Pairwise fun a b => a.start ≤ b.start) :
    ∃ n ∈ comments, ∃ m ∈ comments, first.item = Item.of d n ∧ last.item = Item.of d m ∧
      n.start ≤ m.start := by
  obtain ⟨group, hgroup, hrun⟩ := exists_group_of_mem_segments hsegment
  have hsub : (segment.map Verdict.item).Sublist (comments.map (Item.of d)) := by
    have hall : group.Sublist (comments.map (Item.of d)) := by
      rw [← List.flatten_splitBy (Item.continues d) (comments.map (Item.of d))]
      exact List.sublist_flatten_of_mem hgroup
    have hgroup' := hrun.sublist.map Verdict.item
    rw [map_item_judge] at hgroup'
    exact hgroup'.trans hall
  have hmem : ∀ v ∈ segment, ∃ n ∈ comments, v.item = Item.of d n := by
    intro v hv
    obtain ⟨n, hn, heq⟩ := List.mem_map.mp (hsub.subset (List.mem_map_of_mem hv))
    exact ⟨n, hn, heq.symm⟩
  have hstarts : (segment.map Verdict.item).Pairwise fun a b => a.node.start ≤ b.node.start :=
    List.Pairwise.sublist hsub (List.pairwise_map.mpr hsorted)
  obtain ⟨n, hn, hfirst'⟩ := hmem first (List.mem_of_mem_head? hfirst)
  obtain ⟨m, hm, hlast'⟩ := hmem last (List.mem_of_mem_getLast? hlast)
  refine ⟨n, hn, m, hm, hfirst', hlast', ?_⟩
  have hle : first.item.node.start ≤ last.item.node.start := by
    cases segment with
    | nil => cases hfirst
    | cons v rest =>
      obtain rfl := Option.some.inj hfirst
      have hlast'' := List.mem_of_mem_getLast? hlast
      rcases List.mem_cons.mp hlast'' with rfl | hin
      · exact Nat.le_refl _
      · exact (List.pairwise_cons.mp hstarts).1 last.item (List.mem_map_of_mem hin)
  rw [hfirst', hlast'] at hle
  exact hle

omit hfirst hlast in
/-- The fate of a comment is decided in its group. -/
theorem exists_group_of_segment :
    ∃ group ∈ groups d comments,
      ∀ v ∈ segment, ∃ item ∈ group, v = ⟨item, rules.decide (d.textOf item.node)
        ((group.getLast?.any fun last => d.language.profile.documentsNext d last.node) ||
          d.language.profile.isDoc d item.node)⟩ := by
  obtain ⟨group, hgroup, hrun⟩ := exists_group_of_mem_segments hsegment
  refine ⟨group, hgroup, fun v hv => ?_⟩
  obtain ⟨item, hitem, heq⟩ := List.mem_map.mp (hrun.subset hv)
  exact ⟨item, hitem, heq.symm⟩

/-- A comment that is cut short is documentation by itself or by its place, or the last comment of
its segment has its lines for itself. -/
theorem isDoc_or_isAlone (hfate : first.fate = .truncate) :
    (first = last ∧ (d.language.profile.documentsNext d first.item.node ||
      d.language.profile.isDoc d first.item.node) = true) ∨ last.item.isAlone = true := by
  obtain ⟨group, hgroup, hmem⟩ := exists_group_of_segment hsegment
  obtain ⟨item, hitem, hfirst'⟩ := hmem first (List.mem_of_mem_head? hfirst)
  obtain ⟨item', hitem', hlast'⟩ := hmem last (List.mem_of_mem_getLast? hlast)
  rcases group with _ | ⟨a, _ | ⟨b, rest⟩⟩
  · exact absurd hitem List.not_mem_nil
  · obtain rfl := List.mem_singleton.mp hitem
    obtain rfl := List.mem_singleton.mp hitem'
    refine .inl ⟨hfirst'.trans hlast'.symm, ?_⟩
    rw [hfirst'] at hfate ⊢
    exact isDoc_of_truncate hfate
  · refine .inr ?_
    rw [hlast']
    exact isAlone_of_isChain (List.isChain_of_mem_splitBy hgroup) item' hitem'

omit hlast in
/-- In Python no comment is cut short. -/
theorem ne_python_of_truncate (hfate : first.fate = .truncate) : d.language ≠ .python := by
  intro hl
  obtain ⟨group, -, hmem⟩ := exists_group_of_segment hsegment
  obtain ⟨item, -, hfirst'⟩ := hmem first (List.mem_of_mem_head? hfirst)
  rw [hfirst'] at hfate
  have hdoc := isDoc_of_truncate hfate
  have hnone : ∀ n, d.language.profile.documentsNext d n = false ∧
      d.language.profile.isDoc d n = false :=
    fun n => Bool.or_eq_false_iff.mp (isDoc_python hl n)
  rw [(hnone item.node).2, Bool.or_false] at hdoc
  obtain ⟨last, -, hlast⟩ := (Option.any_eq_true _ _).mp hdoc
  rw [(hnone last.node).1] at hlast
  cases hlast

end Segments

/-! ### The draft -/

/-- What comments say has no marker if the document has none. -/
theorem not_mem_bodyOf (hmarker : marker ∉ d.text) (segment : List Verdict) :
    marker ∉ bodyOf d segment := by
  intro h
  rcases Text.mem_of_mem_join h with h | ⟨t, ht, h⟩
  · exact absurd h (by decide)
  · obtain ⟨v, -, rfl⟩ := List.mem_map.mp ht
    rcases CommentStyle.mem_of_mem_stripMarkers h with h | h
    · exact absurd h (by decide)
    · exact hmarker (Text.mem_of_mem_slice h)

/-- A docstring that is cut short keeps its delimiters. -/
theorem exists_of_shorten {profile : Profile} {string : Node} {text : Text}
    (h : judgeDocstring profile d rules string = .shorten text) :
    ∃ shape short, profile.stringShape? d string = some shape ∧
      rules.shorten (d.lines.textOf shape.content) = some short ∧
      text = shape.opener ++ fitBefore shape.closer short ++ shape.closer := by
  unfold judgeDocstring at h
  split at h
  · cases h
  split at h
  · cases h
  split at h
  · cases h
  · cases h
  split at h
  · cases h
  next shape hshape =>
    split at h
    · cases h
    · cases h
    next short _ hshort => exact ⟨shape, short, hshape, hshort, (DocstringFate.shorten.inj h).symm⟩

/-- Python alone has docstrings. -/
theorem docstrings_eq_nil (hl : d.language ≠ .python) : d.language.profile.docstrings d = [] := by
  cases h : d.language <;> first | exact absurd h hl | rfl

section Draft
variable {draft : Draft} (hmarker : marker ∉ d.text)
include hmarker

/-- A comment that is cut short reports nothing, and can be read apart from what follows it. -/
theorem isLegible_render (hparsed : d.LineDocsEnd) {comments : List Node}
    (hcomments : ∀ n ∈ comments, n ∈ d.nodes ∧ d.hasRole n .comment = true)
    (hsorted : comments.Pairwise fun a b => a.start ≤ b.start) {segment : List Verdict}
    {first last : Verdict} (hsegment : segment ∈ segments d.language.profile d rules comments)
    (hfirst : segment.head? = some first) (hlast : segment.getLast? = some last)
    (hfate : first.fate = .truncate) {short : Text}
    (hshort : rules.shorten (bodyOf d segment) = some short) :
    let text := render d.comments (d.textOf first.item.node) short
    elisions text = [] ∧
      Edit.IsLegible d ⟨(removalOf first.item last.item segment.length).span, text⟩ := by
  obtain ⟨n, hn, m, hm, hfirst', hlast', hle⟩ :=
    exists_nodes_of_segment hsegment hfirst hlast hsorted
  have hisDoc := isDoc_or_isAlone hsegment hfirst hlast hfate
  have hcapped := shorten_isCapped (not_mem_bodyOf hmarker segment) hshort
  have hl := ne_python_of_truncate hsegment hfirst hfate
  intro text
  cases hblock : opensBlock d.comments (d.textOf first.item.node) with
  | true =>
    obtain ⟨hclosed, hnil, hopens⟩ := render_block hl hblock hcapped
    exact ⟨hnil, .inl hclosed, fun h => absurd h hl, fun _ => hopens⟩
  | false =>
    obtain ⟨htext, hopens⟩ := render_line hl hblock hcapped
    refine ⟨htext.elisions_eq_nil, .inr ⟨htext, ?_⟩, fun h => absurd h hl, fun _ => hopens⟩
    have hends : d.endsLine m = true := by
      rcases hisDoc with ⟨rfl, hdoc⟩ | halone
      · obtain rfl : n = m := congrArg Item.node (hfirst'.symm.trans hlast')
        rw [hfirst'] at hdoc hblock
        exact hparsed n (hcomments n hn).1 (hcomments n hn).2 hdoc hblock
      · rw [hlast'] at halone
        exact (Bool.and_eq_true_iff.mp halone).2
    have hstop : (removalOf first.item last.item segment.length).span.stop =
        (d.trimmedSpan m).stop := by
      show max last.item.span.stop first.item.span.start = _
      rw [hfirst', hlast']
      exact Nat.max_eq_left (Nat.le_trans hle (d.trimmedSpan m).start_le_stop)
    rw [hstop]
    exact hends

/-- What becomes of a segment is accounted for. -/
theorem IsAccounted.treatSegment (hparsed : d.LineDocsEnd) {comments : List Node}
    (hcomments : ∀ n ∈ comments, n ∈ d.nodes ∧ d.hasRole n .comment = true)
    (hsorted : comments.Pairwise fun a b => a.start ≤ b.start) {segment : List Verdict}
    (hsegment : segment ∈ segments d.language.profile d rules comments)
    (h : draft.IsAccounted d sorts (Edit.IsLegible d)) :
    (treatSegment d rules draft segment).IsAccounted d sorts (Edit.IsLegible d) := by
  have hremove : ∀ first last : Item,
      (draft.remove d (removalOf first last segment.length)).IsAccounted d sorts
        (Edit.IsLegible d) :=
    fun first last => h.remove isLedger_sorts (by simp [removalOf]; decide)
      fun _ hwraps hopens => isLegible_of_wraps hwraps hopens
  unfold Comment.treatSegment
  split
  next first last hfirst hlast =>
    simp only
    split
    · exact h
    · exact hremove _ _
    next hfate =>
      split
      · exact h
      · exact hremove _ _
      next short _ hshort =>
        obtain ⟨hnil, hlegible⟩ := isLegible_render hmarker hparsed hcomments hsorted hsegment
          hfirst hlast hfate hshort
        exact h.pass (by decide) hnil hlegible
  · exact h

/-- A docstring that is cut short reports nothing. -/
theorem isLegible_shorten {string : Node} (hl : d.language = .python) {text : Text}
    (h : judgeDocstring d.language.profile d rules string = .shorten text) :
    elisions text = [] ∧ Edit.IsLegible d ⟨string.span, text⟩ := by
  obtain ⟨shape, short, hshape, hshort, rfl⟩ := exists_of_shorten h
  have hshape' : StringShape.ofText? (d.textOf string) string.start = some shape := by
    rw [hl] at hshape
    exact hshape
  have hmem : ∀ span, marker ∉ d.lines.textOf span :=
    fun span hin => hmarker (Text.mem_of_mem_slice hin)
  obtain ⟨hclosed, hnil⟩ := isClosed_docstring hshape' (hmem string.span)
    (shorten_isCapped (hmem shape.content) hshort)
  exact ⟨hnil, .inl hclosed, fun _ => hclosed, fun h => absurd hl h⟩

theorem IsAccounted.treatDocstrings (h : draft.IsAccounted d sorts (Edit.IsLegible d)) :
    (treatDocstrings d.language.profile d rules draft).IsAccounted d sorts (Edit.IsLegible d) := by
  have hpython : ∀ s ∈ d.language.profile.docstrings d, d.language = .python := by
    intro s hs
    by_contra hl
    rw [docstrings_eq_nil hl] at hs
    cases hs
  have hshortened : ∀ judged : List (Node × DocstringFate),
      (∀ j ∈ judged, j.1 ∈ d.language.profile.docstrings d ∧
        j.2 = judgeDocstring d.language.profile d rules j.1) →
      ∀ draft : Draft, draft.IsAccounted d sorts (Edit.IsLegible d) →
        (judged.foldl shortenDocstring draft).IsAccounted d sorts (Edit.IsLegible d) := by
    intro judged
    induction judged with
    | nil => exact fun _ _ h => h
    | cons j rest ih =>
      intro hjudged draft h
      refine ih (fun k hk => hjudged k (List.mem_cons_of_mem j hk)) _ ?_
      obtain ⟨hstring, hfate⟩ := hjudged j List.mem_cons_self
      unfold shortenDocstring
      split
      next text htext =>
        obtain ⟨hnil, hlegible⟩ := isLegible_shorten hmarker (hpython j.1 hstring)
          (hfate.symm.trans htext)
        exact h.pass (by decide) hnil hlegible
      · exact h
  unfold Comment.treatDocstrings
  simp only
  rw [← List.foldl_map (f := fun s => (⟨s.span, s, 1, "comment"⟩ : Removal)) (g := Draft.remove d)]
  refine Draft.IsAccounted.foldl_remove isLedger_sorts
    ((hshortened _ ?_ draft h).withStubs (Stubs.isOf_plan _ _)) ?_ ?_
  · intro j hj
    obtain ⟨s, hs, rfl⟩ := List.mem_map.mp hj
    exact ⟨hs, rfl⟩
  · intro r hr
    obtain ⟨s, -, rfl⟩ := List.mem_map.mp hr
    show ("comment", Draft.removedKey "comment") ∈ sorts
    decide
  · intro r hr text hwraps hopens
    obtain ⟨s, -, rfl⟩ := List.mem_map.mp hr
    exact isLegible_of_wraps hwraps hopens

/-- What is done to comments is accounted for. -/
theorem draft_isAccounted (hparsed : d.LineDocsEnd) {comments : List Node}
    (hcomments : ∀ n ∈ comments, n ∈ d.nodes ∧ d.hasRole n .comment = true)
    (hsorted : comments.Pairwise fun a b => a.start ≤ b.start) :
    (Comment.draft rules (d.job config count) comments).IsAccounted d sorts
      (Edit.IsLegible d) := by
  have hsub : (touchable d.language.profile d comments).Sublist comments := List.filter_sublist
  have hrun : ∀ rest : List (List Verdict),
      (∀ segment ∈ rest,
        segment ∈ segments d.language.profile d rules (touchable d.language.profile d comments)) →
      ∀ draft : Draft, draft.IsAccounted d sorts (Edit.IsLegible d) →
        (rest.foldl (Comment.treatSegment d rules) draft).IsAccounted d sorts
          (Edit.IsLegible d) := by
    intro rest
    induction rest with
    | nil => exact fun _ _ h => h
    | cons segment rest ih =>
      intro hrest draft h
      refine ih (fun s hs => hrest s (List.mem_cons_of_mem segment hs)) _ ?_
      exact IsAccounted.treatSegment hmarker hparsed (fun n hn => hcomments n (hsub.subset hn))
        (hsorted.sublist hsub) (hrest segment List.mem_cons_self) h
  exact IsAccounted.treatDocstrings hmarker
    (hrun _ (fun _ h => h) _ (Draft.isAccounted_of d sorts _))

end Draft

end Comment

end Abridge
