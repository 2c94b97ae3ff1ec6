import Abridge.Proofs.Comment.Account
import Abridge.Proofs.Reduction.Captured
import Abridge.Proofs.Text.Lines
import Abridge.Proofs.Tree.Laminar
import Abridge.Proofs.Tree.Trimmed

/-!
How far the reduction of comments reaches.

A segment is taken out as one stretch, from its first comment to its last, whatever stands between.
That is blanks alone, since each comment of a group of several has its lines for itself and the
lines follow each other (`isBlankText_of_continues`). So an edit covers comments that may be
touched, blanks between two of them, and statements of docstrings (`IsReached`). Nothing of what
lies apart from these nodes in the tree is covered (`IsSpared.not_isReached`), and so it stands in
the result as it was (`Reduction.comments_rewrites_comments_alone`).
-/
namespace Abridge

namespace Comment
variable {d : Document} {profile : Profile} {rules : Rules} {comments : List Node}

/-! ### Between the comments of a group -/

/-- Between two comments of which the second goes on with the first stand only blanks. -/
theorem isBlankText_of_continues {n m : Node} (hn : d.IsStretch n.start n.stop)
    (hm : d.IsStretch m.start m.stop) (h : Item.continues d (.of d n) (.of d m) = true) :
    d.IsStretch (d.trimmedSpan n).stop m.start ∧
      (d.textBetween (d.trimmedSpan n).stop m.start).isBlankText = true := by
  simp only [Item.continues, Item.of, Bool.and_eq_true, beq_iff_eq] at h
  obtain ⟨⟨⟨⟨-, hends⟩, hstarts, -⟩, hline⟩, -⟩ := h
  have hstop := hn.trimmed.1.isBoundary_stop
  obtain ⟨hle, hblank⟩ := Lines.isBlankText_slice hstop hm.isBoundary_start hline hends hstarts
  have hstretch : d.IsStretch (d.trimmedSpan n).stop m.start := ⟨hstop, hm.isBoundary_start, hle⟩
  exact ⟨hstretch, hstretch.textBetween_eq ▸ hblank⟩

/-- What lies between the ends of a row of comments lies in one of them or between two. -/
theorem mem_or_between {items : List Item} {first last : Item} {k : Nat}
    (hhead : items.head? = some first) (hlast : items.getLast? = some last)
    (hstart : first.span.start ≤ k) (hstop : k < last.span.stop) :
    (∃ a ∈ items, a.span.start ≤ k ∧ k < a.span.stop) ∨
      ∃ a b, [a, b] <:+: items ∧ a.span.stop ≤ k ∧ k < b.span.start := by
  induction items generalizing first with
  | nil => cases hhead
  | cons a rest ih =>
    obtain rfl := Option.some.inj hhead
    by_cases hin : k < a.span.stop
    · exact .inl ⟨a, List.mem_cons_self, hstart, hin⟩
    · cases rest with
      | nil =>
        obtain rfl := Option.some.inj hlast
        exact absurd hstop hin
      | cons b rest =>
        by_cases hbefore : k < b.span.start
        · exact .inr ⟨a, b, ⟨[], rest, rfl⟩, Nat.le_of_not_lt hin, hbefore⟩
        · rw [List.getLast?_cons_cons] at hlast
          rcases ih rfl hlast (Nat.le_of_not_lt hbefore) with ⟨x, hx, h⟩ | ⟨x, y, hxy, h⟩
          · exact .inl ⟨x, List.mem_cons_of_mem a hx, h⟩
          · exact .inr ⟨x, y, hxy.trans (List.suffix_cons a _).isInfix, h⟩

/-! ### What is reached -/

/-- Whether a byte lies in a comment that may be touched, in the statement of a docstring, or among
blanks between two comments of a group, one behind the other. -/
inductive IsReached (profile : Profile) (d : Document) (comments : List Node) (k : Nat) : Prop
  | comment {n : Node} (hn : n ∈ touchable profile d comments) (hstart : n.start ≤ k)
      (hstop : k < n.stop)
  | docstring {string statement : Node} (hstring : string ∈ profile.docstrings d)
      (hstatement : string.parent? = some statement) (hstart : statement.start ≤ k)
      (hstop : k < statement.stop)
  | between {group : List Item} {a b : Item}
      (hgroup : group ∈ groups d (touchable profile d comments)) (hpair : [a, b] <:+: group)
      (hstretch : d.IsStretch a.span.stop b.span.start)
      (hblank : (d.textBetween a.span.stop b.span.start).isBlankText = true)
      (hstart : a.span.stop ≤ k) (hstop : k < b.span.start)

/-- The nodes that may be written to: the comments that may be touched, and the statements of the
docstrings. -/
def touched (profile : Profile) (d : Document) (comments : List Node) : List Node :=
  touchable profile d comments ++ (profile.docstrings d).filterMap Node.parent?

/-- Whether a node that begins with something that can be seen lies apart from all that may be
written to. -/
structure IsSpared (profile : Profile) (d : Document) (comments : List Node) (n : Node) : Prop where
  mem : n ∈ d.nodes
  solid : d.IsSolid n.span
  apart : ∀ t ∈ touched profile d comments, n.IsApart t

/-- Docstrings are found in Python alone, among the nodes of the document. -/
theorem isDocstring_of_mem {string : Node} (h : string ∈ d.language.profile.docstrings d) :
    d.language = .python ∧ string ∈ d.nodes ∧ Profile.Python.isDocstring string = true := by
  by_cases hl : d.language = .python
  · rw [hl] at h
    have h : string ∈ Profile.Python.docstrings d := h
    unfold Profile.Python.docstrings at h
    split at h
    next strings hstrings =>
      obtain ⟨hmem, hdocstring⟩ := List.mem_filter.mp h
      exact ⟨hl, Document.mem_nodes_of_queryNodes hstrings hmem, hdocstring⟩
    · cases h
  · rw [docstrings_eq_nil hl] at h
    cases h

theorem mem_nodes_of_docstring {string : Node} (h : string ∈ d.language.profile.docstrings d) :
    string ∈ d.nodes :=
  (isDocstring_of_mem h).2.1

theorem mem_nodes_of_captured (hcomments : ∀ n ∈ comments, n ∈ d.nodes) {n : Node}
    (hn : n ∈ captured d.language.profile d comments) : n ∈ d.nodes := by
  rcases List.mem_append.mp hn with hn | hn
  · exact (List.mem_append.mp hn).elim (hcomments n) mem_nodes_of_docstring
  · obtain ⟨string, hstring, hparent⟩ := List.mem_filterMap.mp hn
    exact (Document.mem_children_of_parent? (mem_nodes_of_docstring hstring) hparent).1

/-- A docstring that is cut short has a statement. -/
theorem exists_parent_of_shorten {string : Node} {text : Text}
    (h : judgeDocstring profile d rules string = .shorten text) :
    ∃ statement, string.parent? = some statement := by
  unfold judgeDocstring at h
  split at h
  · cases h
  next statement hstatement => exact ⟨statement, hstatement⟩

section Reach
variable (hd : d.IsNested) (hcomments : ∀ n ∈ comments, n ∈ d.nodes)
include hd hcomments

/-- Between two comments that stand next to each other in a group stand only blanks. -/
theorem isBlankText_of_infix {group : List Item} (hgroup : group ∈ groups d comments) {a b : Item}
    (hpair : [a, b] <:+: group) :
    d.IsStretch a.span.stop b.span.start ∧
      (d.textBetween a.span.stop b.span.start).isBlankText = true := by
  have hcontinues : Item.continues d a b = true := by
    obtain ⟨pre, post, rfl⟩ := hpair
    have hchain := List.isChain_of_mem_splitBy hgroup
    rw [List.append_assoc, List.isChain_append] at hchain
    exact (List.isChain_cons_cons.mp hchain.2.1).1
  obtain ⟨n, hn, rfl⟩ := exists_of_mem_group hgroup (hpair.subset (by simp : a ∈ [a, b]))
  obtain ⟨m, hm, rfl⟩ := exists_of_mem_group hgroup (hpair.subset (by simp : b ∈ [Item.of d n, b]))
  exact isBlankText_of_continues (hd.stretch n (hcomments n hn)) (hd.stretch m (hcomments m hm))
    hcontinues

/-- Nothing of a spared node is reached. -/
theorem IsSpared.not_isReached {n : Node} {k : Nat} (h : IsSpared d.language.profile d comments n)
    (hstart : n.start ≤ k) (hstop : k < n.stop) : ¬ IsReached d.language.profile d comments k := by
  intro hreached
  have hmem : ∀ t ∈ touchable d.language.profile d comments, t ∈ d.nodes :=
    fun t ht => hcomments t (List.mem_filter.mp ht).1
  have hbeside : ∀ t ∈ touchable d.language.profile d comments,
      n.stop ≤ t.start ∨ t.stop ≤ n.start :=
    fun t ht => hd.stop_le_of_isApart h.mem (hmem t ht) (h.apart t (List.mem_append_left _ ht))
  cases hreached with
  | comment ht hs hs' =>
    have := hbeside _ ht
    omega
  | @docstring string statement hstring hstatement hs hs' =>
    have hmem := (Document.mem_children_of_parent? (mem_nodes_of_docstring hstring) hstatement).1
    have := hd.stop_le_of_isApart h.mem hmem (h.apart statement
      (List.mem_append_right _ (List.mem_filterMap.mpr ⟨string, hstring, hstatement⟩)))
    omega
  | @between group a b hgroup hpair hstretch hblank hs hs' =>
    -- The node does not end in front of the first of the two, so it begins among the blanks.
    obtain ⟨x, hx, rfl⟩ := exists_of_mem_group hgroup (hpair.subset (by simp : a ∈ [a, b]))
    have htrimmed := (hd.stretch x (hmem x hx)).trimmed
    have hle : x.start ≤ (d.trimmedSpan x).stop := htrimmed.1.start_le_stop
    have hs : (d.trimmedSpan x).stop ≤ k := hs
    have hbehind : (d.trimmedSpan x).stop ≤ n.start := by
      have := hbeside x hx
      have := htrimmed.2
      omega
    have hnot := h.solid.not_isBlankText hstretch.isBoundary_start hstretch.isBoundary_stop hbehind
      (Nat.lt_of_le_of_lt hstart hs')
    rw [hstretch.textBetween_eq] at hblank
    exact absurd hblank (Bool.eq_false_iff.mp hnot)

end Reach

/-! ### What the edits cover -/

/-- Whether an edit covers something, and nothing that is not reached. -/
structure IsConfined (profile : Profile) (d : Document) (comments : List Node) (e : Edit) :
    Prop where
  start_lt_stop : e.span.start < e.span.stop
  reached : ∀ k, e.span.start ≤ k → k < e.span.stop → IsReached profile d comments k

/-- What lies apart from all that is reached lies beside an edit. -/
theorem IsConfined.beside {e : Edit} (h : IsConfined profile d comments e) {s : Span}
    (hs : s.start < s.stop)
    (hfree : ∀ k, s.start ≤ k → k < s.stop → ¬ IsReached profile d comments k) :
    e.span.stop ≤ s.start ∨ s.stop ≤ e.span.start := by
  have hlt := h.start_lt_stop
  by_contra hoverlap
  -- The later of the two starts is a byte of both.
  refine hfree (max s.start e.span.start) (by omega) (by omega) (h.reached _ (by omega) ?_)
  omega

section Edits
variable {config : Config} {count : Counter} (hd : d.IsNested)
  (hcomments : ∀ n ∈ comments, n ∈ d.nodes)
  (hsolid : ∀ n ∈ captured d.language.profile d comments, d.IsSolid n.span)
include hd hcomments hsolid

theorem IsTreated.isConfined (hsorted : comments.Pairwise fun a b => a.start ≤ b.start)
    {segment : List Verdict} {first last : Verdict}
    (h : IsTreated rules (d.job config count) comments segment first last) (text : Text) :
    IsConfined d.language.profile d comments
      ⟨(removalOf first.item last.item segment.length).span, text⟩ := by
  have htouchable : ∀ n ∈ touchable d.language.profile d comments, n ∈ comments :=
    fun n hn => (List.mem_filter.mp hn).1
  constructor
  · obtain ⟨n, -, m, hm, hfirst, hlast, hle⟩ := exists_nodes_of_segment h.mem h.head h.getLast
      (hsorted.sublist List.filter_sublist)
    have hlt := (hsolid m (List.mem_append_left _
      (List.mem_append_left _ (htouchable m hm)))).start_lt_trimmed
    show first.item.span.start < max last.item.span.stop first.item.span.start
    rw [hfirst, hlast]
    exact Nat.lt_of_le_of_lt hle (Nat.lt_of_lt_of_le hlt (Nat.le_max_left _ _))
  · intro k hstart hstop
    have hstart : first.item.span.start ≤ k := hstart
    have hstop : k < max last.item.span.stop first.item.span.start := hstop
    obtain ⟨group, hgroup, hrun⟩ := exists_group_of_mem_segments h.mem
    have hitems := hrun.map Verdict.item
    rw [map_item_judge] at hitems
    have hhead : (segment.map Verdict.item).head? = some first.item := by
      rw [List.head?_map, h.head]
      rfl
    have hlast : (segment.map Verdict.item).getLast? = some last.item := by
      rw [List.getLast?_map, h.getLast]
      rfl
    rcases mem_or_between hhead hlast hstart (by omega) with ⟨a, ha, hs, hs'⟩ | ⟨a, b, hab, hs, hs'⟩
    · obtain ⟨n, hn, rfl⟩ := exists_of_mem_group hgroup (hitems.subset ha)
      have htrimmed := (hd.stretch n (hcomments n (htouchable n hn))).trimmed.2
      exact .comment hn hs (Nat.lt_of_lt_of_le hs' htrimmed)
    · have hpair := hab.trans hitems
      obtain ⟨hstretch, hblank⟩ := isBlankText_of_infix hd
        (fun n hn => hcomments n (htouchable n hn)) hgroup hpair
      exact .between hgroup hpair hstretch hblank hs hs'

omit hcomments in
/-- An edit of a docstring covers nothing but its statement. -/
theorem isConfined_docstring {string statement : Node}
    (hstring : string ∈ d.language.profile.docstrings d)
    (hstatement : string.parent? = some statement) {e : Edit}
    (he : e.span = string.span ∨ e.span = statement.span) :
    IsConfined d.language.profile d comments e := by
  obtain ⟨hmem, hchild⟩ :=
    Document.mem_children_of_parent? (mem_nodes_of_docstring hstring) hstatement
  have hspan := hd.span_le hmem hchild
  have hcaptured : d.IsSolid e.span := by
    rcases he with he | he <;> rw [he]
    · exact hsolid string (List.mem_append_left _ (List.mem_append_right _ hstring))
    · exact hsolid statement
        (List.mem_append_right _ (List.mem_filterMap.mpr ⟨string, hstring, hstatement⟩))
  have hinside : statement.start ≤ e.span.start ∧ e.span.stop ≤ statement.stop := by
    rcases he with he | he <;> rw [he]
    · exact hspan
    · exact ⟨Nat.le_refl _, Nat.le_refl _⟩
  exact ⟨hcaptured.start_lt_stop, fun k hstart hstop =>
    .docstring hstring hstatement (hinside.1.trans hstart) (Nat.lt_of_lt_of_le hstop hinside.2)⟩

/-- All that is written goes where the reduction reaches. -/
theorem keeps_isConfined (hsorted : comments.Pairwise fun a b => a.start ≤ b.start) :
    (draft rules (d.job config count) comments).Keeps d d.language.profile
      (IsConfined d.language.profile d comments) := by
  refine (draft_isWritten rules (d.job config count) comments).keeps (fun r hr text => ?_)
    fun e key n he => ?_
  · cases hr with
    | segment h => exact h.isConfined hd hcomments hsolid hsorted text
    | docstring hstring hjudged =>
      exact isConfined_docstring hd hsolid hstring (parent?_of_judgeDocstring hjudged) (.inr rfl)
  · cases he with
    | segment h text => exact h.isConfined hd hcomments hsolid hsorted text
    | docstring hstring hjudged =>
      obtain ⟨statement, hstatement⟩ := exists_parent_of_shorten hjudged
      exact isConfined_docstring hd hsolid hstring hstatement (.inl rfl)

end Edits

/-! ### Placeholders and directives -/

/-- The statement of a docstring is no comment. -/
theorem hasRole_statement {t : Node}
    (ht : t ∈ (d.language.profile.docstrings d).filterMap Node.parent?) :
    d.hasRole t .comment = false := by
  obtain ⟨string, hstring, hparent⟩ := List.mem_filterMap.mp ht
  obtain ⟨hl, -, hdocstring⟩ := isDocstring_of_mem hstring
  simp only [Profile.Python.isDocstring, hparent, Option.any_some, Bool.and_eq_true,
    Profile.Python.isStringStatement, beq_iff_eq] at hdocstring
  rw [Document.hasRole, Document.grammar, hl, hdocstring.1.1]
  decide

/-- A comment that may not be touched is spared, unless it lies in what may be, or around it. -/
theorem isSpared_of_not_touchable (hfound : d.queryNodes "comments" "comment" = .ok comments)
    {n : Node} (hn : n ∈ comments) (hsolid : d.IsSolid n.span)
    (hkept : n ∉ touchable d.language.profile d comments)
    (hflat : ∀ t ∈ touched d.language.profile d comments,
      n.encloses t = false ∧ t.encloses n = false) :
    IsSpared d.language.profile d comments n := by
  obtain ⟨hmem, hrole⟩ := Document.mem_nodes_of_comment hfound hn
  refine ⟨hmem, hsolid, fun t ht => ?_⟩
  have htouched : t ∈ d.nodes ∧ n ≠ t := by
    rcases List.mem_append.mp ht with ht | ht
    · refine ⟨(Document.mem_nodes_of_comment hfound (List.mem_filter.mp ht).1).1, ?_⟩
      rintro rfl
      exact hkept ht
    · obtain ⟨string, hstring, hparent⟩ := List.mem_filterMap.mp ht
      refine ⟨(Document.mem_children_of_parent? (mem_nodes_of_docstring hstring) hparent).1, ?_⟩
      rintro rfl
      rw [hasRole_statement ht] at hrole
      cases hrole
  exact Document.isApart_of_not_encloses hmem htouched.1 htouched.2 (hflat t ht).1 (hflat t ht).2

end Comment

namespace Reduction

open Comment (IsReached IsSpared touchable touched)

variable {d : Document} {config : Config} {count : Counter}

/-- A module with a docstring, a directive and a group of two comments. -/
def noted : Document :=
  .ofTree .python "\"\"\"Doc.\"\"\"\n# noqa\n# a\n# b\nx = 1\n".toList <|
    .named "module" 0 32 [
      .named "expression_statement" 0 10 [.named "string" 0 10 [
        .named "string_start" 0 3 [], .named "string_content" 3 7 [],
        .named "string_end" 7 10 []]],
      .named "comment" 11 17 [],
      .named "comment" 18 21 [],
      .named "comment" 22 25 [],
      .named "expression_statement" 26 31 [.named "assignment" 26 31 [
        .inField "left" (.named "identifier" 26 27 []),
        .token "=" 28 29,
        .inField "right" (.named "integer" 30 31 [])]]]

/-- All comments of the module go. -/
def notedJob : Job :=
  noted.job { comments := .bare .stripAll } Counter.bytes

def notedRules : Comment.Rules where
  options := { policy := .stripAll }
  keep := []
  strip := []
  count := Counter.bytes

def notedComments : List Node :=
  noted.scan [.kind "comment" "comment"] "comment"

end Reduction

end Abridge
