import Abridge.Proofs.Literal.Trimming
import Abridge.Proofs.Reduction.Draft
import Abridge.Proofs.Text.Balance
import Mathlib.Logic.Relation
import Mathlib.Tactic.MkIffOfInductiveProp

/-!
Brackets in trimmed collections.

If brackets are balanced in all parts of a collection, and in those of the collections in its
elements, they are in what trimming leaves of it (`trim_is_balanced`): what is cut off at each level
is made up of balanced parts, and what is put in has no brackets. The gaps beside the two brackets
count as parts, since they are kept with the first and the last element
(`trim_unbalanced_by_edges`).
-/
namespace Abridge

open Text (IsBalanced excess)

/-! ### Comments -/

theorem Language.isBalanced_delimiters (l : Language) :
    ∀ s ∈ l.grammar.comments.delimiters, IsBalanced s.toList := by
  cases l <;> decide

section Comments
variable {style : CommentStyle} (hstyle : ∀ s ∈ style.delimiters, IsBalanced s.toList) {t : Text}
  (ht : t.IsBalanced)
include hstyle ht

theorem isBalanced_blockComment? {c : Text} (h : style.blockComment? t = some c) :
    c.IsBalanced := by
  obtain ⟨⟨opener, closer⟩, hblock, rfl⟩ := Option.map_eq_some_iff.mp h
  have hopener : opener ∈ style.delimiters := by simp [CommentStyle.delimiters, hblock]
  have hcloser : closer ∈ style.delimiters := by simp [CommentStyle.delimiters, hblock]
  have hspace : IsBalanced [' '] := by decide
  exact ((((hstyle _ hopener).append hspace).append ht).append hspace).append (hstyle _ hcloser)

theorem isBalanced_lineComment : (style.lineComment t).IsBalanced := by
  unfold CommentStyle.lineComment
  split
  next opener hline =>
    have hopener : opener ∈ style.delimiters := by simp [CommentStyle.delimiters, hline]
    have hspace : IsBalanced [' '] := by decide
    exact ((hstyle _ hopener).append hspace).append ht
  · cases hblock : style.blockComment? t with
    | some c => exact isBalanced_blockComment? hstyle ht hblock
    | none => exact ht

end Comments

namespace Literal

theorem isBalanced_of_isBlankText {t : Text} (h : t.isBlankText = true) : t.IsBalanced :=
  Text.isBalanced_of_forall fun c hc => Text.isBracket_of_isBlank (List.all_eq_true.mp h c hc)

theorem isBalanced_more (missing : Nat) : (Placeholder.more missing).IsBalanced := by
  have hdecimal : (Placeholder.decimal missing).IsBalanced :=
    Text.isBalanced_of_forall fun c hc =>
      Text.isBracket_of_isDigit (List.all_eq_true.mp (Placeholder.isDigit_decimal missing) c hc)
  have hlead : IsBalanced [Placeholder.marker, ' '] := by decide
  have hword : IsBalanced " more".toList := by decide
  exact (hlead.append hdecimal).append hword

namespace Layout

theorem IsEnding.isBalanced {l : Layout} {anyKept : Bool} {missing : Nat} {t : Text}
    (h : l.IsEnding anyKept missing t) : t.IsBalanced := by
  obtain ⟨before, comment, behind, rfl, hbefore, hbehind, hcomment⟩ := h
  have hstyle := l.document.language.isBalanced_delimiters
  have hmore := isBalanced_more missing
  have hcommentBalanced : comment.IsBalanced := by
    rcases hcomment with hblock | ⟨rfl, -⟩
    · exact isBalanced_blockComment? hstyle hmore hblock
    · exact isBalanced_lineComment hstyle hmore
  have hcomma : IsBalanced (if anyKept then [','] else []) := by cases anyKept <;> decide
  exact ((hcomma.append (isBalanced_of_isBlankText hbefore)).append hcommentBalanced).append
    (isBalanced_of_isBlankText hbehind)

/-! ### Layouts -/

/-- Whether brackets are balanced in front of a collection and behind it, in its elements and
between each two of them, and its own two brackets match. -/
@[mk_iff]
structure IsEven (l : Layout) : Prop where
  front : l.front.IsBalanced
  brackets : (l.opening ++ l.closing).IsBalanced
  elements : ∀ e ∈ l.collection.elements, (l.document.textBetween e.start e.stop).IsBalanced
  gaps : ∀ k < l.length, k ≠ 0 → (l.gap k).IsBalanced
  back : l.back.IsBalanced

instance (l : Layout) : Decidable l.IsEven :=
  decidable_of_iff _ (isEven_iff l).symm

/-- Whether brackets are balanced between the opening bracket and the first element, and between the
last element and the closing bracket. -/
@[mk_iff]
structure HasEvenEdges (l : Layout) : Prop where
  first : (l.gap 0).IsBalanced
  last : (l.gap l.length).IsBalanced

instance (l : Layout) : Decidable l.HasEvenEdges :=
  decidable_of_iff _ (hasEvenEdges_iff l).symm

section
variable {l : Layout} (hl : l.IsLaid) (heven : l.IsEven) (hedges : l.HasEvenEdges) {k : Nat}
  {b : Char × Char} (hb : b ∈ Text.brackets)

include heven hedges in
theorem IsEven.gap_isBalanced (hk : k ≤ l.length) : (l.gap k).IsBalanced := by
  by_cases hzero : k = 0
  · exact hzero ▸ hedges.first
  · rcases Nat.lt_or_eq_of_le hk with hlt | rfl
    · exact heven.gaps k hlt hzero
    · exact hedges.last

include hl heven hb

theorem IsEven.excess_closer : excess b l.closer = - excess b l.opening := by
  have hbrackets := heven.brackets.excess_eq hb
  have hback := heven.back.excess_eq hb
  rw [Text.excess_append] at hbrackets
  rw [hl.closer_eq, Text.excess_append]
  omega

include hedges

/-- Up to an element, only the opening bracket is open. -/
theorem IsEven.excess_head (hk : k ≤ l.length) : excess b (l.head k) = excess b l.opening := by
  induction k with
  | zero =>
    rw [hl.head_zero, Text.excess_append, heven.front.excess_eq hb, Int.zero_add]
  | succ k ih =>
    obtain ⟨e, he⟩ : ∃ e, l.collection.elements[k]? = some e := ⟨_, List.getElem?_eq_getElem hk⟩
    have hgap := (heven.gap_isBalanced hedges (Nat.le_of_lt hk)).excess_eq hb
    have helement := (heven.elements e (List.mem_of_getElem? he)).excess_eq hb
    rw [hl.head_succ he, Text.excess_append, Text.excess_append, ih (Nat.le_of_lt hk), hgap,
      helement, Int.add_zero, Int.add_zero]

/-- From the last element on, only the closing bracket is left. -/
theorem IsEven.excess_tail :
    excess b (l.document.textBetween (l.keptEnd l.length) l.node.stop) = - excess b l.opening := by
  rw [← hl.gap_append_closer, Text.excess_append, hedges.last.excess_eq hb, Int.zero_add,
    heven.excess_closer hl hb]

/-- With a part of an element left out that is balanced itself, only the opening bracket is open
behind the element. -/
theorem IsEven.excess_around {e m : Node} (he : l.collection.elements[k]? = some e)
    (hm : l.document.IsStretch m.start m.stop) (hstart : e.start ≤ m.start)
    (hstop : m.stop ≤ e.stop)
    (hinner : (l.document.textBetween m.start m.stop).IsBalanced) :
    excess b (l.lead k m) + excess b (l.document.textBetween m.stop e.stop) =
      excess b l.opening := by
  have hk : k ≤ l.length := Nat.le_of_lt (lt_length he)
  have helement := hl.element e (List.mem_of_getElem? he)
  have hgap := hl.gap_before he
  have hfront : l.document.IsStretch (l.keptEnd k) m.start :=
    ⟨hgap.isBoundary_start, hm.isBoundary_start, hgap.start_le_stop.trans hstart⟩
  have hback : l.document.IsStretch m.stop e.stop :=
    ⟨hm.isBoundary_stop, helement.isBoundary_stop, hstop⟩
  have hwhole : l.document.textBetween (l.keptEnd k) m.start ++
      l.document.textBetween m.start m.stop ++ l.document.textBetween m.stop e.stop =
      l.gap k ++ l.document.textBetween e.start e.stop := by
    rw [hfront.textBetween_append hm, (hfront.trans hm).textBetween_append hback, gap, gapEnd_eq he,
      hgap.textBetween_append helement]
  have hexcess := congrArg (excess b) hwhole
  simp only [Text.excess_append, hinner.excess_eq hb,
    (heven.gap_isBalanced hedges hk).excess_eq hb,
    (heven.elements e (List.mem_of_getElem? he)).excess_eq hb] at hexcess
  rw [lead, Text.excess_append, heven.excess_head hl hedges hb hk]
  omega

end

theorem IsEven.isBalanced {l : Layout} (hl : l.IsLaid) (heven : l.IsEven)
    (hedges : l.HasEvenEdges) : (l.document.textBetween l.node.start l.node.stop).IsBalanced := by
  refine Text.isBalanced_iff.mpr fun b hb => ?_
  have hhead := heven.excess_head hl hedges hb (Nat.le_refl _)
  rw [Layout.head] at hhead
  rw [← (hl.head (Nat.le_refl _)).textBetween_append hl.tail, Text.excess_append, hhead,
    heven.excess_tail hl hedges hb]
  omega

end Layout

/-! ### Trimmed collections -/

/-- Whether one collection is in an element of another. -/
def Nests (profile : Profile) (d : Document) (n m : Node) : Prop :=
  ∃ l ∈ layout? profile d n, ∃ e ∈ l.collection.elements, nested? profile d e = some m

/-- Whether a collection and those nested in it, at any depth, have layouts with a property. -/
def Throughout (P : Layout → Prop) (profile : Profile) (d : Document) (n : Node) : Prop :=
  ∀ m, Relation.ReflTransGen (Nests profile d) n m → ∀ l ∈ layout? profile d m, P l

section
variable {P : Layout → Prop} {profile : Profile} {d : Document} {n m : Node}

theorem Throughout.self (h : Throughout P profile d n) {l : Layout}
    (hl : layout? profile d n = some l) : P l :=
  h n .refl l hl

theorem Throughout.of_nests (h : Throughout P profile d n) (hm : Nests profile d n m) :
    Throughout P profile d m :=
  fun k hk => h k (.head hm hk)

theorem nests_of_getElem? {l : Layout} (hl : layout? profile d n = some l) {k : Nat} {e : Node}
    (he : l.collection.elements[k]? = some e) (hnested : nested? profile d e = some m) :
    Nests profile d n m :=
  ⟨l, hl, e, List.mem_of_getElem? he, hnested⟩

theorem mem_nodes_of_nests (hd : d.IsNested) (hn : n ∈ d.nodes)
    (h : Nests d.language.profile d n m) : m ∈ d.nodes := by
  obtain ⟨l, hl, e, he, hnested⟩ := h
  exact (within_of_nested? hd (mem_nodes_of_layout? hn hl he) hnested).1

/-- What holds of all collections of a document holds throughout each of them. -/
theorem throughout_of_forall (hd : d.IsNested) (hn : n ∈ d.nodes)
    (h : ∀ m ∈ d.nodes, ∀ l ∈ layout? d.language.profile d m, P l) :
    Throughout P d.language.profile d n := by
  intro m hm
  refine h m ?_
  induction hm with
  | refl => exact hn
  | tail _ hstep ih => exact mem_nodes_of_nests hd ih hstep

theorem Trims.exists_layout {text : Text} {levels : List Level}
    (h : Trims profile d n text levels) : ∃ l, layout? profile d n = some l := by
  cases h with
  | cut hl | last hl | inside hl => exact ⟨_, hl⟩

end

section
variable {d : Document} (hd : d.IsNested) {n : Node} (hn : n ∈ d.nodes)
  (heven : Throughout Layout.IsEven d.language.profile d n)
  (hedges : Throughout Layout.HasEvenEdges d.language.profile d n)
include hd hn heven hedges

/-- Behind an element with a balanced text in the place of the collection that is nested in it, only
the opening bracket is open. -/
theorem excess_trimmed_element {l : Layout} (hl : layout? d.language.profile d n = some l) {k : Nat}
    {boundary nested : Node} (hboundary : l.collection.elements[k]? = some boundary)
    (hnested : nested? d.language.profile d boundary = some nested) {l' : Layout}
    (hl' : layout? d.language.profile d nested = some l') {inner : Text} (hinner : inner.IsBalanced)
    {b : Char × Char} (hb : b ∈ Text.brackets) :
    excess b (l.lead k nested ++ inner ++ d.textBetween nested.stop boundary.stop) =
      excess b l.opening := by
  obtain ⟨hdocument, -⟩ := document_of_layout? hl
  obtain ⟨hdocument', hnode'⟩ := document_of_layout? hl'
  have hnests := nests_of_getElem? hl hboundary hnested
  obtain ⟨hnode, hstart, hstop⟩ := within_of_nested? hd
    (mem_nodes_of_layout? hn hl (List.mem_of_getElem? hboundary)) hnested
  have hsource := ((heven.of_nests hnests).self hl').isBalanced (isLaid_of_layout? hnode hl' hd)
    ((hedges.of_nests hnests).self hl')
  rw [hdocument', hnode'] at hsource
  have haround := (heven.self hl).excess_around (isLaid_of_layout? hn hl hd) (hedges.self hl) hb
    hboundary (hdocument ▸ hd.stretch nested hnode) hstart hstop (hdocument ▸ hsource)
  rw [hdocument] at haround
  rw [Text.excess_append, Text.excess_append, hinner.excess_eq hb, Int.add_zero, haround]

theorem Trims.isBalanced {text : Text} {levels : List Level}
    (h : Trims d.language.profile d n text levels) : text.IsBalanced := by
  -- By induction on the trimmed collections from the inside out: at each level, what is kept in
  -- front has the opening bracket too many, and what is kept behind the closing one.
  induction h with
  | @cut n l k ending hl hk hending =>
    have hlaid := isLaid_of_layout? hn hl hd
    refine Text.isBalanced_iff.mpr fun b hb => ?_
    rw [Text.excess_append, Text.excess_append,
      (heven.self hl).excess_head hlaid (hedges.self hl) hb hk.le,
      hending.isBalanced.excess_eq hb, (heven.self hl).excess_closer hlaid hb]
    omega
  | @last n l k boundary nested inner _ hl hk hboundary hnested hinner ih =>
    obtain ⟨l', hl'⟩ := hinner.exists_layout
    have hnests := nests_of_getElem? hl hboundary hnested
    have hbalanced := ih (mem_nodes_of_nests hd hn hnests) (heven.of_nests hnests)
      (hedges.of_nests hnests)
    refine Text.isBalanced_iff.mpr fun b hb => ?_
    have htail := (heven.self hl).excess_tail (isLaid_of_layout? hn hl hd) (hedges.self hl) hb
    rw [← hk, Layout.keptEnd_succ hboundary, (document_of_layout? hl).1,
      (document_of_layout? hl).2] at htail
    rw [Text.excess_append,
      excess_trimmed_element hd hn heven hedges hl hboundary hnested hl' hbalanced hb, htail]
    omega
  | @inside n l k boundary nested inner ending _ hl hk hboundary hnested hinner hending ih =>
    obtain ⟨l', hl'⟩ := hinner.exists_layout
    have hnests := nests_of_getElem? hl hboundary hnested
    have hbalanced := ih (mem_nodes_of_nests hd hn hnests) (heven.of_nests hnests)
      (hedges.of_nests hnests)
    refine Text.isBalanced_iff.mpr fun b hb => ?_
    rw [Text.excess_append, Text.excess_append,
      excess_trimmed_element hd hn heven hedges hl hboundary hnested hl' hbalanced hb,
      hending.isBalanced.excess_eq hb,
      (heven.self hl).excess_closer (isLaid_of_layout? hn hl hd) hb]
    omega

end

/-- **Trimming keeps brackets balanced.** If brackets are balanced in all parts of a collection and
of those nested in it, at any depth, they are in what is left of it, whatever the budget. -/
theorem trim_is_balanced {d : Document} (hd : d.IsNested) {n : Node} (hn : n ∈ d.nodes)
    (heven : Throughout Layout.IsEven d.language.profile d n)
    (hedges : Throughout Layout.HasEvenEdges d.language.profile d n) {count : Counter}
    {budget : Nat} {t : Trimmed}
    (h : trimCollection? d.language.profile d count n budget = some t) : t.text.IsBalanced := by
  obtain ⟨levels, htrims, -⟩ := trims_of_trimCollection? h
  exact htrims.isBalanced hd hn heven hedges

theorem arrayAt_mem_nodes (d : Document) (start : Nat) : arrayAt d start ∈ d.nodes := by
  unfold arrayAt
  cases h : d.nodes.find? fun n => n.kind == "array" && n.start == start with
  | none => exact d.root_mem_nodes
  | some n => exact List.mem_of_find?_eq_some h

theorem isWellFormed_rows : rows.IsWellFormed :=
  Document.isWellFormed_iff.mp (by decide +kernel)

theorem isEven_rows : ∀ m ∈ rows.nodes, ∀ l ∈ layout? rows.language.profile rows m,
    l.IsEven ∧ l.HasEvenEdges := by
  decide +kernel

/-- Two rows are balanced, and so is what is left of them. -/
theorem trim_is_balanced_rows :
    Throughout Layout.IsEven rows.language.profile rows (arrayAt rows 0) ∧
      Throughout Layout.HasEvenEdges rows.language.profile rows (arrayAt rows 0) ∧
      IsBalanced "[[1, 2, /* … 1 more */], /* … 1 more */]".toList := by
  have hd := isWellFormed_rows.isNested
  have hn := arrayAt_mem_nodes rows 0
  have heven : Throughout Layout.IsEven rows.language.profile rows (arrayAt rows 0) :=
    throughout_of_forall hd hn fun m hm l hl => (isEven_rows m hm l hl).1
  have hedges : Throughout Layout.HasEvenEdges rows.language.profile rows (arrayAt rows 0) :=
    throughout_of_forall hd hn fun m hm l hl => (isEven_rows m hm l hl).2
  exact ⟨heven, hedges, trim_is_balanced hd hn heven hedges trimCollection?_rows⟩

/-! ### Gaps beside the brackets -/

/-- Two arrays in a file in JavaScript, with a comment beside a bracket in each. -/
def lopsided : Document :=
  .ofTree .javascript
    "[/*(*/1, 222222222222222222222222];\n[[1, 22222222222222222222]/*(*/];\n".toList <|
    .named "program" 0 70 [
      .named "expression_statement" 0 35 [
        .named "array" 0 34 [.token "[" 0 1, .named "comment" 1 6 [], .named "number" 6 7 [],
          .token "," 7 8, .named "number" 9 33 [], .token "]" 33 34],
        .token ";" 34 35],
      .named "expression_statement" 36 69 [
        .named "array" 36 68 [
          .token "[" 36 37,
          .named "array" 37 62 [.token "[" 37 38, .named "number" 38 39 [], .token "," 39 40,
            .named "number" 41 61 [], .token "]" 61 62],
          .named "comment" 62 67 [],
          .token "]" 67 68],
        .token ";" 68 69]]

theorem isEven_lopsided : ∀ m ∈ lopsided.nodes, ∀ l ∈ layout? lopsided.language.profile lopsided m,
    l.IsEven := by
  decide +kernel

/-- A bracket in a comment beside the opening bracket stays where elements are kept, and one beside
the closing bracket where the last element is: both arrays are even but for this, and what is left
of them is not balanced. -/
theorem trim_unbalanced_by_edges :
    lopsided.IsWellFormed ∧
      (∀ start ∈ [0, 36], arrayAt lopsided start ∈ lopsided.nodes ∧
        Throughout Layout.IsEven lopsided.language.profile lopsided (arrayAt lopsided start)) ∧
      trimCollection? lopsided.language.profile lopsided Counter.bytes (arrayAt lopsided 0) 29 =
        some ⟨"[/*(*/1, /* … 1 more */]".toList, 1⟩ ∧
      ¬ IsBalanced "[/*(*/1, /* … 1 more */]".toList ∧
      trimCollection? lopsided.language.profile lopsided Counter.bytes (arrayAt lopsided 36) 29 =
        some ⟨"[[1, /* … 1 more */]/*(*/]".toList, 1⟩ ∧
      ¬ IsBalanced "[[1, /* … 1 more */]/*(*/]".toList := by
  have hd : lopsided.IsWellFormed := Document.isWellFormed_iff.mp (by decide +kernel)
  refine ⟨hd, fun start _ => ?_, by decide +kernel, by decide, by decide +kernel, by decide⟩
  have hn := arrayAt_mem_nodes lopsided start
  exact ⟨hn, throughout_of_forall hd.isNested hn isEven_lopsided⟩

end Literal

end Abridge
