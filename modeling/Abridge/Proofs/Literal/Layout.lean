import Abridge.Literal.Trim
import Abridge.Profile.Table
import Abridge.Proofs.Text.Lines
import Abridge.Proofs.Tree.WellFormed

/-!
Where a collection is cut.

A collection is a row of stretches: what stands in front of its opening bracket, the bracket, then
gaps and elements in turn, the closing bracket and what stands behind it (`Layout.IsLaid`). In
nested trees the collections of all languages are laid out so (`isLaid_of_collection?`), and the
texts that a trimmed collection is put together from are those of neighbouring stretches. In the
place of missing elements stands a comment that counts them (`Layout.IsEnding`), the same whatever
is kept in front of it (`Layout.exists_ending`).
-/
namespace Abridge

/-! ### Collections of nodes -/

/-- A collection is a row of children, the first and the last of which are its brackets. -/
theorem Collection.exists_of_ofContainer? {n : Node} {c : Collection}
    (h : ofContainer? n = some c) :
    ∃ first middle last, n.children = first :: (middle ++ [last]) ∧ c.container = n ∧
      c.elements.Sublist middle ∧ c.openEnd = first.stop ∧ c.close = last.span := by
  unfold ofContainer? at h
  split at h
  next first last hfirst hlast =>
    split at h
    next hcond =>
      obtain rfl := Option.some.inj h
      simp only [Bool.and_eq_true, decide_eq_true_eq, Bool.not_eq_true'] at hcond
      obtain ⟨⟨⟨⟨hlength, hfirstNamed⟩, hlastNamed⟩, -⟩, -⟩ := hcond
      obtain ⟨rest, hrest⟩ := List.head?_eq_some_iff.mp hfirst
      have hne : rest ≠ [] := by
        rintro rfl
        simp [hrest] at hlength
      obtain ⟨middle, hmiddle⟩ : ∃ middle, rest = middle ++ [last] := by
        rw [hrest, List.getLast?_cons_of_ne_nil hne] at hlast
        exact List.getLast?_eq_some_iff.mp hlast
      subst hmiddle
      refine ⟨first, middle, last, hrest, rfl, ?_, rfl, rfl⟩
      show ((n.children.filter Node.isNamed).filter (!·.isComment)).Sublist middle
      rw [hrest, List.filter_cons_of_neg (by simp [hfirstNamed]), List.filter_append,
        List.filter_cons_of_neg (by simp [hlastNamed]), List.filter_nil, List.append_nil]
      exact List.filter_sublist.trans List.filter_sublist
    · cases h
  · cases h

/-- Whether a literal leaves its brackets to its body: a composite literal in Go, a struct
expression in Rust. -/
def Language.LeavesToBody (l : Language) (n : Node) : Prop :=
  l = .go ∧ n.kind ≠ "literal_value" ∨ l = .rust ∧ n.kind = "struct_expression"

/-- The brackets of a literal belong to it or to its body. -/
theorem Language.container?_cases {l : Language} {n c : Node}
    (h : l.profile.container? n = some c) :
    c = n ∨ l.LeavesToBody n ∧ n.inField? "body" = some c := by
  have hself : some n = some c → c = n := fun heq => (Option.some.inj heq).symm
  cases l with
  | rust =>
    replace h : Profile.Rust.container? n = some c := h
    unfold Profile.Rust.container? at h
    split at h
    · cases h
    · split at h
      next hkind => exact .inr ⟨.inr ⟨rfl, eq_of_beq hkind⟩, h⟩
      · exact .inl (hself h)
  | go =>
    replace h : Profile.Go.container? n = some c := h
    unfold Profile.Go.container? at h
    split at h
    · exact .inl (hself h)
    next hkind => exact .inr ⟨.inl ⟨rfl, fun heq => hkind (beq_iff_eq.mpr heq)⟩, h⟩
  | _ => exact .inl (hself h)

theorem Language.eq_or_mem_of_container? {l : Language} {n c : Node}
    (h : l.profile.container? n = some c) : c = n ∨ c ∈ n.children :=
  (Language.container?_cases h).imp_right fun hbody => Node.mem_children_of_inField? hbody.2

namespace Literal

/-- The layout of a node that is a collection. -/
def layout? (profile : Profile) (d : Document) (n : Node) : Option Layout :=
  (profile.collection? n).map (Layout.of d n)

theorem document_of_layout? {profile : Profile} {d : Document} {n : Node} {l : Layout}
    (h : layout? profile d n = some l) : l.document = d ∧ l.node = n := by
  obtain ⟨c, -, rfl⟩ := Option.map_eq_some_iff.mp h
  exact ⟨rfl, rfl⟩

namespace Layout

/-! ### The parts of a layout -/

/-- Where the opening bracket begins. -/
def openStart (l : Layout) : Nat :=
  (l.collection.container.children.head?.map Node.start).getD l.collection.openEnd

/-- Where the gap behind the first `k` elements ends: at the next element, or at the closing
bracket. -/
def gapEnd (l : Layout) (k : Nat) : Nat :=
  (l.collection.elements[k]?.map Node.start).getD l.collection.close.start

/-- What stands in front of the opening bracket. -/
def front (l : Layout) : Text :=
  l.document.textBetween l.node.start l.openStart

def opening (l : Layout) : Text :=
  l.document.textBetween l.openStart l.collection.openEnd

/-- What stands between the first `k` elements and the next one, or the closing bracket. -/
def gap (l : Layout) (k : Nat) : Text :=
  l.document.textBetween (l.keptEnd k) (l.gapEnd k)

/-- The literal up to a node in the element behind the first `k`. -/
def lead (l : Layout) (k : Nat) (nested : Node) : Text :=
  l.head k ++ l.document.textBetween (l.keptEnd k) nested.start

def closing (l : Layout) : Text :=
  l.document.textBetween l.collection.close.start l.collection.close.stop

/-- What stands behind the closing bracket. -/
def back (l : Layout) : Text :=
  l.document.textBetween l.collection.close.stop l.node.stop

/-- Whether the parts of a layout are neighbouring stretches of the text. -/
structure IsLaid (l : Layout) : Prop where
  front : l.document.IsStretch l.node.start l.openStart
  opening : l.document.IsStretch l.openStart l.collection.openEnd
  gap : ∀ k ≤ l.length, l.document.IsStretch (l.keptEnd k) (l.gapEnd k)
  element : ∀ e ∈ l.collection.elements, l.document.IsStretch e.start e.stop
  closing : l.document.IsStretch l.collection.close.start l.collection.close.stop
  back : l.document.IsStretch l.collection.close.stop l.node.stop

section
variable {l : Layout} {k : Nat} {e : Node}

theorem keptEnd_succ (he : l.collection.elements[k]? = some e) : l.keptEnd (k + 1) = e.stop := by
  simp [keptEnd, he]

theorem gapEnd_eq (he : l.collection.elements[k]? = some e) : l.gapEnd k = e.start := by
  simp [gapEnd, he]

theorem gapEnd_length (l : Layout) : l.gapEnd l.length = l.collection.close.start := by
  simp [gapEnd, length]

theorem lt_length (he : l.collection.elements[k]? = some e) : k < l.length :=
  (List.getElem?_eq_some_iff.mp he).1

variable (hl : l.IsLaid)
include hl

theorem IsLaid.gap_before (he : l.collection.elements[k]? = some e) :
    l.document.IsStretch (l.keptEnd k) e.start :=
  gapEnd_eq he ▸ hl.gap k (Nat.le_of_lt (lt_length he))

/-- From the last element on the literal is a stretch. -/
theorem IsLaid.tail : l.document.IsStretch (l.keptEnd l.length) l.node.stop := by
  have hgap := hl.gap l.length (Nat.le_refl _)
  rw [gapEnd_length] at hgap
  exact (hgap.trans hl.closing).trans hl.back

/-- The first `k` elements end a stretch that begins with the literal. -/
theorem IsLaid.head (h : k ≤ l.length) : l.document.IsStretch l.node.start (l.keptEnd k) := by
  induction k with
  | zero => exact hl.front.trans hl.opening
  | succ k ih =>
    obtain ⟨e, he⟩ : ∃ e, l.collection.elements[k]? = some e :=
      ⟨_, List.getElem?_eq_getElem h⟩
    rw [keptEnd_succ he]
    exact ((ih (Nat.le_of_lt h)).trans (hl.gap_before he)).trans
      (hl.element e (List.mem_of_getElem? he))

theorem IsLaid.head_zero : l.head 0 = l.front ++ l.opening :=
  (hl.front.textBetween_append hl.opening).symm

theorem IsLaid.head_succ (he : l.collection.elements[k]? = some e) :
    l.head (k + 1) = l.head k ++ l.gap k ++ l.document.textBetween e.start e.stop := by
  have hhead := hl.head (Nat.le_of_lt (lt_length he))
  have hgap := hl.gap_before he
  have helement := hl.element e (List.mem_of_getElem? he)
  rw [Layout.head, Layout.head, Layout.gap, gapEnd_eq he, keptEnd_succ he,
    hhead.textBetween_append hgap, (hhead.trans hgap).textBetween_append helement]

theorem IsLaid.closer_eq : l.closer = l.closing ++ l.back :=
  (hl.closing.textBetween_append hl.back).symm

/-- From the last element on there are a gap and the end of the literal. -/
theorem IsLaid.gap_append_closer :
    l.gap l.length ++ l.closer =
      l.document.textBetween (l.keptEnd l.length) l.node.stop := by
  have hgap := hl.gap l.length (Nat.le_refl _)
  rw [gapEnd_length] at hgap
  rw [Layout.gap, gapEnd_length]
  exact hgap.textBetween_append (hl.closing.trans hl.back)

end

/-! ### What takes the place of missing elements -/

/-- Whether a text stands for missing elements: a comma, if there are elements in front of it, and a
comment that says how many there are, among blanks. If the comment runs to the end of the line, the
line ends behind it. -/
def IsEnding (l : Layout) (anyKept : Bool) (missing : Nat) (t : Text) : Prop :=
  ∃ before comment behind,
    t = (if anyKept then [','] else []) ++ before ++ comment ++ behind ∧
    before.isBlankText = true ∧ behind.isBlankText = true ∧
    (l.document.comments.blockComment? (Placeholder.more missing) = some comment ∨
      l.document.comments.lineComment (Placeholder.more missing) = comment ∧
        behind.head? = some '\n')

theorem isBlankText_indents (d : Document) (n : Node) (c : Collection) :
    (Layout.of d n c).elementIndent.isBlankText = true ∧
      (Layout.of d n c).closerIndent.isBlankText = true := by
  have hindent : ∀ offset, (d.lines.indentAt offset).isBlankText = true :=
    d.lines.isBlankText_indentAt
  constructor
  · unfold Layout.of
    dsimp only
    split
    · split
      · exact hindent _
      · exact d.isBlankText_deeper (hindent _)
    · exact d.isBlankText_deeper (hindent _)
  · show (if (d.lines.lineFront c.close.start).isBlankText then
      d.lines.lineFront c.close.start else d.lines.indentAt n.start).isBlankText = true
    split
    next hblank => exact hblank
    next => exact hindent _

/-- What stands for missing elements does not depend on the text in front of it. -/
theorem exists_ending {profile : Profile} {d : Document} {n : Node} {l : Layout}
    (hl : layout? profile d n = some l) (anyKept : Bool) (missing : Nat) :
    ∃ ending, l.IsEnding anyKept missing ending ∧
      ∀ kept, l.close kept anyKept missing = kept ++ ending ++ l.closer := by
  obtain ⟨c, -, rfl⟩ := Option.map_eq_some_iff.mp hl
  obtain ⟨helement, hcloser⟩ := isBlankText_indents d n c
  generalize Layout.of d n c = l at *
  let comma : Text := if anyKept then [','] else []
  let marker := Placeholder.more missing
  have honOwnLine : l.IsEnding anyKept missing (comma ++ (['\n'] ++ l.elementIndent) ++
      l.document.comments.lineComment marker ++ (['\n'] ++ l.closerIndent)) :=
    ⟨_, _, _, rfl, Bool.and_eq_true_iff.mpr ⟨rfl, helement⟩,
      Bool.and_eq_true_iff.mpr ⟨rfl, hcloser⟩, .inr ⟨rfl, rfl⟩⟩
  unfold close
  dsimp only
  split
  · exact ⟨_, honOwnLine, fun kept => by simp only [List.append_assoc, comma, marker]⟩
  · split
    next comment hcomment =>
      refine ⟨comma ++ (if anyKept then [' '] else []) ++ comment ++ [],
        ⟨_, _, _, rfl, by cases anyKept <;> rfl, rfl, .inl hcomment⟩, fun kept => ?_⟩
      cases anyKept <;> simp [comma]
    · exact ⟨_, honOwnLine, fun kept => by simp only [List.append_assoc, comma, marker]⟩

end Layout

/-! ### Layouts of nested trees -/

/-- Each gap of a layout lies between two neighbours in the row of brackets and elements. -/
theorem Layout.exists_neighbours {l : Layout} {first last : Node}
    (hopen : l.collection.openEnd = first.stop) (hclose : l.collection.close = last.span) {k : Nat}
    (hk : k ≤ l.length) :
    ∃ a b, (first :: (l.collection.elements ++ [last]))[k]? = some a ∧
      (first :: (l.collection.elements ++ [last]))[k + 1]? = some b ∧
      l.keptEnd k = a.stop ∧ l.gapEnd k = b.start := by
  obtain ⟨a, ha, hkept⟩ : ∃ a, (first :: (l.collection.elements ++ [last]))[k]? = some a ∧
      l.keptEnd k = a.stop := by
    cases k with
    | zero => exact ⟨first, rfl, hopen⟩
    | succ j =>
      have he : l.collection.elements[j]? = some l.collection.elements[j] :=
        List.getElem?_eq_getElem hk
      refine ⟨_, ?_, keptEnd_succ he⟩
      rw [List.getElem?_cons_succ, List.getElem?_append_left hk, he]
  obtain ⟨b, hb, hnext⟩ : ∃ b, (l.collection.elements ++ [last])[k]? = some b ∧
      l.gapEnd k = b.start := by
    rcases Nat.lt_or_eq_of_le hk with hlt | rfl
    · have he : l.collection.elements[k]? = some l.collection.elements[k] :=
        List.getElem?_eq_getElem hlt
      exact ⟨_, (List.getElem?_append_left hlt).trans he, gapEnd_eq he⟩
    · refine ⟨last, List.getElem?_concat_length, ?_⟩
      rw [gapEnd_length, hclose]
      rfl
  exact ⟨a, b, ha, hb, hkept, hnext⟩

section
variable {d : Document} {n : Node} (hn : n ∈ d.nodes) {c : Collection}
  (h : d.language.profile.collection? n = some c)
include hn h

theorem container_mem_nodes : c.container ∈ d.nodes := by
  obtain ⟨container, hcontainer, hc⟩ := Option.bind_eq_some_iff.mp h
  obtain ⟨-, -, -, -, rfl, -⟩ := Collection.exists_of_ofContainer? hc
  rcases Language.eq_or_mem_of_container? hcontainer with heq | hchild
  · rwa [heq]
  · exact Document.mem_nodes_of_mem_children hn hchild

theorem elements_mem_nodes {e : Node} (he : e ∈ c.elements) : e ∈ d.nodes := by
  obtain ⟨container, -, hc⟩ := Option.bind_eq_some_iff.mp h
  obtain ⟨first, middle, last, hchildren, rfl, helements, -⟩ :=
    Collection.exists_of_ofContainer? hc
  refine Document.mem_nodes_of_mem_children (container_mem_nodes hn h) ?_
  rw [hchildren]
  exact List.mem_cons_of_mem _ (List.mem_append_left _ (helements.subset he))

theorem isLaid_of_collection? (hd : d.IsNested) : (Layout.of d n c).IsLaid := by
  have hmem := container_mem_nodes hn h
  obtain ⟨container, hcontainer, hc⟩ := Option.bind_eq_some_iff.mp h
  obtain ⟨first, middle, last, hchildren, rfl, helements, hopen, hclose⟩ :=
    Collection.exists_of_ofContainer? hc
  obtain ⟨hstart, hstop⟩ : n.start ≤ c.container.start ∧ c.container.stop ≤ n.stop := by
    rcases Language.eq_or_mem_of_container? hcontainer with heq | hchild
    · rw [heq]
      exact ⟨Nat.le_refl _, Nat.le_refl _⟩
    · exact hd.span_le hn hchild
  let row := first :: (c.elements ++ [last])
  have hrow : row.Sublist c.container.children :=
    hchildren ▸ (helements.append_right [last]).cons_cons first
  have hordered : row.Pairwise fun a b => a.stop ≤ b.start :=
    (hd.children_pairwise hmem).sublist hrow
  have hstretch : ∀ m ∈ row, d.IsStretch m.start m.stop :=
    fun m hm => hd.stretch m (Document.mem_nodes_of_mem_children hmem (hrow.subset hm))
  have hfirstMem : first ∈ row := List.mem_cons_self
  have hlastMem : last ∈ row := List.mem_cons_of_mem _ (List.mem_append_right _ (by simp))
  have hfirst := hstretch first hfirstMem
  have hlast := hstretch last hlastMem
  have hnode := hd.stretch n hn
  have hfront := (hd.span_le hmem (hrow.subset hfirstMem)).1
  have hback := (hd.span_le hmem (hrow.subset hlastMem)).2
  have hopenStart : (Layout.of d n c).openStart = first.start := by
    show (c.container.children.head?.map Node.start).getD _ = _
    rw [hchildren]
    rfl
  exact
    { front := hopenStart ▸
        ⟨hnode.isBoundary_start, hfirst.isBoundary_start, hstart.trans hfront⟩
      opening := by
        rw [hopenStart]
        show d.IsStretch first.start c.openEnd
        rwa [hopen]
      gap := fun k hk => by
        obtain ⟨a, b, ha, hb, hkept, hnext⟩ := Layout.exists_neighbours hopen hclose hk
        obtain ⟨hlt, ha'⟩ := List.getElem?_eq_some_iff.mp ha
        obtain ⟨hlt', hb'⟩ := List.getElem?_eq_some_iff.mp hb
        have hle := List.pairwise_iff_getElem.mp hordered k (k + 1) hlt hlt' (Nat.lt_succ_self k)
        rw [hkept, hnext]
        refine ⟨(hstretch a (List.mem_of_getElem? ha)).isBoundary_stop,
          (hstretch b (List.mem_of_getElem? hb)).isBoundary_start, ?_⟩
        rwa [← ha', ← hb']
      element := fun e he =>
        hstretch e (List.mem_cons_of_mem _ (List.mem_append_left _ he))
      closing := by
        show d.IsStretch c.close.start c.close.stop
        rwa [hclose]
      back := by
        show d.IsStretch c.close.stop n.stop
        rw [hclose]
        exact ⟨hlast.isBoundary_stop, hnode.isBoundary_stop, hback.trans hstop⟩ }

end

section
variable {d : Document} {n : Node} (hn : n ∈ d.nodes) {l : Layout}
  (hl : layout? d.language.profile d n = some l)
include hn hl

theorem isLaid_of_layout? (hd : d.IsNested) : l.IsLaid := by
  obtain ⟨c, hc, rfl⟩ := Option.map_eq_some_iff.mp hl
  exact isLaid_of_collection? hn hc hd

theorem mem_nodes_of_layout? {e : Node} (he : e ∈ l.collection.elements) : e ∈ d.nodes := by
  obtain ⟨c, hc, rfl⟩ := Option.map_eq_some_iff.mp hl
  exact elements_mem_nodes hn hc he

end

/-! ### Collections in elements -/

/-- The collection in an element is found in the element or in a child of it. -/
theorem mem_wrapping_of_nested? {profile : Profile} {d : Document} {e m : Node}
    (h : nested? profile d e = some m) : m ∈ e.wrapping ∨ ∃ c ∈ e.children, m ∈ c.wrapping := by
  rcases Option.or_eq_some_iff.mp h with hself | ⟨-, hvalue⟩
  · exact .inl (List.mem_of_find?_eq_some hself)
  · obtain ⟨c, hc, hfind⟩ := Option.bind_eq_some_iff.mp hvalue
    have hchild : c ∈ e.children := (List.mem_filter.mp (List.mem_of_getLast? hc)).1
    exact .inr ⟨c, hchild, List.mem_of_find?_eq_some hfind⟩

section
variable {d : Document} (hd : d.IsNested) {e m : Node} (he : e ∈ d.nodes)
include hd he

theorem within_of_mem_wrapping (h : m ∈ e.wrapping) :
    m ∈ d.nodes ∧ e.start ≤ m.start ∧ m.stop ≤ e.stop := by
  fun_induction Node.wrapping e with
  | case1 e =>
    obtain rfl := List.mem_singleton.mp h
    exact ⟨he, Nat.le_refl _, Nat.le_refl _⟩
  | case2 e c hc ih =>
    have hchild := Node.mem_children_of_onlyChild? hc
    rcases List.mem_cons.mp h with rfl | h
    · exact ⟨he, Nat.le_refl _, Nat.le_refl _⟩
    · obtain ⟨hstart, hstop⟩ := hd.span_le he hchild
      obtain ⟨hm, hstart', hstop'⟩ := ih (Document.mem_nodes_of_mem_children he hchild) h
      exact ⟨hm, hstart.trans hstart', hstop'.trans hstop⟩

/-- The collection in an element lies inside it. -/
theorem within_of_nested? {profile : Profile} (h : nested? profile d e = some m) :
    m ∈ d.nodes ∧ e.start ≤ m.start ∧ m.stop ≤ e.stop := by
  rcases mem_wrapping_of_nested? h with h | ⟨c, hc, h⟩
  · exact within_of_mem_wrapping hd he h
  · obtain ⟨hstart, hstop⟩ := hd.span_le he hc
    obtain ⟨hm, hstart', hstop'⟩ :=
      within_of_mem_wrapping hd (Document.mem_nodes_of_mem_children he hc) h
    exact ⟨hm, hstart.trans hstart', hstop'.trans hstop⟩

end

end Literal

end Abridge
