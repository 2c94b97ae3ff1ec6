import Abridge.Declaration.Reduction
import Abridge.Proofs.Profile.Layout
import Abridge.Proofs.Tree.Laminar

/-!
Blocks of Python.

Declarations and docstrings of Python stand in scopes: the module and blocks
(`exists_scope_of_mem_declarations`). What is taken out of a scope starts and ends with a child of
it (`Node.IsCut`). So where edits take such cuts out of scopes, and take all statements of a block
but not what the block belongs to, then no cut of another scope reaches into the block
(`IsPython.scope_eq`): a scope around the block would lose what the block belongs to
(`contains_owner`), and the cut of a scope further in would lie in the statement that it is a part
of, and so in another edit (`exists_statement_around`).
-/
namespace Abridge

/-! ### The grammar -/

/-- Whether a node is one in which declarations and docstrings stand. -/
structure Document.IsScope (d : Document) (n : Node) : Prop where
  mem : n ∈ d.nodes
  kind : n.kind = "module" ∨ n.kind = "block"

/-- Whether a tree is one that the grammar of Python gives, so far as blocks go. Statements begin
with something that can be seen. A module is the root, and the body of a class is a block. A block
holds a statement, stands behind the head of the statement or clause that it belongs to, and lies in
nodes of the grammar alone, neither in tokens nor in comments. -/
structure Document.IsPython (d : Document) : Prop where
  language : d.language = .python
  nested : d.IsNested
  solid : ∀ scope, d.IsScope scope → ∀ c ∈ scope.children, d.IsSolid c.span
  root : ∀ n ∈ d.nodes, n.kind = "module" ↔ n.parent? = none
  body : ∀ n ∈ d.nodes, n.kind = "class_definition" →
    ∀ body ∈ n.inField? "body", body.kind = "block"
  filled : ∀ b ∈ d.nodes, b.kind = "block" → b.statements ≠ []
  owner : ∀ b ∈ d.nodes, b.kind = "block" → ∃ owner ∈ b.parent?,
    owner.kind ≠ "module" ∧ owner.kind ≠ "block" ∧ owner.start < b.start
  around : ∀ b ∈ d.nodes, b.kind = "block" → ∀ n ∈ d.nodes, n.encloses b = true →
    n.isNamed = true ∧ n.isComment = false

theorem Document.IsPython.isScope_root {d : Document} (hd : d.IsPython) : d.IsScope d.root :=
  ⟨d.root_mem_nodes, .inl ((hd.root d.root d.root_mem_nodes).mpr rfl)⟩

theorem Document.IsPython.isScope_body {d : Document} (hd : d.IsPython) {n body : Node}
    (hn : n ∈ d.nodes) (hkind : n.kind = "class_definition")
    (hbody : n.inField? "body" = some body) : d.IsScope body :=
  ⟨Document.mem_nodes_of_mem_children hn (Node.mem_children_of_inField? hbody),
    .inr (hd.body n hn hkind body hbody)⟩

/-! ### Cuts -/

namespace Node

/-- Whether a span takes some children out of a node, from the first of them to the last. -/
structure IsCut (n : Node) (s : Span) : Prop where
  first : ∃ c ∈ n.children, s.start = c.start
  last : ∃ c ∈ n.children, s.stop = c.stop
  start_lt_stop : s.start < s.stop

/-- Where children begin with something that can be seen, so does what is cut out of them. -/
theorem IsCut.isSolid {d : Document} {n : Node} {s : Span} (h : n.IsCut s)
    (hsolid : ∀ c ∈ n.children, d.IsSolid c.span) : d.IsSolid s := by
  obtain ⟨first, hfirst, hstart⟩ := h.first
  obtain ⟨last, hlast, hstop⟩ := h.last
  exact {
    isBoundary_start := hstart ▸ (hsolid first hfirst).isBoundary_start
    isBoundary_stop := hstop ▸ (hsolid last hlast).isBoundary_stop
    start_lt_stop := h.start_lt_stop
    opens := hstart ▸ (hsolid first hfirst).opens }

/-- What holds a node, and is not that node, holds its parent. -/
theorem holds_parent {n m p : Node} (h : n.Holds m) (hm : m ∈ p.children)
    (hne : n.path ≠ m.path) : n.Holds p := by
  obtain ⟨pre, post, hsplit⟩ := List.append_of_mem hm
  have hpath := path_eq hsplit
  rw [Holds, hpath, List.suffix_cons_iff, ← hpath] at h
  exact h.resolve_left hne

section
variable {d : Document} (hd : d.IsNested) {n c : Node} (hn : n ∈ d.nodes) {s : Span}
  (h : n.IsCut s)
include hd hn h

theorem IsCut.span_le : n.start ≤ s.start ∧ s.stop ≤ n.stop := by
  obtain ⟨first, hfirst, hstart⟩ := h.first
  obtain ⟨last, hlast, hstop⟩ := h.last
  rw [hstart, hstop]
  exact ⟨(hd.span_le hn hfirst).1, (hd.span_le hn hlast).2⟩

/-- Children are taken whole. -/
theorem IsCut.contains (hc : c ∈ n.children) (hstart : s.start < c.stop)
    (hstop : c.start < s.stop) : s.contains c.span = true := by
  obtain ⟨first, hfirst, hs⟩ := h.first
  obtain ⟨last, hlast, hs'⟩ := h.last
  have hrow := hd.children_pairwise hn
  have hspan : c.start ≤ c.stop := c.span.start_le_stop
  refine Span.contains_iff.mpr ⟨?_, ?_⟩
  · by_cases heq : c = first
    · exact (heq ▸ hs).le
    · have hle := first.span.start_le_stop
      rcases rel_or_rel hrow hc hfirst heq with hle' | hle'
      · omega
      · exact hs.trans_le (hle.trans hle')
  · by_cases heq : c = last
    · exact (heq ▸ hs').ge
    · have hle := last.span.start_le_stop
      rcases rel_or_rel hrow hc hlast heq with hle' | hle'
      · exact (hle'.trans hle).trans hs'.ge
      · omega

end

/-- Whether edits empty a block: each of its statements lies inside one of them, but what the block
belongs to does not. The block itself may: it is no longer than its statements, which go in one edit
if they are of one sort. -/
structure IsEmptiedBy (block : Node) (edits : List Edit) : Prop where
  statements : ∀ s ∈ block.statements, ∃ e ∈ edits, e.span.contains s.span = true
  owner : ∀ owner ∈ block.parent?, ∀ e ∈ edits, e.span.contains owner.span = false

/-- A block that lies in no edit is emptied if each of its statements lies in one. -/
theorem isEmptiedBy_of_not_contains {d : Document} (hd : d.IsNested) {block : Node}
    (hblock : block ∈ d.nodes) {edits : List Edit}
    (hstatements : ∀ s ∈ block.statements, ∃ e ∈ edits, e.span.contains s.span = true)
    (hnot : ∀ e ∈ edits, e.span.contains block.span = false) : block.IsEmptiedBy edits := by
  refine ⟨hstatements, fun owner howner e he => ?_⟩
  obtain ⟨howners, hchild⟩ := Document.mem_children_of_parent? hblock howner
  have hin := hd.span_le howners hchild
  refine Bool.eq_false_iff.mpr fun hcontains => ?_
  have hout := Span.contains_iff.mp hcontains
  have hlost : e.span.contains block.span = true :=
    Span.contains_iff.mpr ⟨hout.1.trans hin.1, hin.2.trans hout.2⟩
  rw [hnot e he] at hlost
  cases hlost

end Node

/-! ### Emptied blocks -/

namespace Document.IsPython
variable {d : Document} (hd : d.IsPython) {block scope : Node} (hblock : block ∈ d.nodes)
  (hkind : block.kind = "block") (hscope : d.IsScope scope)
include hd hblock hkind hscope

/-- What is cut out of a scope around a block, and reaches into the block, takes along what the
block belongs to. -/
theorem contains_owner (henclose : scope.encloses block = true) {s : Span} (hcut : scope.IsCut s)
    (hfront : s.start < block.stop) (hback : block.start < s.stop) :
    ∃ owner ∈ block.parent?, s.contains owner.span = true := by
  obtain ⟨owner, howner, hmodule, hnoblock, -⟩ := hd.owner block hblock hkind
  obtain ⟨howners, hchild⟩ := mem_children_of_parent? hblock howner
  obtain ⟨c, hc, hcblock, hstart, hstop⟩ :=
    hd.nested.exists_child_of_encloses hscope.mem hblock henclose
  have hnodes := mem_nodes_of_mem_children hscope.mem hc
  have hpath : c.path ≠ block.path := by
    intro heq
    obtain rfl := eq_of_path_eq hnodes hblock heq
    obtain rfl := Option.some.inj (howner.symm.trans (Node.parent?_of_mem_children hc))
    exact hscope.kind.elim hmodule hnoblock
  have hwhole := Span.contains_iff.mp <| hcut.contains hd.nested hscope.mem hc
    (hfront.trans_le hstop) (hstart.trans_lt hback)
  have hin := hd.nested.span_le_of_holds hnodes howners (Node.holds_parent hcblock hchild hpath)
  exact ⟨owner, howner, Span.contains_iff.mpr ⟨hwhole.1.trans hin.1, hin.2.trans hwhole.2⟩⟩

/-- A scope inside a block is a part of one of its statements, behind the head of that. -/
theorem exists_statement_around (henclose : block.encloses scope = true) :
    ∃ c ∈ block.statements, c.start < scope.start ∧ scope.stop ≤ c.stop := by
  have hscopeKind : scope.kind = "block" := by
    refine hscope.kind.resolve_left fun hmodule => ?_
    have hroot := (hd.root scope hscope.mem).mp hmodule
    rcases exists_parent hscope.mem with rfl | ⟨p, -, hchild⟩
    · exact absurd (Node.length_lt_of_encloses henclose) (Nat.not_lt_zero _)
    · rw [Node.parent?_of_mem_children hchild] at hroot
      cases hroot
  obtain ⟨owner, howner, -, hnoblock, hhead⟩ := hd.owner scope hscope.mem hscopeKind
  obtain ⟨howners, hchild⟩ := mem_children_of_parent? hscope.mem howner
  obtain ⟨c, hc, hcscope, -, hstop⟩ :=
    hd.nested.exists_child_of_encloses hblock hscope.mem henclose
  have hnodes := mem_nodes_of_mem_children hblock hc
  have hpath : c.path ≠ scope.path := by
    intro heq
    obtain rfl := eq_of_path_eq hnodes hscope.mem heq
    obtain rfl := Option.some.inj (howner.symm.trans (Node.parent?_of_mem_children hc))
    exact hnoblock hkind
  obtain ⟨hnamed, hcomment⟩ := hd.around scope hscope.mem hscopeKind c hnodes
    (Node.encloses_iff.mpr ⟨hcscope, hpath⟩)
  have hin := hd.nested.span_le_of_holds hnodes howners (Node.holds_parent hcscope hchild hpath)
  refine ⟨c, ?_, hin.1.trans_lt hhead, hstop⟩
  simp [Node.statements, Node.namedChildren, hc, hnamed, hcomment]

/-- **An edit that reaches into an emptied block is a cut of that block**, if it is one of any
scope. -/
theorem scope_eq {edits : List Edit} (hapart : ∀ e ∈ edits, ∀ f ∈ edits, e ≠ f → e.Apart f)
    (hemptied : block.IsEmptiedBy edits) {e : Edit} (he : e ∈ edits) (hcut : scope.IsCut e.span)
    (hfront : e.span.start < block.stop) (hback : block.start < e.span.stop) : scope = block := by
  have hspan := hcut.span_le hd.nested hscope.mem
  have hlt := hcut.start_lt_stop
  by_contra hne
  have hpath : scope.path ≠ block.path := fun heq => hne (eq_of_path_eq hscope.mem hblock heq)
  rcases hd.nested.holds_or_stop_le hscope.mem hblock with (hholds | hholds) | hle | hle
  · obtain ⟨owner, howner, hlost⟩ := hd.contains_owner hblock hkind hscope
      (Node.encloses_iff.mpr ⟨hholds, hpath⟩) hcut hfront hback
    rw [hemptied.owner owner howner e he] at hlost
    cases hlost
  · -- The statement around the scope lies in another edit, and so the two collide.
    obtain ⟨c, hc, hstart, hstop⟩ := hd.exists_statement_around hblock hkind hscope
      (Node.encloses_iff.mpr ⟨hholds, hpath.symm⟩)
    obtain ⟨f, hf, hcontains⟩ := hemptied.statements c hc
    have hin := Span.contains_iff.mp hcontains
    have hbefore : f.span.start < e.span.start := (hin.1.trans_lt hstart).trans_le hspan.1
    have hbehind : e.span.stop ≤ f.span.stop := (hspan.2.trans hstop).trans hin.2
    have hef : e ≠ f := fun heq => Nat.lt_irrefl _ (heq ▸ hbefore)
    have hcollides : e.span.collides f.span = true :=
      Span.collides_iff.mpr ⟨hlt.trans_le hbehind, hbefore.trans hlt⟩
    rw [hapart e he f hf hef] at hcollides
    cases hcollides
  · omega
  · omega

end Document.IsPython

/-! ### Declarations -/

/-- Whether a declaration is a child of a node, taken out with what is attached to it. -/
structure Declaration.StandsIn (e : Declaration) (n : Node) : Prop where
  mem : e.statement ∈ n.children
  cut : n.IsCut e.span

namespace Profile.Python
variable {d : Document} {scope node outer : Node}

/-- What is declared at a child of a scope is the child, or what its decorators stand in front
of. -/
theorem statement_of (hscope : d.IsScope scope) (houter : outer ∈ scope.children)
    (hnode : node = outer ∨ outer.kind = "decorated_definition" ∧ node ∈ outer.children)
    (a : Attachments) (standing : Standing) :
    (Declaration.of d a node outer standing).statement = outer := by
  have hplain : ∀ kind ∈ "expression_statement" :: Function.wrapperKinds, scope.kind ≠ kind := by
    rcases hscope.kind with hkind | hkind <;> rw [hkind] <;> decide
  have hstop : (scope :: scope.ancestors).takeWhile
      (fun a => Function.wrapperKinds.contains a.kind) = [] := by
    rw [List.takeWhile_cons_of_neg]
    simpa using fun hmem => hplain _ (List.mem_cons_of_mem _ hmem) rfl
  have hwrapper : Function.wrapper node = outer := by
    rw [Function.wrapper]
    rcases hnode with rfl | ⟨hkind, hnode⟩
    · rw [Node.ancestors_of_mem_children houter, hstop]
      rfl
    · rw [Node.ancestors_of_mem_children hnode, List.takeWhile_cons_of_pos (by rw [hkind]; decide),
        Node.ancestors_of_mem_children houter, hstop]
      rfl
  have hkind := hplain "expression_statement" List.mem_cons_self
  simp [Declaration.statement, Declaration.of, hwrapper, Node.parent?_of_mem_children houter, hkind]

/-- A definition declares what stands at its place, and it goes on with the body of a class. -/
theorem declare_cases {inClass : Bool} {r : Declaration ⊕ (Bool × Node)}
    (hr : r ∈ declare d inClass node outer) :
    (∃ standing, r = .inl (.of d attachments node outer standing)) ∨
      ∃ body, r = .inr (true, body) ∧ node.kind = "class_definition" ∧
        node.inField? "body" = some body := by
  unfold declare at hr
  split at hr
  · obtain ⟨name, -, rfl⟩ := List.mem_map.mp hr
    exact .inl ⟨_, rfl⟩
  · split at hr
    next hkind =>
      obtain ⟨name, -, hr⟩ := List.mem_flatMap.mp hr
      rcases List.mem_cons.mp hr with rfl | hr
      · exact .inl ⟨_, rfl⟩
      · obtain ⟨body, hbody, rfl⟩ := List.mem_map.mp hr
        exact .inr ⟨body, rfl, eq_of_beq hkind, Option.mem_toList.mp hbody⟩
    · split at hr
      · obtain ⟨name, -, rfl⟩ := List.mem_map.mp hr
        exact .inl ⟨_, rfl⟩
      · split at hr
        · exact .inl ⟨_, List.mem_singleton.mp hr⟩
        · cases hr

/-- **Declarations stand in scopes.** -/
theorem exists_scope_of_mem_declarations (hd : d.IsPython) :
    ∀ e ∈ declarations d, ∃ scope, d.IsScope scope ∧ e.StandsIn scope := by
  refine Node.expand_induct (Q := d.IsScope)
    (P := fun _ ds => ∀ e ∈ ds, ∃ scope, d.IsScope scope ∧ Declaration.StandsIn e scope)
    (fun _ _ h => absurd h List.not_mem_nil) (fun inClass scope go hscope hgo e he => ?_) false
    d.root hd.isScope_root
  obtain ⟨r, hr, he⟩ := List.mem_flatMap.mp he
  obtain ⟨outer, houter, node, hnode, hr⟩ : ∃ outer ∈ scope.children, ∃ node,
      (node = outer ∨ outer.kind = "decorated_definition" ∧ node ∈ outer.children) ∧
        r ∈ declare d inClass node outer := by
    obtain ⟨child, hchild, hr⟩ := List.mem_flatMap.mp hr
    refine ⟨child, Node.mem_children_of_mem_namedChildren hchild, ?_⟩
    split at hr
    next hkind =>
      obtain ⟨node, hnode, hr⟩ := List.mem_flatMap.mp hr
      exact ⟨node, .inr ⟨eq_of_beq hkind,
        Node.mem_children_of_inField? (Option.mem_toList.mp hnode)⟩, hr⟩
    · exact ⟨child, .inl rfl, hr⟩
  have houters := Document.mem_nodes_of_mem_children hscope.mem houter
  rcases declare_cases hr with ⟨standing, rfl⟩ | ⟨body, rfl, hkind, hbody⟩
  · obtain rfl := List.mem_singleton.mp he
    refine ⟨scope, hscope, ?_, ?_⟩
    · rw [statement_of hscope houter hnode]
      exact houter
    · have hordered := hd.nested.isOrdered
      obtain ⟨hstart, hstop⟩ := hordered.span_of hscope.mem attachments node standing houter
      obtain ⟨first, hfirst, heq, -⟩ := hordered.exists_first hscope.mem attachments houter
      obtain ⟨last, hlast, heq', -⟩ := hordered.exists_last hscope.mem houter
      have hsolid := hordered.isSolid_of hscope.mem (hd.solid scope hscope) attachments node
        standing houter
      exact ⟨⟨first, hfirst, hstart.trans heq⟩, ⟨last, hlast, hstop.trans heq'⟩,
        hsolid.start_lt_stop⟩
  · have hnodes : node ∈ d.nodes := by
      rcases hnode with rfl | ⟨-, hnode⟩
      · exact houters
      · exact Document.mem_nodes_of_mem_children houters hnode
    exact hgo true body (hd.isScope_body hnodes hkind hbody) e he

end Profile.Python

/-- What is declared lies apart or inside one another. -/
theorem Document.IsPython.within_root {d : Document} (hd : d.IsPython) :
    Within d d.root (Profile.Python.declarations d) := by
  refine ⟨Profile.Python.isBelow_root hd.nested.isOrdered, fun e he => ?_⟩
  obtain ⟨scope, hscope, hin⟩ := Profile.Python.exists_scope_of_mem_declarations hd e he
  exact hin.cut.isSolid (hd.solid scope hscope)

end Abridge
