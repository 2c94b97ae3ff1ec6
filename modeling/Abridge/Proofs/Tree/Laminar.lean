import Abridge.Proofs.Tree.WellFormed

/-!
Two nodes of a document.

Every node but the root is a child of a node of the document (`exists_parent`), and its path tells
it apart from all others (`eq_of_path_eq`). Queries find nodes of the document
(`mem_nodes_of_queryNodes`). In a nested tree two nodes either lie apart, so that one ends before
the other begins, or one of them holds the other (`IsNested.holds_or_stop_le`).
-/
namespace Abridge

namespace Node

/-- The parent of a child is the node whose child it is. -/
theorem parent?_of_mem_children {n c : Node} (h : c ∈ n.children) : c.parent? = some n := by
  have hclose : ∀ (label : Label) (above : List Frame) (ts before : List Tree),
      ∀ c ∈ siblingsAfter label above before ts,
        c.parent? = some ⟨.node label (before.reverse ++ ts), above⟩ := by
    intro label above ts
    induction ts with
    | nil => exact fun _ _ h => absurd h List.not_mem_nil
    | cons t ts ih =>
      intro before c hc
      rcases List.mem_cons.mp hc with rfl | hc
      · rfl
      · rw [ih (t :: before) c hc, List.reverse_cons, List.append_assoc]
        rfl
  obtain ⟨⟨label, ts⟩, above⟩ := n
  exact hclose label above ts [] c h

/-- Above a child stand the node whose child it is and all above that. -/
theorem ancestors_of_mem_children {n c : Node} (h : c ∈ n.children) :
    c.ancestors = n :: n.ancestors := by
  have hparent := parent?_of_mem_children h
  obtain ⟨t, above⟩ := c
  cases above with
  | nil => cases hparent
  | cons f above =>
    obtain rfl := Option.some.inj hparent
    rfl

/-- Whatever a walk comes by was on its stack or is a child of something that it comes by. -/
theorem mem_or_exists_parent_of_mem_walk {stack : List Node} {n : Node} (h : n ∈ walk stack) :
    n ∈ stack ∨ ∃ p ∈ walk stack, n ∈ p.children := by
  induction stack using walk.induct with
  | case1 =>
    rw [walk] at h
    exact .inl h
  | case2 m stack ih =>
    rw [walk] at h ⊢
    rcases List.mem_cons.mp h with rfl | h
    · exact .inl List.mem_cons_self
    · rcases ih h with hmem | ⟨p, hp, hn⟩
      · rcases List.mem_append.mp hmem with hmem | hmem
        · exact .inr ⟨m, List.mem_cons_self, hmem⟩
        · exact .inl (List.mem_cons_of_mem m hmem)
      · exact .inr ⟨p, List.mem_cons_of_mem m hp, hn⟩

/-- Whether two nodes lie apart in their tree: neither is the other or encloses it. -/
def IsApart (n m : Node) : Prop :=
  ¬ n.Holds m ∧ ¬ m.Holds n

end Node

namespace Document
variable {d : Document} {n m p : Node}

theorem exists_parent (h : n ∈ d.nodes) : n = d.root ∨ ∃ p ∈ d.nodes, n ∈ p.children := by
  rcases List.mem_cons.mp h with h | h
  · exact .inl h
  · rcases Node.mem_or_exists_parent_of_mem_walk h with hchild | ⟨p, hp, hchild⟩
    · exact .inr ⟨d.root, d.root_mem_nodes, hchild⟩
    · exact .inr ⟨p, List.mem_cons_of_mem _ hp, hchild⟩

/-- Different nodes of a document have different paths. -/
theorem eq_of_path_eq (hn : n ∈ d.nodes) (hm : m ∈ d.nodes) (h : n.path = m.path) : n = m := by
  induction hlength : n.path.length using Nat.strong_induction_on generalizing n m with
  | _ length ih =>
    rcases exists_parent hn with rfl | ⟨p, hp, hnp⟩ <;>
      rcases exists_parent hm with rfl | ⟨q, hq, hmq⟩
    · rfl
    · have := Node.length_path_of_mem_children hmq
      rw [← h] at this
      cases this
    · have := Node.length_path_of_mem_children hnp
      rw [h] at this
      cases this
    · obtain ⟨pre, post, hsplit⟩ := List.append_of_mem hnp
      obtain ⟨pre', post', hsplit'⟩ := List.append_of_mem hmq
      have hpath := Node.path_eq hsplit
      obtain ⟨hpre, hpaths⟩ := List.cons.inj (hpath.symm.trans (h.trans (Node.path_eq hsplit')))
      obtain rfl := ih p.path.length (by rw [← hlength, hpath, List.length_cons]; omega) hp hq
        hpaths rfl
      obtain ⟨-, hcons⟩ := List.append_inj (hsplit.symm.trans hsplit') hpre
      exact (List.cons.inj hcons).1

/-- Two nodes of which neither encloses the other are one or lie apart. -/
theorem isApart_of_not_encloses (hn : n ∈ d.nodes) (hm : m ∈ d.nodes) (hne : n ≠ m)
    (hnm : n.encloses m = false) (hmn : m.encloses n = false) : n.IsApart m := by
  have hpath : n.path ≠ m.path := fun heq => hne (eq_of_path_eq hn hm heq)
  constructor
  · intro hholds
    rw [Node.encloses_iff.mpr ⟨hholds, hpath⟩] at hnm
    cases hnm
  · intro hholds
    rw [Node.encloses_iff.mpr ⟨hholds, hpath.symm⟩] at hmn
    cases hmn

/-- The parent of a node is a node, and the node is one of its children. -/
theorem mem_children_of_parent? (hn : n ∈ d.nodes) (h : n.parent? = some p) :
    p ∈ d.nodes ∧ n ∈ p.children := by
  rcases exists_parent hn with rfl | ⟨q, hq, hnq⟩
  · cases h
  · obtain rfl := Option.some.inj ((Node.parent?_of_mem_children hnq).symm.trans h)
    exact ⟨hq, hnq⟩

/-! ### What queries find -/

theorem mem_nodes_of_mem_capturesOf {selectors : List Selector} {capture : Capture}
    (h : capture ∈ d.capturesOf selectors) : capture.node ∈ d.nodes := by
  obtain ⟨n, hn, s, -, hcapture⟩ := exists_of_mem_capturesOf h
  have hchild : ∀ {q : Node → Bool}, ∀ c ∈ n.children.filter q, c ∈ d.nodes :=
    fun c hc => mem_nodes_of_mem_children hn (List.mem_filter.mp hc).1
  cases s <;> rw [select] at hcapture <;> split at hcapture
  next => exact List.mem_singleton.mp hcapture ▸ hn
  next => cases hcapture
  next =>
    obtain ⟨c, hc, hcapture⟩ := List.mem_flatMap.mp hcapture
    rcases List.mem_cons.mp hcapture with rfl | hcapture
    · exact hn
    · obtain ⟨l, -, rfl⟩ := Option.map_eq_some_iff.mp (Option.mem_toList.mp hcapture)
      exact hchild c (List.mem_filter.mp hc).1
  next => cases hcapture
  next =>
    obtain ⟨c, hc, rfl⟩ := List.mem_map.mp hcapture
    exact hchild c hc
  next => cases hcapture

theorem mem_nodes_of_query {name : String} {captures : List Capture}
    (h : d.query name = .ok captures) {capture : Capture} (hcapture : capture ∈ captures) :
    capture.node ∈ d.nodes := by
  unfold query at h
  cases hquery : d.grammar.query? name with
  | none =>
    rw [hquery] at h
    cases h
  | some query =>
    rw [hquery] at h
    obtain rfl := Except.ok.inj h
    exact mem_nodes_of_mem_capturesOf hcapture

theorem mem_nodes_of_queryNodes {name label : String} {found : List Node}
    (h : d.queryNodes name label = .ok found) (hn : n ∈ found) : n ∈ d.nodes := by
  unfold queryNodes at h
  cases hcaptures : d.query name with
  | error e =>
    rw [hcaptures] at h
    cases h
  | ok captures =>
    rw [hcaptures] at h
    obtain rfl := Except.ok.inj h
    obtain ⟨capture, hcapture, rfl⟩ := List.mem_map.mp hn
    exact mem_nodes_of_query hcaptures (List.mem_filter.mp hcapture).1

/-! ### Nested trees -/

namespace IsNested
variable (hd : d.IsNested)
include hd

/-- What lies below a node lies in one of its children. -/
theorem exists_child_of_encloses (hp : p ∈ d.nodes) (hm : m ∈ d.nodes)
    (h : p.encloses m = true) : ∃ c ∈ p.children, c.Holds m ∧ c.start ≤ m.start ∧
      m.stop ≤ c.stop := by
  induction hlength : m.path.length using Nat.strong_induction_on generalizing m with
  | _ length ih =>
    obtain ⟨hholds, hne⟩ := Node.encloses_iff.mp h
    rcases exists_parent hm with rfl | ⟨q, hq, hmq⟩
    · exact absurd (List.suffix_nil.mp hholds) hne
    · obtain ⟨pre, post, hsplit⟩ := List.append_of_mem hmq
      have hpath := Node.path_eq hsplit
      have hq' : p.Holds q := by
        rw [Node.Holds, hpath, List.suffix_cons_iff] at hholds
        exact hholds.resolve_left fun heq => hne (heq.trans hpath.symm)
      by_cases heq : p.path = q.path
      · obtain rfl := eq_of_path_eq hp hq heq
        exact ⟨m, hmq, Node.Holds.refl m, Nat.le_refl _, Nat.le_refl _⟩
      · obtain ⟨c, hc, hholds, hstart, hstop⟩ := ih q.path.length
          (by rw [← hlength, hpath, List.length_cons]; omega) hq
          (Node.encloses_iff.mpr ⟨hq', heq⟩) rfl
        have hspan := hd.span_le hq hmq
        exact ⟨c, hc, hholds.trans (Node.holds_of_encloses (Node.encloses_of_mem_children hmq)),
          hstart.trans hspan.1, hspan.2.trans hstop⟩

/-- Whatever a node holds lies within it. -/
theorem span_le_of_holds (hp : p ∈ d.nodes) (hm : m ∈ d.nodes) (h : p.Holds m) :
    p.start ≤ m.start ∧ m.stop ≤ p.stop := by
  by_cases hpath : p.path = m.path
  · obtain rfl := eq_of_path_eq hp hm hpath
    exact ⟨Nat.le_refl _, Nat.le_refl _⟩
  · obtain ⟨c, hc, -, hstart, hstop⟩ :=
      hd.exists_child_of_encloses hp hm (Node.encloses_iff.mpr ⟨h, hpath⟩)
    have hspan := hd.span_le hp hc
    exact ⟨hspan.1.trans hstart, hstop.trans hspan.2⟩

/-- Of two nodes, one holds the other or one ends before the other begins. -/
theorem holds_or_stop_le (hn : n ∈ d.nodes) (hm : m ∈ d.nodes) :
    (n.Holds m ∨ m.Holds n) ∨ n.stop ≤ m.start ∨ m.stop ≤ n.start := by
  induction hlength : n.path.length using Nat.strong_induction_on generalizing n with
  | _ length ih =>
    rcases exists_parent hn with rfl | ⟨p, hp, hnp⟩
    · exact .inl (.inl (List.nil_suffix))
    · have hlt := Node.length_path_of_mem_children hnp
      have hpn := Node.holds_of_encloses (Node.encloses_of_mem_children hnp)
      have hspan := hd.span_le hp hnp
      rcases ih p.path.length (by omega) hp rfl with (hpm | hmp) | hle | hle
      · by_cases heq : p.path = m.path
        · exact .inl (.inr (show m.path <:+ n.path from heq ▸ hpn))
        · -- The other node lies in a child of the parent: in this node or in a sibling of it.
          obtain ⟨c, hc, hcm, hstart, hstop⟩ :=
            hd.exists_child_of_encloses hp hm (Node.encloses_iff.mpr ⟨hpm, heq⟩)
          by_cases hnc : n = c
          · exact .inl (.inl (hnc ▸ hcm))
          · rcases Node.rel_or_rel (hd.children_pairwise hp) hnp hc hnc with h | h
            · exact .inr (.inl (h.trans hstart))
            · exact .inr (.inr (hstop.trans h))
      · exact .inl (.inr (hmp.trans hpn))
      · exact .inr (.inl (hspan.2.trans hle))
      · exact .inr (.inr (hle.trans hspan.1))

/-- Nodes that lie apart in the tree do so in the text. -/
theorem stop_le_of_isApart (hn : n ∈ d.nodes) (hm : m ∈ d.nodes) (h : n.IsApart m) :
    n.stop ≤ m.start ∨ m.stop ≤ n.start :=
  (hd.holds_or_stop_le hn hm).resolve_left fun hholds => hholds.elim h.1 h.2

end IsNested

end Document

end Abridge
