import Abridge.Proofs.Declaration.Extent
import Mathlib.Data.List.Forall2

/-!
Declarations lie apart or inside one another.

Collectors list declarations in the order of the text, an owner in front of its members. Of two
declarations in such a list the first is `Ahead`: either it ends before the second begins and
neither belongs to the other, or it holds the second. The lists are put together from what stands
below a node (`IsBelow`), behind the head of a node (`Inside`) and at one child of a node
(`IsGroup`): the groups of children in a row make up what stands below their parent
(`IsBelow.of_groups`), and a declaration with what stands inside it makes up a group
(`IsGroup.of_declaration`). All this takes no more than the order of the tree; that declarations
also begin with something that can be seen (`Within`) depends on where they were found.
-/
namespace Abridge

/-! ### Two declarations -/

/-- Whether the first of two declarations comes in front of the second, or around it. -/
inductive Declaration.Ahead (d : Document) (e f : Declaration) : Prop
  | apart (hspan : e.span.stop ≤ f.span.start) (hef : e.node.encloses f.node = false)
      (hfe : f.node.encloses e.node = false)
  | around (hnode : e.node.encloses f.node = true) (hspan : e.span.contains f.span = true)
      (hhead : d.HasHeads → e.span.start < f.span.start)

open Declaration (Ahead)

/-! ### Lists of declarations -/

/-- Whether declarations lie between two offsets, in order. -/
structure IsLaid (d : Document) (start stop : Nat) (ds : List Declaration) : Prop where
  bounds : ∀ e ∈ ds, start ≤ e.span.start ∧ e.span.stop ≤ stop
  inOrder : ds.Pairwise (Ahead d)

/-- Whether declarations lie below a node. -/
structure IsBelow (d : Document) (n : Node) (ds : List Declaration) : Prop
    extends IsLaid d n.start n.stop ds where
  below : ∀ e ∈ ds, n.encloses e.node = true

/-- Whether declarations lie below a node, and each begins with something that can be seen. -/
structure Within (d : Document) (n : Node) (ds : List Declaration) : Prop
    extends IsBelow d n ds where
  solid : ∀ e ∈ ds, d.IsSolid e.span

/-- Whether declarations lie below a node and behind its head. -/
structure Inside (d : Document) (n : Node) (ds : List Declaration) : Prop
    extends IsBelow d n ds where
  behind : d.HasHeads → ∀ e ∈ ds, n.start < e.span.start

/-- Whether declarations lie at a child of a node, with what is attached to it and its separator; a
child with declarations attaches to nothing itself. -/
structure IsGroup (d : Document) (a : Attachments) (c : Node) (ds : List Declaration) : Prop
    extends IsLaid d (a.start d c) (separatorEnd c) ds where
  below : ∀ e ∈ ds, c.Holds e.node
  firm : ds ≠ [] → a.admits d c = false

section
variable {d : Document} {a : Attachments} {n c : Node} {ds : List Declaration}

theorem IsLaid.nil (start stop : Nat) : IsLaid d start stop [] :=
  ⟨fun _ h => absurd h List.not_mem_nil, List.Pairwise.nil⟩

theorem IsLaid.mono {start stop start' stop' : Nat} (h : IsLaid d start stop ds)
    (hstart : start' ≤ start) (hstop : stop ≤ stop') : IsLaid d start' stop' ds where
  bounds e he := ⟨hstart.trans (h.bounds e he).1, (h.bounds e he).2.trans hstop⟩
  inOrder := h.inOrder

theorem IsBelow.nil (n : Node) : IsBelow d n [] :=
  ⟨.nil _ _, fun _ h => absurd h List.not_mem_nil⟩

theorem Inside.nil (n : Node) : Inside d n [] :=
  ⟨.nil _, fun _ _ h => absurd h List.not_mem_nil⟩

theorem IsGroup.nil (a : Attachments) (c : Node) : IsGroup d a c [] :=
  ⟨.nil _ _, fun _ h => absurd h List.not_mem_nil, fun h => absurd rfl h⟩

variable (hd : d.IsOrdered) (hn : n ∈ d.nodes) (hc : c ∈ n.children)
include hd hn hc

/-- What lies below a child lies below its parent. -/
theorem IsBelow.lift (h : IsBelow d c ds) : IsBelow d n ds where
  toIsLaid := h.toIsLaid.mono (hd.span_le hn hc).1 (hd.span_le hn hc).2
  below e he := Node.encloses_trans (Node.encloses_of_mem_children hc) (h.below e he)

/-- What lies below a body lies behind the head of its owner. -/
theorem Inside.of_body (hbody : c.isBodyOf n = true) (h : IsBelow d c ds) : Inside d n ds where
  toIsBelow := h.lift hd hn hc
  behind hheads e he := Nat.lt_of_lt_of_le (hheads n hn c hc hbody) (h.bounds e he).1

theorem Inside.lift (h : Inside d c ds) : Inside d n ds where
  toIsBelow := h.toIsBelow.lift hd hn hc
  behind hheads e he := Nat.lt_of_le_of_lt (hd.span_le hn hc).1 (h.behind hheads e he)

/-- What lies below a child is a group at this child. -/
theorem IsGroup.of_isBelow (hfirm : a.admits d c = false) (h : IsBelow d c ds) :
    IsGroup d a c ds where
  toIsLaid := h.toIsLaid.mono (hd.start_le hn a hc) (hd.le_separatorEnd hn hc)
  below e he := Node.holds_of_encloses (h.below e he)
  firm _ := hfirm

/-- A declaration, wrapped in a child, is with all that lies inside it a group at this child. -/
theorem IsGroup.of_declaration {node : Node} (hfirm : a.admits d c = false)
    (hnode : node = c ∨ node ∈ c.children) (h : Inside d node ds) (standing : Standing) :
    IsGroup d a c (.of d a node c standing :: ds) := by
  obtain ⟨hstart, hstop⟩ := hd.span_of hn a node standing hc
  have hholds : c.Holds node := by
    rcases hnode with rfl | hnode
    · exact Node.Holds.refl _
    · exact Node.holds_of_encloses (Node.encloses_of_mem_children hnode)
  have hspan : c.start ≤ node.start ∧ node.stop ≤ c.stop := by
    rcases hnode with rfl | hnode
    · exact ⟨Nat.le_refl _, Nat.le_refl _⟩
    · exact hd.span_le (Document.mem_nodes_of_mem_children hn hc) hnode
  have hfirst := hd.start_le hn a hc
  have hlast := hd.le_separatorEnd hn hc
  have hinner : IsLaid d (a.start d c) (separatorEnd c) ds :=
    h.toIsLaid.mono (hfirst.trans hspan.1) (hspan.2.trans hlast)
  refine ⟨⟨?_, List.pairwise_cons.mpr ⟨fun e he => ?_, h.inOrder⟩⟩, ?_, fun _ => hfirm⟩
  · intro e he
    rcases List.mem_cons.mp he with rfl | he
    · exact ⟨hstart.ge, hstop.le⟩
    · exact hinner.bounds e he
  · refine .around (h.below e he) ?_ fun hheads => ?_
    · rw [Span.contains_iff, hstart, hstop]
      exact hinner.bounds e he
    · rw [hstart]
      exact Nat.lt_of_le_of_lt (hfirst.trans hspan.1) (h.behind hheads e he)
  · intro e he
    rcases List.mem_cons.mp he with rfl | he
    · exact hholds
    · exact hholds.trans (Node.holds_of_encloses (h.below e he))

end

/-! ### Children in a row -/

section
variable {d : Document} {n : Node} {l : List Node}

theorem exists_mem_of_mem_flatten {R : Node → List Declaration → Prop}
    {groups : List (List Declaration)} (h : List.Forall₂ R l groups) {e : Declaration}
    (he : e ∈ groups.flatten) : ∃ c ∈ l, ∃ ds, R c ds ∧ e ∈ ds := by
  induction h with
  | nil => cases he
  | @cons c ds l groups hc _ ih =>
    rcases List.mem_append.mp he with he | he
    · exact ⟨c, List.mem_cons_self, ds, hc, he⟩
    · obtain ⟨c', hc', h⟩ := ih he
      exact ⟨c', List.mem_cons_of_mem _ hc', h⟩

/-- Declarations at children of a node lie below the node, where every child that has any keeps to a
stretch that ends before the stretches of those behind it. -/
theorem IsBelow.of_row (lo hi : Node → Nat) (firm : Node → Prop)
    {groups : List (List Declaration)} (hl : l.Sublist n.children)
    (hbounds : ∀ c ∈ l, n.start ≤ lo c ∧ hi c ≤ n.stop)
    (hrow : l.Pairwise fun c c' => firm c → hi c ≤ lo c')
    (h : List.Forall₂ (fun c ds => IsLaid d (lo c) (hi c) ds ∧ (∀ e ∈ ds, c.Holds e.node) ∧
      (ds ≠ [] → firm c)) l groups) : IsBelow d n groups.flatten := by
  induction h with
  | nil => exact .nil n
  | @cons c ds l groups hc hrest ih =>
    obtain ⟨hlaid, hbelow, hfirm⟩ := hc
    obtain ⟨hrow, hrows⟩ := List.pairwise_cons.mp hrow
    have htail := ih ((List.sublist_cons_self c l).trans hl)
      (fun c' hc' => hbounds c' (List.mem_cons_of_mem c hc')) hrows
    have hmem : c ∈ n.children := hl.subset List.mem_cons_self
    have hhead : IsLaid d n.start n.stop ds :=
      hlaid.mono (hbounds c List.mem_cons_self).1 (hbounds c List.mem_cons_self).2
    refine ⟨⟨?_, List.pairwise_append.mpr ⟨hhead.inOrder, htail.inOrder, ?_⟩⟩, ?_⟩
    · intro e he
      exact (List.mem_append.mp he).elim (hhead.bounds e) (htail.bounds e)
    · intro e he f hf
      obtain ⟨c', hc', ds', ⟨hlaid', hbelow', -⟩, hf⟩ := exists_mem_of_mem_flatten hrest hf
      have hpair : [c, c'].Sublist (c :: l) := (List.singleton_sublist.mpr hc').cons_cons c
      obtain ⟨pre, mid, post, hsplit⟩ := Node.exists_split_of_pair (hpair.trans hl)
      obtain ⟨hef, hfe⟩ := Node.not_encloses_of_siblings hsplit (hbelow e he) (hbelow' f hf)
      have hle := hrow c' hc' (hfirm (List.ne_nil_of_mem he))
      exact .apart (((hlaid.bounds e he).2.trans hle).trans (hlaid'.bounds f hf).1) hef hfe
    · intro e he
      rcases List.mem_append.mp he with he | he
      · exact Node.encloses_of_encloses_of_holds (Node.encloses_of_mem_children hmem)
          (hbelow e he)
      · exact htail.below e he

variable (hd : d.IsOrdered) (hn : n ∈ d.nodes)
include hd hn

/-- The groups at children of a node lie below the node. -/
theorem IsBelow.of_groups {a : Attachments} (ha : a.SparesSeparators)
    {groups : List (List Declaration)} (hl : l.Sublist n.namedChildren)
    (h : List.Forall₂ (IsGroup d a) l groups) : IsBelow d n groups.flatten := by
  have hchildren : l.Sublist n.children := hl.trans List.filter_sublist
  refine IsBelow.of_row (a.start d) separatorEnd (a.admits d · = false) hchildren
    (fun c hc => ?_) ?_ (h.imp fun c ds hc => ⟨hc.toIsLaid, hc.below, hc.firm⟩)
  · have hc' := hchildren.subset hc
    exact ⟨hd.le_start hn a hc', hd.separatorEnd_le hn hc'⟩
  · refine List.pairwise_iff_forall_sublist.mpr fun {c c'} hpair hfirm => ?_
    obtain ⟨pre, mid, post, hsplit⟩ := Node.exists_split_of_pair (hpair.trans hchildren)
    have hnamed : c' ∈ n.namedChildren := (hpair.trans hl).subset (by simp)
    exact hd.separatorEnd_le_start hn ha hsplit hfirm (List.mem_filter.mp hnamed).2

/-- What each child of a node gives lies below the node, if it is a group at this child. -/
theorem IsBelow.flatMap {a : Attachments} (ha : a.SparesSeparators)
    {f : Node → List Declaration} (hl : l.Sublist n.namedChildren)
    (h : ∀ c ∈ l, IsGroup d a c (f c)) : IsBelow d n (l.flatMap f) := by
  rw [List.flatMap_def]
  refine IsBelow.of_groups hd hn ha hl ?_
  rw [List.forall₂_map_right_iff, List.forall₂_same]
  exact h

/-- What lies inside the children of a node lies inside the node. -/
theorem Inside.flatMap {f : Node → List Declaration} (h : ∀ c ∈ n.namedChildren, Inside d c (f c)) :
    Inside d n (n.namedChildren.flatMap f) := by
  have hchildren : n.namedChildren.Sublist n.children := List.filter_sublist
  constructor
  · rw [List.flatMap_def]
    refine IsBelow.of_row Node.start Node.stop (fun _ => True) hchildren
      (fun c hc => hd.span_le hn (hchildren.subset hc)) ?_ ?_
    · refine List.pairwise_iff_forall_sublist.mpr fun {c c'} hpair _ => ?_
      obtain ⟨pre, mid, post, hsplit⟩ := Node.exists_split_of_pair (hpair.trans hchildren)
      exact hd.stop_le_of_mem_behind hn hsplit (by simp)
    · rw [List.forall₂_map_right_iff, List.forall₂_same]
      exact fun c hc => ⟨(h c hc).toIsLaid,
        fun e he => Node.holds_of_encloses ((h c hc).below e he),
        fun _ => trivial⟩
  · intro hheads e he
    obtain ⟨c, hc, he⟩ := List.mem_flatMap.mp he
    exact Nat.lt_of_le_of_lt (hd.span_le hn (hchildren.subset hc)).1 ((h c hc).behind hheads e he)

end

end Abridge
