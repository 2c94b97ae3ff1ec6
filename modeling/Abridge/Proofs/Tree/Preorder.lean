import Abridge.Proofs.Tree.Laminar
import Mathlib.Data.List.Nodup

/-!
What lies below a node, in order.

`preorder` is the recursion over the tree: a node, and then what its children give from the first to
the last. The walk keeps a stack of nodes from several levels, and what it still has to visit is the
preorder of each of them in turn (`walk_eq`). So it comes by every node that has the present one
above it, by each just once, bare tokens included, and in the order in which a parser lists them
(`descendants_in_preorder`).
-/
namespace Abridge

namespace Node
variable {n m c : Node}

/-- A node and all below it: the node, and then each child with all below it, in order. -/
def preorder (n : Node) : List Node :=
  n :: n.children.attach.flatMap fun ⟨c, _⟩ => preorder c
termination_by n.size
decreasing_by exact size_lt_of_mem_children ‹_›

theorem preorder_eq (n : Node) : n.preorder = n :: n.children.flatMap preorder := by
  rw [preorder]
  congr 1
  simp

/-- What holds of a node whenever it holds of all its children holds of every node. -/
theorem induct_children {P : Node → Prop} (h : ∀ n, (∀ c ∈ n.children, P c) → P n) (n : Node) :
    P n := by
  induction hsize : n.size using Nat.strong_induction_on generalizing n with
  | _ size ih =>
    exact h n fun c hc => ih c.size (hsize ▸ size_lt_of_mem_children hc) c rfl

/-- What is left on the stack is what is still to be visited. -/
theorem walk_eq (stack : List Node) : walk stack = stack.flatMap preorder := by
  induction stack using walk.induct with
  | case1 => rw [walk, List.flatMap_nil]
  | case2 n stack ih =>
    rw [walk, ih, List.flatMap_append, List.flatMap_cons, preorder_eq n, List.cons_append]

theorem descendants_eq (n : Node) : n.descendants = n.children.flatMap preorder :=
  walk_eq n.children

theorem cons_descendants (n : Node) : n :: n.descendants = n.preorder := by
  rw [descendants_eq, preorder_eq]

/-! ### Upwards again -/

theorem mem_siblingsAfter (label : Label) (above : List Frame) (before pre : List Tree) (t : Tree)
    (post : List Tree) :
    ⟨t, ⟨label, pre.reverse ++ before, post⟩ :: above⟩ ∈
      siblingsAfter label above before (pre ++ t :: post) := by
  induction pre generalizing before with
  | nil => exact List.mem_cons_self
  | cons u pre ih =>
    rw [List.reverse_cons, List.append_assoc]
    exact List.mem_cons_of_mem _ (ih (u :: before))

/-- A node is a child of its parent. -/
theorem mem_children_parent (f : Frame) (above : List Frame) (t : Tree) :
    ⟨t, f :: above⟩ ∈ (⟨f.close t, above⟩ : Node).children := by
  have h := mem_siblingsAfter f.label above [] f.before.reverse t f.after
  rwa [List.reverse_reverse, List.append_nil] at h

theorem ancestors_isSuffix (h : n ∈ m.ancestors) : n.ancestors <:+ m.ancestors := by
  obtain ⟨t, above⟩ := m
  induction above generalizing t with
  | nil => exact absurd h List.not_mem_nil
  | cons f above ih =>
    rcases List.mem_cons.mp h with rfl | h
    · exact List.suffix_cons _ _
    · exact (ih (f.close t) h).trans (List.suffix_cons _ _)

/-- Below a node stand just the nodes that have it above them. -/
theorem mem_descendants_iff : m ∈ n.descendants ↔ n ∈ m.ancestors := by
  rw [descendants_eq]
  constructor
  · intro h
    induction n using induct_children with
    | _ n ih =>
      obtain ⟨c, hc, hm⟩ := List.mem_flatMap.mp h
      have hchild : n ∈ c.ancestors := by
        rw [ancestors_of_mem_children hc]
        exact List.mem_cons_self
      rw [preorder_eq] at hm
      rcases List.mem_cons.mp hm with rfl | hm
      · exact hchild
      · exact (ancestors_isSuffix (ih c hc hm)).subset hchild
  · intro h
    rw [← descendants_eq]
    obtain ⟨t, above⟩ := m
    induction above generalizing t with
    | nil => exact absurd h List.not_mem_nil
    | cons f above ih =>
      have hparent := mem_children_parent f above t
      rcases List.mem_cons.mp h with rfl | h
      · exact mem_walk_of_mem hparent
      · exact mem_walk_of_mem_children (ih (f.close t) h) hparent

/-! ### Once each -/

theorem holds_of_mem_preorder (h : m ∈ n.preorder) : n.Holds m := by
  rw [← cons_descendants] at h
  rcases List.mem_cons.mp h with rfl | h
  · exact Holds.refl m
  · refine holds_of_encloses (List.any_eq_true.mpr ⟨n, mem_descendants_iff.mp h, ?_⟩)
    exact beq_self_eq_true n.path

theorem nodup_path_children (n : Node) : (n.children.map path).Nodup := by
  refine List.pairwise_map.mpr (List.pairwise_iff_forall_sublist.mpr fun {a b} hpair heq => ?_)
  obtain ⟨pre, mid, post, h⟩ := exists_split_of_pair hpair
  have hb : b.path = (pre ++ a :: mid).length :: n.path := path_eq (by simpa using h)
  have hlength := (List.cons.inj ((path_eq h).symm.trans (heq.trans hb))).1
  rw [List.length_append, List.length_cons] at hlength
  omega

/-- The preorder comes by no place of the tree twice. -/
theorem nodup_path_preorder (n : Node) : (n.preorder.map path).Nodup := by
  induction n using induct_children with
  | _ n ih =>
    rw [preorder_eq, List.map_cons, List.nodup_cons, List.map_flatMap]
    refine ⟨fun h => ?_, List.nodup_flatMap.mpr ⟨ih, ?_⟩⟩
    · obtain ⟨c, hc, h⟩ := List.mem_flatMap.mp h
      obtain ⟨m, hm, hpath⟩ := List.mem_map.mp h
      have hle := (holds_of_mem_preorder hm).length_le
      rw [hpath, length_path_of_mem_children hc] at hle
      omega
    · refine (List.pairwise_map.mp (nodup_path_children n)).imp_of_mem fun {a b} ha hb hne p => ?_
      intro hpa hpb
      obtain ⟨x, hx, rfl⟩ := List.mem_map.mp hpa
      obtain ⟨y, hy, hpath⟩ := List.mem_map.mp hpb
      have hlevel : a.path.length = b.path.length := by
        rw [length_path_of_mem_children ha, length_path_of_mem_children hb]
      have hxb : b.path <:+ x.path := hpath ▸ holds_of_mem_preorder hy
      exact hne ((List.suffix_of_suffix_length_le (holds_of_mem_preorder hx) hxb
        hlevel.le).eq_of_length hlevel)

/-! ### The listing of a tree -/

/-- A node as a listing has it: what the tree says about it, and how many children it has. -/
def entry (n : Node) : Label × Nat :=
  (n.label, n.tree.children.length)

theorem map_tree_siblingsAfter (label : Label) (above : List Frame) (before ts : List Tree) :
    (siblingsAfter label above before ts).map tree = ts := by
  induction ts generalizing before with
  | nil => rfl
  | cons t ts ih => rw [siblingsAfter, List.map_cons, ih]

theorem map_tree_children (n : Node) : n.children.map tree = n.tree.children :=
  map_tree_siblingsAfter n.label n.above [] n.tree.children

/-- Read from its end, the listing of a preorder puts the tree together again. -/
theorem foldr_gather_preorder (n : Node) (done : List Tree) :
    (n.preorder.map entry).foldr Tree.gather done = n.tree :: done := by
  induction n using induct_children generalizing done with
  | _ n ih =>
    have hforest : ∀ ns : List Node, (∀ c ∈ ns, c ∈ n.children) →
        ((ns.flatMap preorder).map entry).foldr Tree.gather done = ns.map tree ++ done := by
      intro ns hns
      induction ns with
      | nil => rfl
      | cons c ns ihns =>
        rw [List.flatMap_cons, List.map_append, List.foldr_append,
          ihns fun d hd => hns d (List.mem_cons_of_mem c hd), ih c (hns c List.mem_cons_self)]
        rfl
    rw [preorder_eq, List.map_cons, List.foldr_cons, hforest n.children fun _ hc => hc,
      map_tree_children]
    obtain ⟨⟨label, ts⟩, above⟩ := n
    show Tree.node label ((ts ++ done).take ts.length) :: (ts ++ done).drop ts.length = _
    rw [List.take_left, List.drop_left]

theorem ofPreorder?_preorder (n : Node) :
    Tree.ofPreorder? (n.preorder.map entry) = some n.tree := by
  rw [Tree.ofPreorder?, foldr_gather_preorder]
  rfl

/-- **The walk is the recursive preorder.** What it gives for the nodes below a node is what the
recursion gives for its children, one child after the other. No place comes twice; the nodes that
come are just those with the present one among their ancestors; and, with it in front, they are the
listing from which the tree can be put together again. -/
theorem descendants_in_preorder (n : Node) :
    n.descendants = n.children.flatMap preorder ∧
      (n.descendants.map path).Nodup ∧
      (∀ m, m ∈ n.descendants ↔ n ∈ m.ancestors) ∧
      Tree.ofPreorder? ((n :: n.descendants).map entry) = some n.tree := by
  refine ⟨descendants_eq n, ?_, fun _ => mem_descendants_iff, ?_⟩
  · have h := nodup_path_preorder n
    rw [← cons_descendants, List.map_cons] at h
    exact (List.nodup_cons.mp h).2
  · rw [cons_descendants]
    exact ofPreorder?_preorder n

end Node

end Abridge
