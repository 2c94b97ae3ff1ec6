import Abridge.Text.Search
import Abridge.Total
import Abridge.Tree.Basic

/-!
Nodes of a tree with the way to them.

A node is the part of the tree below it together with the frames above it, so that parents, siblings
and children can all be reached from it. The path of positions from the root tells two nodes of one
tree apart. `walk` visits nodes with a stack of what is left to visit, and `expand` is the recursion
by which declarations are collected.
-/
namespace Abridge

/-- One step up from a node: its parent's label and the siblings around it. -/
structure Frame where
  label : Label
  /-- The siblings in front, nearest first. -/
  before : List Tree
  after : List Tree
  deriving Repr

/-- The tree that a frame closes around one of its children. -/
def Frame.close (f : Frame) (t : Tree) : Tree :=
  .node f.label (f.before.reverse ++ t :: f.after)

/-- A node in its tree. -/
structure Node where
  tree : Tree
  above : List Frame := []
  deriving Repr

namespace Node

def label (n : Node) : Label :=
  n.tree.label

def kind (n : Node) : String :=
  n.label.kind

def span (n : Node) : Span :=
  n.label.span

def start (n : Node) : Nat :=
  n.span.start

def stop (n : Node) : Nat :=
  n.span.stop

def isNamed (n : Node) : Bool :=
  n.label.isNamed

/-- Number of nodes at and below the node. -/
def size (n : Node) : Nat :=
  n.tree.size

/-- Whether the parser could not make sense of the node or of a part of it. -/
def isOpaque (n : Node) : Bool :=
  n.label.isError || n.label.isMissing || n.label.hasError

/-- Whether the kind of the node names a sort of comment. -/
def isComment (n : Node) : Bool :=
  Text.occurs "comment".toList n.kind.toList

/-- The positions of the node and its ancestors among their siblings, innermost first. -/
def path (n : Node) : List Nat :=
  n.above.map fun f => f.before.length

/-- Whether two nodes of one tree are the same. -/
def same (n m : Node) : Bool :=
  n.path == m.path

/-! ### Upwards and sideways -/

def parent? (n : Node) : Option Node :=
  match n.above with
  | [] => none
  | f :: above => some ⟨f.close n.tree, above⟩

/-- The nodes that enclose a tree below the given frames, innermost first. -/
def enclosing (t : Tree) : List Frame → List Node
  | [] => []
  | f :: above => ⟨f.close t, above⟩ :: enclosing (f.close t) above

/-- The ancestors of a node, nearest first. -/
def ancestors (n : Node) : List Node :=
  enclosing n.tree n.above

/-- Whether both nodes have the same parent, or both have none. -/
def sameParent (n m : Node) : Bool :=
  n.parent?.map path == m.parent?.map path

/-- The siblings in front, nearest first, of a tree with `before` in front and `after` behind it. -/
def siblingsBefore (label : Label) (above : List Frame) (after : List Tree) :
    List Tree → List Node
  | [] => []
  | t :: before =>
    ⟨t, ⟨label, before, after⟩ :: above⟩ :: siblingsBefore label above (t :: after) before

/-- The siblings behind, nearest first. -/
def siblingsAfter (label : Label) (above : List Frame) (before : List Tree) :
    List Tree → List Node
  | [] => []
  | t :: after =>
    ⟨t, ⟨label, before, after⟩ :: above⟩ :: siblingsAfter label above (t :: before) after

/-- The siblings in front of a node, nearest first. -/
def previous (n : Node) : List Node :=
  match n.above with
  | [] => []
  | f :: above => siblingsBefore f.label above (n.tree :: f.after) f.before

/-- The siblings behind a node, nearest first. -/
def following (n : Node) : List Node :=
  match n.above with
  | [] => []
  | f :: above => siblingsAfter f.label above (n.tree :: f.before) f.after

/-! ### Downwards -/

/-- The children of a node in order, bare tokens included. -/
def children (n : Node) : List Node :=
  siblingsAfter n.label n.above [] n.tree.children

def namedChildren (n : Node) : List Node :=
  n.children.filter isNamed

/-- The named children that are no comments. -/
def statements (n : Node) : List Node :=
  n.namedChildren.filter (!·.isComment)

/-- The children that fill a field. -/
def childrenInField (n : Node) (field : String) : List Node :=
  n.children.filter (·.label.field == some field)

/-- The first child that fills a field. -/
def inField? (n : Node) (field : String) : Option Node :=
  n.children.find? (·.label.field == some field)

/-- The first child of a kind. -/
def ofKind? (n : Node) (kind : String) : Option Node :=
  n.children.find? (·.kind == kind)

theorem size_children (label : Label) (above : List Frame) (before after : List Tree) :
    total ((siblingsAfter label above before after).map size) = Tree.sizeOfAll after := by
  induction after generalizing before with
  | nil => rfl
  | cons t after ih => simp [siblingsAfter, ih, size, Tree.sizeOfAll]

theorem size_lt_of_mem_children {n m : Node} (h : m ∈ n.children) : m.size < n.size := by
  have hle := le_total_of_mem (List.mem_map_of_mem (f := size) h)
  rw [children, size_children] at hle
  rw [size, size, Tree.size_eq n.tree]
  exact Nat.lt_succ_of_le hle

theorem mem_children_of_inField? {n m : Node} {field : String} (h : n.inField? field = some m) :
    m ∈ n.children :=
  List.mem_of_find?_eq_some h

/-- The node, its first child in a field, the first child of that one in the field, and so on. -/
def chain (field : String) (n : Node) : List Node :=
  match _h : n.inField? field with
  | none => [n]
  | some m => n :: chain field m
termination_by n.size
decreasing_by exact size_lt_of_mem_children (mem_children_of_inField? _h)

/-- The only named child of a node, if it has just one. -/
def onlyChild? (n : Node) : Option Node :=
  match n.namedChildren with
  | [m] => some m
  | _ => none

theorem mem_children_of_onlyChild? {n m : Node} (h : n.onlyChild? = some m) : m ∈ n.children := by
  unfold onlyChild? at h
  split at h
  next hm =>
    cases h
    exact (List.mem_filter.mp (hm ▸ List.mem_singleton_self m)).1
  · cases h

/-- The node, its only named child, the only named child of that one, and so on. -/
def wrapping (n : Node) : List Node :=
  match _h : n.onlyChild? with
  | none => [n]
  | some m => n :: wrapping m
termination_by n.size
decreasing_by exact size_lt_of_mem_children (mem_children_of_onlyChild? _h)

/-- Visits the nodes of a stack from its top, each followed by its children. -/
def walk : List Node → List Node
  | [] => []
  | n :: stack => n :: walk (n.children ++ stack)
termination_by stack => total (stack.map size)
decreasing_by
  simp only [List.map_append, total_append, List.map_cons, total_cons, children,
    size_children, size, Tree.size_eq n.tree]
  omega

/-- Everything below a node, each node before its children. -/
def descendants (n : Node) : List Node :=
  walk n.children

/-- Follows `step` down from a node: what it gives is either a result or, with a new state, a node
to go on from. Only nodes below the present one are gone on from. -/
def expand {σ α : Type} (step : σ → Node → List (α ⊕ (σ × Node))) (state : σ) (n : Node) : List α :=
  (step state n).flatMap fun
    | .inl a => [a]
    | .inr (next, m) => if m.size < n.size then expand step next m else []
termination_by n.size

end Node

end Abridge
