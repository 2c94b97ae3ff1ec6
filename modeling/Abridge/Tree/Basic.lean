import Abridge.Edit.Span

/-!
Concrete syntax trees, as a parser hands them over: every token is a node, and a node has a kind,
the field of its parent that it fills, if any, and its place in the text. `Tree.ofPreorder?` puts a
tree together from the list of its nodes, each before its children and with their number.
-/
namespace Abridge

/-- What a tree says about one node. -/
structure Label where
  kind : String
  field : Option String := none
  span : Span
  /-- Nodes of the grammar are named, bare tokens are not. -/
  isNamed : Bool := true
  isError : Bool := false
  isMissing : Bool := false
  hasError : Bool := false
  deriving DecidableEq, Repr

/-- A syntax tree. -/
inductive Tree where
  | node (label : Label) (children : List Tree)
  deriving Repr

namespace Tree

def label : Tree → Label
  | node label _ => label

def children : Tree → List Tree
  | node _ children => children

mutual

/-- Number of nodes. -/
def size : Tree → Nat
  | node _ children => sizeOfAll children + 1

def sizeOfAll : List Tree → Nat
  | [] => 0
  | t :: rest => size t + sizeOfAll rest

end

/-- Takes one node more in front of the trees that have been put together: the first of them are its
children. -/
def gather (entry : Label × Nat) (done : List Tree) : List Tree :=
  node entry.1 (done.take entry.2) :: done.drop entry.2

/-- The tree whose nodes are listed each before its children, with the number of its children. -/
def ofPreorder? (entries : List (Label × Nat)) : Option Tree :=
  (entries.foldr gather []).head?

theorem size_eq (t : Tree) : t.size = sizeOfAll t.children + 1 := by
  cases t
  rfl

end Tree

end Abridge
