import Abridge.Tree.Node

/-!
Literals that list elements between two brackets.
-/
namespace Abridge

/-- A list of elements between two brackets. -/
structure Collection where
  /-- The node that holds brackets and elements. -/
  container : Node
  elements : List Node
  /-- Where the opening bracket ends. -/
  openEnd : Nat
  /-- The closing bracket. -/
  close : Span
  deriving Repr

namespace Collection

def isOpener (kind : String) : Bool :=
  kind == "[" || kind == "(" || kind == "\x7b" || kind == "<"

def isCloser (kind : String) : Bool :=
  kind == "]" || kind == ")" || kind == "\x7d" || kind == ">"

/-- The collection whose brackets are the first and the last child of a node; its elements are the
named children between them that are no comments. -/
def ofContainer? (n : Node) : Option Collection :=
  match n.children.head?, n.children.getLast? with
  | some first, some last =>
    if 2 ≤ n.children.length && !first.isNamed && !last.isNamed && isOpener first.kind &&
        isCloser last.kind then
      some { container := n, elements := n.statements, openEnd := first.stop, close := last.span }
    else none
  | _, _ => none

end Collection

end Abridge
