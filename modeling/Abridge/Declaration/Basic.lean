import Abridge.Declaration.Standing
import Abridge.Document

/-!
Declarations of a document, with everything that goes when they go: the documentation and the
attributes right above them and the separator behind them.
-/
namespace Abridge

/-- What counts as a part of the declaration below it. -/
structure Attachments where
  /-- Kinds of attributes and decorators. -/
  kinds : List String := []
  /-- Whether any comment attaches, and not only documentation. -/
  allComments : Bool := false
  deriving DecidableEq, Repr

namespace Attachments

/-- Whether a node is of a sort that attaches. -/
def admits (a : Attachments) (d : Document) (n : Node) : Bool :=
  if n.isComment then a.allComments || d.comments.isDoc (d.textOf n) else a.kinds.contains n.kind

/-- Whether a node attaches to what starts at `start`: it begins a line and ends on the same line or
on the one above. -/
def attaches (a : Attachments) (d : Document) (start : Nat) (n : Node) : Bool :=
  a.admits d n && d.lines.lineOf start ≤ d.lines.lineOf (d.trimmedSpan n).stop + 1 && d.startsLine n

/-- How far up the attached nodes reach, nearest first. -/
def startFrom (a : Attachments) (d : Document) (start : Nat) : List Node → Nat
  | [] => start
  | n :: rest => if a.attaches d start n then a.startFrom d n.start rest else start

/-- Where a declaration starts with all that is attached to it. -/
def start (a : Attachments) (d : Document) (n : Node) : Nat :=
  a.startFrom d n.start n.previous

end Attachments

/-- Where a node ends with the comma or semicolon right behind it. -/
def separatorEnd (n : Node) : Nat :=
  match n.following.head? with
  | some next =>
    if !next.isNamed && (next.kind == "," || next.kind == ";") then next.stop else n.stop
  | none => n.stop

/-- A declaration. -/
structure Declaration where
  /-- The declaration itself, without what wraps it. -/
  node : Node
  /-- Everything that is taken out with it. -/
  span : Span
  standing : Standing
  deriving Repr

namespace Declaration

/-- The declaration `node`, wrapped in `outer`. -/
def of (d : Document) (a : Attachments) (node outer : Node) (standing : Standing) :
    Declaration where
  node
  span := .between (a.start d outer) (separatorEnd outer)
  standing

/-- The shortest declaration around a node; of several the first. -/
def innermost? (ds : List Declaration) (n : Node) : Option Declaration :=
  (ds.filter fun e => e.node.start ≤ n.start && n.stop ≤ e.node.stop).minOn?
    fun e => e.node.stop - e.node.start

/-- Whether a node is the value that its parent binds to a name. -/
def isBound (n : Node) : Bool :=
  n.parent?.any fun p => Text.occurs "declarator".toList p.kind.toList || p.kind == "assignment"

/-- The standing of a function: its own, or that of the variable that it is bound to. -/
def standingOf? (ds : List Declaration) (function : Node) : Option Standing :=
  match ds.find? fun e => e.node.same function with
  | some own => some own.standing
  | none =>
    (innermost? ds function).bind fun around =>
      if around.standing.kind == .variableDecl && isBound function then
        some { around.standing with kind := .function }
      else none

end Declaration

end Abridge
