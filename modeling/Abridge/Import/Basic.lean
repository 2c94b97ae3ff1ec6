import Abridge.Document

/-!
Imports: where the imported module comes from, and how its path is written.
-/
namespace Abridge

/-- Where an imported module comes from. -/
inductive Origin where
  /-- The project itself. -/
  | project
  /-- Anywhere else. -/
  | elsewhere
  deriving DecidableEq, Repr

namespace Import

/-- The pairs of delimiters around the path of a module. -/
def delimiters : List (Char × Char) :=
  [('"', '"'), ('\'', '\''), ('\x60', '\x60'), ('<', '>')]

/-- The inside of a text between two delimiters, if it stands between them. -/
def between? (opener closer : Char) : Text → Option Text
  | [] => none
  | c :: rest =>
    if c == opener && rest.getLast? == some closer then some rest.dropLast else none

/-- A text without blanks and without one layer of quotes or angle brackets around it. -/
def unquote (t : Text) : Text :=
  (delimiters.findSome? fun (opener, closer) => between? opener closer t.trim).getD t.trim

/-- Whether a node stands inside an import. -/
def surrounds (d : Document) (n : Node) : Bool :=
  n.ancestors.any fun a => d.hasRole a .importDecl

end Import

end Abridge
