import Abridge.Text.Basic

/-!
How a declaration stands towards the world outside its file, and whether it belongs to the public
surface (`Standing.isIncluded`).
-/
namespace Abridge

/-- Who may use a declaration. -/
inductive Visibility where
  /-- Everyone. -/
  | pub
  /-- Subtypes, or the enclosing module. -/
  | prot
  /-- The owner alone. -/
  | priv
  /-- The package or the file. -/
  | internal
  deriving DecidableEq, Repr

/-- Whether a declaration of a file can be reached from outside it. -/
inductive Reach where
  | exported
  | hidden
  | unknown
  deriving DecidableEq, Repr

/-- The sort of a declaration. -/
inductive DeclarationKind where
  | function
  | method
  | classType
  | structType
  | interfaceType
  | traitType
  | typeAlias
  | enumType
  | nameScope
  | variableDecl
  | fieldDecl
  | importDecl
  | macroDecl
  deriving DecidableEq, Repr

/-- The noun by which placeholders and tallies name a sort of declaration. -/
def DeclarationKind.noun : DeclarationKind → String
  | function => "function"
  | method => "method"
  | classType => "class"
  | structType => "struct"
  | interfaceType => "interface"
  | traitType => "trait"
  | typeAlias => "type"
  | enumType => "enum"
  | nameScope => "namespace"
  | variableDecl => "variable"
  | fieldDecl => "field"
  | importDecl => "import"
  | macroDecl => "macro"

/-- What is known about the visibility of a declaration. -/
structure Standing where
  kind : DeclarationKind
  visibility : Visibility
  reach : Reach
  /-- Whether it belongs to a type and not to the file itself. -/
  isMember : Bool
  deriving DecidableEq, Repr

namespace Standing

/-- The standing of a declaration of the file itself. -/
def topLevel (kind : DeclarationKind) (visibility : Visibility) (exported : Bool) : Standing where
  kind
  visibility
  reach := if exported then .exported else .hidden
  isMember := false

/-- The standing of a member of a type. -/
def member (kind : DeclarationKind) (visibility : Visibility) : Standing where
  kind
  visibility
  reach := .unknown
  isMember := true

/-- The standing of an import, which is always part of the surface. -/
def ofImport : Standing :=
  topLevel .importDecl .pub true

def isMethod (s : Standing) : Bool :=
  s.kind == .method

/-- Whether a declaration belongs to the public surface: a member if it is public, any other
declaration unless it is known to be hidden. -/
def isIncluded (s : Standing) : Bool :=
  if s.isMember then s.visibility == .pub else s.reach != .hidden

end Standing

end Abridge
