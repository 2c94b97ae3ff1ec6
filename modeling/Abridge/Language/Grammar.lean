import Abridge.Comment.Style
import Abridge.Language.Basic

/-!
What is known of a grammar: file extensions, comments, the roles of its node kinds, and the named
queries that pick nodes out of a tree.
-/
namespace Abridge

/-- The part that a kind of node plays. -/
inductive Role where
  | function
  | method
  | classType
  | interfaceType
  | enumType
  | typeAlias
  | nameScope
  | variableDecl
  | importDecl
  | literal
  | comment
  deriving DecidableEq, Repr

/-- What a query looks for, and under which names it reports it. -/
inductive Selector where
  /-- Every node of a kind. -/
  | kind (kind : String) (label : String)
  /-- Every node of a kind with a child of another kind in a field; the child is reported too if it
  has a name. -/
  | withField (kind field child : String) (label : String) (childLabel : Option String)
  /-- Every child of one kind below a node of another. -/
  | child (kind child : String) (label : String)
  deriving DecidableEq, Repr

/-- A named query. -/
structure Query where
  name : String
  selectors : List Selector
  deriving DecidableEq, Repr

/-- The static description of a language. -/
structure Grammar where
  extensions : List String
  comments : CommentStyle
  roles : List (String × Role)
  queries : List Query
  deriving DecidableEq, Repr

namespace Grammar

/-- The role of a kind of node, if it has one. -/
def roleOf? (g : Grammar) (kind : String) : Option Role :=
  g.roles.lookup kind

def hasRole (g : Grammar) (kind : String) (role : Role) : Bool :=
  g.roleOf? kind == some role

def query? (g : Grammar) (name : String) : Option Query :=
  g.queries.find? (·.name == name)

/-- Comments of the form `//` and `/* */`. -/
def slashComments (docMarkers : List String) : CommentStyle where
  line := some "//"
  block := some ("/*", "*/")
  docMarkers

/-- A query for nodes of the given kinds, all reported under one name. -/
def kindQuery (name label : String) (kinds : List String) : Query where
  name
  selectors := kinds.map fun kind => .kind kind label

/-- The query for functions with a body: pairs of a kind of function and a kind of body. -/
def functionQuery (kinds : List (String × String)) : Query where
  name := "functions"
  selectors := kinds.map fun (kind, body) => .withField kind "body" body "function" (some "body")

/-- The query for literals: pairs of a kind and the sort of literal it is. -/
def literalQuery (kinds : List (String × String)) : Query where
  name := "literals"
  selectors := kinds.map fun (kind, label) => .kind kind label

end Grammar

end Abridge
