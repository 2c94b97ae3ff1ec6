import Abridge.Declaration.Basic

/-!
Functions: their names, what wraps them and the annotations on them.
-/
namespace Abridge.Function

/-! ### Names -/

/-- The kinds of node that end a declarator with a name. -/
def nameKinds : List String :=
  ["identifier", "field_identifier", "qualified_identifier", "destructor_name", "operator_name",
    "type_identifier"]

/-- The name at the bottom of a declarator. -/
def declaratorName? (d : Document) (declarator : Node) : Option Text :=
  ((declarator.chain "declarator").find? fun n => nameKinds.contains n.kind).map d.textOf

/-- Whether a declarator declares a function. -/
def isDeclaredBy (declarator : Node) : Bool :=
  (declarator.chain "declarator").any (·.kind == "function_declarator")

/-- The name that the parent of a function binds it to. -/
def boundName? (function : Node) : Option Node :=
  function.parent?.bind fun parent =>
    if parent.kind == "variable_declarator" then parent.inField? "name"
    else if parent.kind == "pair" then parent.inField? "key"
    else if parent.kind == "assignment_expression" || parent.kind == "assignment" then
      parent.inField? "left"
    else none

/-- The name of a function: its own, that of its declarator, or the one that it is bound to. -/
def name? (d : Document) (function : Node) : Option Text :=
  match function.inField? "name" with
  | some name => some (d.textOf name)
  | none =>
    match function.inField? "declarator" with
    | some declarator => declaratorName? d declarator
    | none => (boundName? function).map d.textOf

/-! ### Wrappers and annotations -/

/-- The kinds of node that only wrap a declaration. -/
def wrapperKinds : List String :=
  ["decorated_definition", "export_statement", "template_declaration"]

/-- The outermost of the nodes that only wrap a declaration. -/
def wrapper (n : Node) : Node :=
  ((n.ancestors.takeWhile fun a => wrapperKinds.contains a.kind).getLast?).getD n

/-- The annotations among the children of a node, and among its modifiers. -/
def annotationsIn (a : Attachments) (n : Node) : List Node :=
  n.children.flatMap fun c =>
    (if a.kinds.contains c.kind then [c] else []) ++
    (if c.kind == "modifiers" then
      c.namedChildren.filter fun m => Text.occurs "annotation".toList m.kind.toList
    else [])

/-- The decorators, attributes and annotations of a function: those attached above it, nearest
first, then those inside its wrapper and inside itself. -/
def annotations (d : Document) (a : Attachments) (function : Node) : List Text :=
  let outer := wrapper function
  let attached := (outer.previous.takeWhile fun n => a.start d outer ≤ n.start).filter
    fun n => a.kinds.contains n.kind
  let holders := if outer.same function then [outer] else [outer, function]
  (attached ++ holders.flatMap (annotationsIn a)).map d.textOf

end Abridge.Function
