import Abridge.Profile.Basic

/-!
TypeScript and JavaScript: exports by statement or by name, accessibility modifiers, and module
specifiers that are relative or begin with an alias of the root.
-/
namespace Abridge.Profile.Ecma

/-! ### Declarations -/

def attachments : Attachments where
  kinds := ["decorator"]

/-- The sort of declaration that a kind of node is. -/
def kindOf? (kind : String) : Option DeclarationKind :=
  if ["function_declaration", "generator_function_declaration", "function_signature"].contains kind
  then some .function
  else if ["class_declaration", "abstract_class_declaration", "class"].contains kind
  then some .classType
  else if kind == "interface_declaration" then some .interfaceType
  else if kind == "type_alias_declaration" then some .typeAlias
  else if kind == "enum_declaration" then some .enumType
  else if kind == "internal_module" || kind == "module" then some .nameScope
  else if kind == "lexical_declaration" || kind == "variable_declaration" then some .variableDecl
  else none

/-- The declaration inside an export or an expression statement. -/
def declared? (statement : Node) : Option Node :=
  (statement.inField? "declaration").or
    (statement.namedChildren.find? fun n => (kindOf? n.kind).isSome)

/-- The local names that a statement exports by listing them or by default. -/
def namesExportedBy (d : Document) (statement : Node) : List Text :=
  if statement.kind != "export_statement" || (statement.inField? "source").isSome then []
  else
    let value := (statement.inField? "value").toList.filter (·.kind == "identifier")
    let clauses := statement.namedChildren.filter (·.kind == "export_clause")
    value.map d.textOf ++
      clauses.flatMap fun clause =>
        clause.namedChildren.filterMap fun specifier =>
          (specifier.inField? "name").map fun name => Import.unquote (d.textOf name)

/-- The local names that a document exports by listing them or by default. -/
def exportedNames (d : Document) : List Text :=
  d.root.namedChildren.flatMap (namesExportedBy d)

/-- The names that a declaration binds. -/
def declaredNames (d : Document) (n : Node) : List Text :=
  match n.inField? "name" with
  | some name => [d.textOf name]
  | none =>
    ((n.namedChildren.filter (·.kind == "variable_declarator")).filterMap (·.inField? "name")).map
      d.textOf

/-- The visibility of a member by its modifier or by the sign in front of its name. -/
def memberVisibility (d : Document) (member : Node) : Visibility :=
  match member.ofKind? "accessibility_modifier" with
  | some modifier =>
    let text := d.textOf modifier
    if text == "private".toList then .priv
    else if text == "protected".toList then .prot
    else .pub
  | none =>
    match (member.inField? "name").or (member.inField? "property") with
    | some name => if name.kind == "private_property_identifier" then .priv else .pub
    | none => .pub

/-- The sort of member that a kind of node is. -/
def memberKindOf? (kind : String) : Option DeclarationKind :=
  if ["method_definition", "method_signature", "abstract_method_signature"].contains kind
  then some .method
  else if kind == "public_field_definition" || kind == "field_definition" then some .fieldDecl
  else none

/-- The members of a class body. -/
def members (d : Document) (body : Node) : List Declaration :=
  body.namedChildren.filterMap fun member =>
    (memberKindOf? member.kind).map fun kind =>
      .of d attachments member member (.member kind (memberVisibility d member))

/-- A declaration inside `outer`, with its members if it is a class. -/
def declare (d : Document) (node outer : Node) (exported : Bool) : List Declaration :=
  match kindOf? node.kind with
  | none => []
  | some kind =>
    .of d attachments node outer
        (.topLevel kind (if exported then .pub else .internal) exported) ::
      (if kind == .classType then (node.inField? "body").toList.flatMap (members d) else [])

/-- What a statement of the file declares, where `listed` names are exported elsewhere. -/
def declareStatement (d : Document) (listed : List Text) (statement : Node) : List Declaration :=
  let isListed (n : Node) : Bool := (declaredNames d n).any listed.contains
  if statement.kind == "import_statement" then
    [.of d attachments statement statement .ofImport]
  else if statement.kind == "export_statement" then
    (declared? statement).toList.flatMap fun node => declare d node statement true
  else if statement.kind == "expression_statement" then
    (declared? statement).toList.flatMap fun node => declare d node statement (isListed node)
  else declare d statement statement (isListed statement)

def declarations (d : Document) : List Declaration :=
  let listed := exportedNames d
  d.root.namedChildren.flatMap (declareStatement d listed)

/-! ### Imports -/

def modulePath? (d : Document) (n : Node) : Option Text :=
  match n.inField? "source" with
  | some source => some (Import.unquote (d.textOf source))
  | none => (n.descendants.find? (·.kind == "string")).map fun s => Import.unquote (d.textOf s)

/-- How a specifier begins that stays within the project. -/
def projectStarts : List Text :=
  [['.'], ['/'], ['@', '/'], ['~', '/']]

def origin (d : Document) (n : Node) : Origin :=
  if (modulePath? d n).any fun path => projectStarts.any path.startsWith then .project
  else .elsewhere

/-! ### Comments and files -/

/-- Whether a comment speaks to the compiler or to a linter. -/
def isDirective (d : Document) (comment : Node) : Bool :=
  let text := d.textOf comment
  text.startsWith "/// <reference".toList || text.startsWith "// @ts-".toList ||
    text.startsWith "/* @jsx".toList || Text.occurs "eslint-disable".toList text ||
    text.startsWith "/* eslint".toList

/-- Whether a statement only passes on what other modules export. -/
def isReexport (statement : Node) : Bool :=
  statement.kind == "export_statement" && (statement.inField? "declaration").isNone &&
    (statement.inField? "value").isNone && (declared? statement).isNone

/-- An index file with nothing but imports and exports of what was imported. -/
def isTrivial (d : Document) (path : Path) : Bool :=
  path.fileName.takeWhile (· != '.') == "index".toList &&
    d.root.namedChildren.all fun n =>
      n.kind == "import_statement" || n.kind == "comment" || isReexport n

end Abridge.Profile.Ecma

namespace Abridge.Profile

/-- The rules of TypeScript and JavaScript, for one of their grammars. -/
def ecma (language : Language) : Profile where
  language
  attachments := Ecma.attachments
  declarations := Ecma.declarations
  modulePath? := Ecma.modulePath?
  origin := Ecma.origin
  isExempt := fun d n => Import.surrounds d n || n.parent?.any (·.kind == "export_statement")
  isDirective := Ecma.isDirective
  isTrivial := Ecma.isTrivial

end Abridge.Profile
