import Abridge.Profile.Basic

/-!
C and C++: linkage by `static`, namespaces, access sections in classes, and includes between quotes
or angle brackets.
-/
namespace Abridge.Profile.CFamily

/-! ### Declarations -/

def attachments : Attachments where
  kinds := ["attribute_declaration"]

/-- The kinds of node whose children count as declarations of the file. -/
def transparentKinds : List String :=
  ["preproc_if", "preproc_ifdef", "preproc_else", "preproc_elif", "preproc_elifdef",
    "linkage_specification", "declaration_list"]

/-- Whether a declaration is limited to its file. -/
def isStatic (d : Document) (declaration : Node) : Bool :=
  declaration.children.any fun c =>
    c.kind == "storage_class_specifier" && d.textOf c == "static".toList

/-- Whether a declaration declares a function. -/
def declaresFunction (n : Node) : Bool :=
  (n.inField? "declarator").any Function.isDeclaredBy

/-- The sort of type that a node defines; without a body it defines none. -/
def typeKind? (n : Node) : Option DeclarationKind :=
  if (n.inField? "body").isNone then none
  else if n.kind == "class_specifier" then some .classType
  else if n.kind == "struct_specifier" || n.kind == "union_specifier" then some .structType
  else if n.kind == "enum_specifier" then some .enumType
  else none

/-- The visibility that the label of a section gives. -/
def accessOf (label : Text) : Visibility :=
  let name := Text.trim (Text.dropEndWhile (· == ':') label)
  if name == "public".toList then .pub
  else if name == "protected".toList then .prot
  else .priv

/-- What a template wraps. -/
def unwrap? (n : Node) : Option Node :=
  if n.kind == "template_declaration" then n.namedChildren.getLast? else some n

/-- The sort of member that a node declares. -/
def memberKind? (n : Node) : Option DeclarationKind :=
  if n.kind == "function_definition" then some .method
  else if n.kind == "field_declaration" || n.kind == "declaration" then
    some (if declaresFunction n then .method else .fieldDecl)
  else none

/-- The members of a class, each under the access of the section that it stands in. -/
def membersUnder (d : Document) (access : Visibility) : List Node → List Declaration
  | [] => []
  | n :: rest =>
    if n.kind == "access_specifier" then membersUnder d (accessOf (d.textOf n)) rest
    else
      let inner := (unwrap? n).getD n
      ((memberKind? inner).toList.map fun kind =>
        .of d attachments inner n (.member kind access)) ++ membersUnder d access rest

/-- The members of a type; a class starts with a private section. -/
def members (d : Document) (owner : Node) : List Declaration :=
  (owner.inField? "body").toList.flatMap fun body =>
    membersUnder d (if owner.kind == "class_specifier" then .priv else .pub) body.namedChildren

/-- The standing of a function or variable by its linkage. -/
def linked (d : Document) (kind : DeclarationKind) (n : Node) : Standing :=
  if isStatic d n then .topLevel kind .priv false else .topLevel kind .pub true

/-- The standing of a declaration of the file, if it is one. -/
def standing? (d : Document) (n : Node) : Option Standing :=
  if n.kind == "preproc_include" then some .ofImport
  else if n.kind == "function_definition" then some (linked d .function n)
  else if n.kind == "declaration" then
    some (linked d (if declaresFunction n then .function else .variableDecl) n)
  else if n.kind == "type_definition" || n.kind == "alias_declaration" then
    some (.topLevel .typeAlias .pub true)
  else if n.kind == "namespace_definition" then some (.topLevel .nameScope .priv false)
  else (typeKind? n).map fun kind => .topLevel kind .pub true

/-- What `node`, wrapped in `outer`, declares; a named scope is gone on with instead. -/
def declare (d : Document) (withMembers : Bool) (node outer : Node) :
    List (Declaration ⊕ (Unit × Node)) :=
  if node.kind == "namespace_definition" && (node.inField? "name").isSome then
    (node.inField? "body").toList.map fun body => .inr ((), body)
  else
    (standing? d node).toList.flatMap fun standing =>
      let hasMembers := standing.kind == .classType || standing.kind == .structType
      .inl (.of d attachments node outer standing) ::
        (if withMembers && hasMembers then (members d node).map .inl else [])

/-- What the children of a file, a scope or a conditional part declare. -/
def step (d : Document) (withMembers : Bool) (_ : Unit) (container : Node) :
    List (Declaration ⊕ (Unit × Node)) :=
  container.namedChildren.flatMap fun child =>
    if transparentKinds.contains child.kind then [.inr ((), child)]
    else (unwrap? child).toList.flatMap fun node => declare d withMembers node child

def declarations (withMembers : Bool) (d : Document) : List Declaration :=
  d.root.expand (step d withMembers) ()

/-! ### Imports -/

def modulePath? (d : Document) (n : Node) : Option Text :=
  (n.inField? "path").map fun path => Import.unquote (d.textOf path)

/-- What is included between quotes comes from the project. -/
def origin (_ : Document) (n : Node) : Origin :=
  if (n.inField? "path").any (·.kind == "string_literal") then .project else .elsewhere

/-! ### Functions and files -/

/-- The name of a function by its declarator, if it has one. -/
def functionName? (d : Document) (function : Node) : Option Text :=
  match function.inField? "declarator" with
  | some declarator => Function.declaratorName? d declarator
  | none => Function.name? d function

def isHeader (path : Path) : Bool :=
  ["h".toList, "hh".toList, "hpp".toList, "hxx".toList].contains (path.extension.map Char.toLower)

/-- Whether a node defines nothing. -/
def isForward (n : Node) : Bool :=
  if ["preproc_include", "preproc_def", "preproc_function_def", "preproc_call", "comment",
      "identifier", "type_definition", "alias_declaration"].contains n.kind then true
  else if n.kind == "declaration" then !n.namedChildren.any (·.kind == "init_declarator")
  else if ["struct_specifier", "class_specifier", "union_specifier", "enum_specifier"].contains
      n.kind
  then (n.inField? "body").isNone
  else false

/-- For each node of the file or of a conditional part, whether it defines nothing. -/
def forwardStep (_ : Unit) (container : Node) : List (Bool ⊕ (Unit × Node)) :=
  container.namedChildren.map fun n =>
    if transparentKinds.contains n.kind || n.kind == "preproc_ifndef" then .inr ((), n)
    else .inl (isForward n)

/-- A header with nothing but includes, guards and forward declarations. -/
def isTrivial (d : Document) (path : Path) : Bool :=
  isHeader path && (d.root.expand forwardStep ()).all id

end Abridge.Profile.CFamily

namespace Abridge.Profile

/-- The rules of C and, with the members of classes, of C++. -/
def cFamily (language : Language) (withMembers : Bool) : Profile where
  language
  attachments := CFamily.attachments
  declarations := CFamily.declarations withMembers
  modulePath? := CFamily.modulePath?
  origin := CFamily.origin
  functionName? := CFamily.functionName?
  isTrivial := CFamily.isTrivial

end Abridge.Profile
