import Abridge.Profile.Basic
import Abridge.Text.CharClass

/-!
Go: names with a capital are exported, comments document what stands right below them, and imports
come in groups.
-/
namespace Abridge.Profile.Go

/-! ### Declarations -/

def attachments : Attachments where
  allComments := true

/-- Whether a name begins with a capital. -/
def isExported (name : Text) : Bool :=
  name.head?.any Text.isUppercase

def visibilityOf (exported : Bool) : Visibility :=
  if exported then .pub else .priv

def specKinds : List String :=
  ["type_spec", "type_alias", "var_spec", "const_spec"]

/-- Whether a specification belongs to a declaration directly or through a list. -/
def isSpecOf (declaration spec : Node) : Bool :=
  specKinds.contains spec.kind &&
    (spec.parent?.any fun p =>
      p.same declaration || Text.endsWith p.kind.toList "_spec_list".toList)

/-- The names that a declaration of types, variables or constants introduces. -/
def specNames (d : Document) (declaration : Node) : List Text :=
  (declaration.descendants.filter (isSpecOf declaration)).flatMap fun spec =>
    (spec.childrenInField "name").map d.textOf

/-- The sort of a declaration of types: that of its only type, if this is a struct or an
interface. -/
def typeKind (declaration : Node) : DeclarationKind :=
  let specs := declaration.namedChildren.filter fun n =>
    n.kind == "type_spec" || n.kind == "type_alias"
  match specs with
  | [spec] =>
    match (spec.inField? "type").map Node.kind with
    | some "struct_type" => .structType
    | some "interface_type" => .interfaceType
    | _ => .typeAlias
  | _ => .typeAlias

/-- Whether a field is exported; an embedded one goes by the name of its type. -/
def isExportedField (d : Document) (field : Node) : Bool :=
  match (field.childrenInField "name").map d.textOf with
  | [] =>
    (field.inField? "type").any fun type =>
      let path := (d.textOf type).dropWhile (· == '*')
      (Text.split '.' path).getLast?.any isExported
  | names => names.any isExported

/-- The fields of the structs that a declaration defines. -/
def fields (d : Document) (declaration : Node) : List Declaration :=
  declaration.namedChildren.flatMap fun spec =>
    ((spec.inField? "type").toList.filter (·.kind == "struct_type")).flatMap fun struct =>
      (struct.namedChildren.find? (·.kind == "field_declaration_list")).toList.flatMap fun list =>
        (list.namedChildren.filter (·.kind == "field_declaration")).map fun field =>
          .of d attachments field field
            (.member .fieldDecl (visibilityOf (isExportedField d field)))

/-- The standing of a declaration of the file, if it is one. -/
def standing? (d : Document) (n : Node) : Option Standing :=
  if n.kind == "function_declaration" then
    (n.inField? "name").map fun name =>
      let exported := isExported (d.textOf name)
      .topLevel .function (visibilityOf exported) exported
  else if n.kind == "method_declaration" then
    (n.inField? "name").map fun name =>
      .member .method (visibilityOf (isExported (d.textOf name)))
  else if ["type_declaration", "var_declaration", "const_declaration"].contains n.kind then
    let exported := (specNames d n).any isExported
    let kind := if n.kind == "type_declaration" then typeKind n else .variableDecl
    some (.topLevel kind (visibilityOf exported) exported)
  else if n.kind == "import_declaration" then some .ofImport
  else none

/-- A declaration of the file, with the fields of the types that belong to the surface. -/
def declare (d : Document) (n : Node) : List Declaration :=
  (standing? d n).toList.flatMap fun standing =>
    .of d attachments n n standing ::
      (if n.kind == "type_declaration" && standing.isIncluded then fields d n else [])

def declarations (d : Document) : List Declaration :=
  d.root.namedChildren.flatMap (declare d)

/-! ### Imports -/

def modulePath? (d : Document) (n : Node) : Option Text := do
  let spec ←
    if n.kind == "import_spec" then some n else n.descendants.find? (·.kind == "import_spec")
  let path ← spec.inField? "path"
  return Import.unquote (d.textOf path)

/-- The name of a directory that only its own project can import from. -/
def internalName : Text :=
  "internal".toList

/-- Whether a path is relative or leads through an internal directory. -/
def isProjectPath (path : Text) : Bool :=
  path.startsWith ['.', '/'] || path.startsWith ['.', '.', '/'] ||
    (path.split '/').any (· == internalName)

def origin (d : Document) (n : Node) : Origin :=
  if (modulePath? d n).any isProjectPath then .project else .elsewhere

/-- Standard packages have no point in their first segment, and no internal directory behind it. -/
def isStandard (path : Text) : Bool :=
  match path.split '/' with
  | [] => false
  | first :: rest => !first.isEmpty && !first.contains '.' && !rest.contains internalName

/-- The declaration around a list of imports. -/
def groupOf? (n : Node) : Option Node :=
  n.parent?.bind fun list => if list.kind == "import_spec_list" then list.parent? else none

/-- An import that stands alone goes with its declaration. -/
def unit (n : Node) : Node :=
  match n.parent? with
  | some parent => if parent.kind == "import_declaration" then parent else n
  | none => n

/-! ### Literals, comments and files -/

/-- The node with the braces of a composite literal; one without a type is its own. -/
def container? (n : Node) : Option Node :=
  if n.kind == "literal_value" then some n else n.inField? "body"

/-- No string takes values in, not even between back quotes. -/
def stringShape? (d : Document) (n : Node) : Option StringShape :=
  (StringShape.ofText? (d.textOf n) n.start).map fun shape => { shape with interpolation := .none }

/-- How comments for the toolchain begin. -/
def directiveStarts : List Text :=
  ["//go:".toList, "// +build".toList, "//export ".toList, "//line ".toList, "//nolint".toList,
    "//lint:".toList]

def documentedKinds : List String :=
  ["package_clause", "import_declaration", "function_declaration", "method_declaration",
    "type_declaration", "var_declaration", "const_declaration"]

/-- Whether a declaration of the file begins on the line below a comment. -/
def documentsNext (d : Document) (last : Node) : Bool :=
  (last.parent?.any (·.kind == "source_file")) &&
    ((last.following.find? Node.isNamed).any fun next =>
      documentedKinds.contains next.kind &&
        d.firstLine next == d.lines.lineOf (d.trimmedSpan last).stop + 1)

/-- A file with nothing but its package and imports. -/
def isTrivial (d : Document) (_path : Path) : Bool :=
  d.root.namedChildren.all fun n =>
    ["package_clause", "import_declaration", "comment"].contains n.kind

end Abridge.Profile.Go

namespace Abridge.Profile

/-- The rules of Go. -/
def go : Profile where
  language := .go
  attachments := Go.attachments
  declarations := Go.declarations
  modulePath? := Go.modulePath?
  origin := Go.origin
  isStandard := Go.isStandard
  groupOf? := Go.groupOf?
  unit := Go.unit
  container? := Go.container?
  stringShape? := Go.stringShape?
  isDoc := fun _ _ => false
  documentsNext := Go.documentsNext
  isDirective := fun d n => Go.directiveStarts.any (d.textOf n).startsWith
  isTrivial := Go.isTrivial

end Abridge.Profile
