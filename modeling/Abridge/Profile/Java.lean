import Abridge.Profile.Basic

/-!
Java: access modifiers, members that are open to their package, and imports that share the package
of the file.
-/
namespace Abridge.Profile.Java

/-! ### Declarations -/

/-- The sort of type that a kind of node declares. -/
def typeKindOf? (kind : String) : Option DeclarationKind :=
  if kind == "class_declaration" || kind == "record_declaration" then some .classType
  else if kind == "enum_declaration" then some .enumType
  else if kind == "interface_declaration" || kind == "annotation_type_declaration"
  then some .interfaceType
  else none

/-- The visibility that a modifier gives, if it gives one. -/
def visibilityOf? (modifier : Node) : Option Visibility :=
  if modifier.kind == "public" then some .pub
  else if modifier.kind == "protected" then some .prot
  else if modifier.kind == "private" then some .priv
  else none

/-- The visibility of a declaration by its modifiers, or the one that holds without. -/
def visibility (otherwise : Visibility) (declaration : Node) : Visibility :=
  ((declaration.ofKind? "modifiers").bind fun modifiers =>
    modifiers.children.findSome? visibilityOf?).getD otherwise

/-- The members in a body; an enum keeps its own behind its constants. -/
def membersIn (body : Node) : List Node :=
  match body.namedChildren.find? (·.kind == "enum_body_declarations") with
  | some inner => inner.namedChildren
  | none => body.namedChildren

/-- The sort of member that a kind of node is. -/
def memberKindOf? (kind : String) : Option DeclarationKind :=
  if ["method_declaration", "constructor_declaration", "compact_constructor_declaration"].contains
      kind
  then some .method
  else if kind == "field_declaration" || kind == "constant_declaration" then some .fieldDecl
  else typeKindOf? kind

/-- A member, and itself to go on with if it is a type of the surface. -/
def declareMember (d : Document) (otherwise : Visibility) (member : Node) :
    List (Declaration ⊕ (Unit × Node)) :=
  (memberKindOf? member.kind).toList.flatMap fun kind =>
    let standing := Standing.member kind (visibility otherwise member)
    .inl (.of d {} member member standing) ::
      (if (typeKindOf? member.kind).isSome && standing.isIncluded then [.inr ((), member)] else [])

/-- The members of a type; those of an interface are public unless they say otherwise. -/
def memberStep (d : Document) (_ : Unit) (owner : Node) : List (Declaration ⊕ (Unit × Node)) :=
  let isInterface := typeKindOf? owner.kind == some .interfaceType
  (owner.inField? "body").toList.flatMap fun body =>
    (membersIn body).flatMap (declareMember d (if isInterface then .pub else .internal))

/-- An import or a type of the file, with its members if it is public. -/
def declare (d : Document) (n : Node) : List Declaration :=
  if n.kind == "import_declaration" then [.of d {} n n .ofImport]
  else
    (typeKindOf? n.kind).toList.flatMap fun kind =>
      let visibility := visibility .internal n
      let exported := visibility == .pub
      .of d {} n n (.topLevel kind visibility exported) ::
        (if exported then n.expand (memberStep d) () else [])

def declarations (d : Document) : List Declaration :=
  d.root.namedChildren.flatMap (declare d)

/-! ### Imports -/

/-- The dotted name inside a node. -/
def dottedName? (d : Document) (n : Node) : Option Text :=
  (n.namedChildren.find? fun c => c.kind == "scoped_identifier" || c.kind == "identifier").map
    d.textOf

/-- The package that a file belongs to. -/
def package? (d : Document) : Option Text :=
  (d.root.ofKind? "package_declaration").bind (dottedName? d)

/-- The first two segments of a dotted name. -/
def leading (path : Text) : List Text :=
  (path.split '.').take 2

/-- Imports that share the first two segments of the package come from the project. -/
def origin (d : Document) (n : Node) : Origin :=
  match package? d, dottedName? d n with
  | some package, some path =>
    if (leading package).length == 2 && leading path == leading package then .project
    else .elsewhere
  | _, _ => .elsewhere

/-- Files that only describe a package or a module. -/
def isTrivial (_ : Document) (path : Path) : Bool :=
  path.fileName == "package-info.java".toList || path.fileName == "module-info.java".toList

end Abridge.Profile.Java

namespace Abridge.Profile

/-- The rules of Java. -/
def java : Profile where
  language := .java
  declarations := Java.declarations
  modulePath? := Java.dottedName?
  origin := Java.origin
  isTrivial := Java.isTrivial

end Abridge.Profile
