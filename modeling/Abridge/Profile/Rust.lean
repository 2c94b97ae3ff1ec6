import Abridge.Profile.Basic

/-!
Rust: `pub` modifiers, impl blocks, attributes, and paths that start in the crate.
-/
namespace Abridge.Profile.Rust

/-! ### Declarations -/

def attachments : Attachments where
  kinds := ["attribute_item"]

/-- The visibility that a modifier gives. -/
def visibilityOf (modifier : Text) : Visibility :=
  let text := modifier.words.flatten
  if text == "pub".toList then .pub
  else if text == "pub(crate)".toList then .internal
  else if text == "pub(super)".toList then .prot
  else if text == "pub(self)".toList then .priv
  else .internal

/-- The visibility of an item; without a modifier it is private. -/
def itemVisibility (d : Document) (item : Node) : Visibility :=
  match item.ofKind? "visibility_modifier" with
  | some modifier => visibilityOf (d.textOf modifier)
  | none => .priv

/-- The sort of declaration that a kind of item is. -/
def kindOf? (kind : String) : Option DeclarationKind :=
  if kind == "function_item" || kind == "function_signature_item" then some .function
  else if kind == "struct_item" || kind == "union_item" then some .structType
  else if kind == "enum_item" then some .enumType
  else if kind == "trait_item" then some .traitType
  else if kind == "type_item" then some .typeAlias
  else if kind == "mod_item" then some .nameScope
  else if kind == "const_item" || kind == "static_item" then some .variableDecl
  else if kind == "macro_definition" then some .macroDecl
  else if kind == "use_declaration" || kind == "extern_crate_declaration" then some .importDecl
  else none

/-- Whether one of the attributes among the nodes above an item, nearest first, exports it. -/
def exportsMacro (d : Document) : List Node → Bool
  | [] => false
  | n :: rest =>
    if n.kind == "attribute_item" then
      Text.occurs "macro_export".toList (d.textOf n) || exportsMacro d rest
    else if n.kind == "line_comment" || n.kind == "block_comment" then exportsMacro d rest
    else false

/-- The visibility of an item of a sort. -/
def visibility (d : Document) (kind : DeclarationKind) (item : Node) : Visibility :=
  match kind with
  | .importDecl => .pub
  | .macroDecl => if exportsMacro d item.previous then .pub else .priv
  | _ => itemVisibility d item

/-- The sort of member that a kind of item in an impl block is. -/
def memberKindOf? (kind : String) : Option DeclarationKind :=
  if kind == "function_item" || kind == "function_signature_item" then some .method
  else if kind == "const_item" || kind == "type_item" then some .fieldDecl
  else none

/-- The members of an impl block: as public as the trait, if it implements one. -/
def implMembers (d : Document) (block : Node) : List Declaration :=
  let ofTrait := (block.inField? "trait").isSome
  (block.inField? "body").toList.flatMap fun body =>
    body.namedChildren.filterMap fun member =>
      (memberKindOf? member.kind).map fun kind =>
        .of d attachments member member
          (.member kind (if ofTrait then .pub else itemVisibility d member))

/-- The named fields of a struct. -/
def fields (d : Document) (item : Node) : List Declaration :=
  ((item.inField? "body").toList.filter (·.kind == "field_declaration_list")).flatMap fun body =>
    (body.namedChildren.filter (·.kind == "field_declaration")).map fun field =>
      .of d attachments field field (.member .fieldDecl (itemVisibility d field))

/-- What an item declares, and the module body to go on with. Only what is exported is looked
into. -/
def declare (d : Document) (item : Node) : List (Declaration ⊕ (Unit × Node)) :=
  if item.kind == "impl_item" then (implMembers d item).map .inl
  else
    match kindOf? item.kind with
    | none => []
    | some kind =>
      let visibility := visibility d kind item
      let exported := visibility == .pub
      .inl (.of d attachments item item (.topLevel kind visibility exported)) ::
        (if exported && kind == .structType then (fields d item).map .inl
        else if exported && kind == .nameScope then
          (item.inField? "body").toList.map fun body => .inr ((), body)
        else [])

def declarations (d : Document) : List Declaration :=
  d.root.expand (fun _ container => container.namedChildren.flatMap (declare d)) ()

/-! ### Imports -/

/-- The text without pairs of colons in front. -/
def dropColons : Text → Text
  | ':' :: ':' :: rest => dropColons rest
  | t => t

def modulePath? (d : Document) (n : Node) : Option Text :=
  (n.inField? (if n.kind == "extern_crate_declaration" then "name" else "argument")).map
    fun path => dropColons (d.textOf path)

/-- Paths that start in the crate, here or above come from the project. -/
def origin (d : Document) (n : Node) : Origin :=
  if n.kind == "extern_crate_declaration" then .elsewhere
  else
    let path := (modulePath? d n).getD []
    let root := Text.trim (path.takeWhile fun c => c != ':' && c != '\x7b' && c != ';')
    if ["crate".toList, "self".toList, "super".toList].contains root then .project else .elsewhere

/-! ### Literals and files -/

/-- The node with the brackets of a literal; an array that repeats one value lists nothing. -/
def container? (n : Node) : Option Node :=
  if n.kind == "array_expression" && n.children.any (·.kind == ";") then none
  else if n.kind == "struct_expression" then n.inField? "body"
  else some n

def attributeKinds : List String :=
  ["attribute_item", "inner_attribute_item"]

/-- Whether an item only declares or uses other modules. -/
def isWiring (item : Node) : Bool :=
  if item.kind == "mod_item" then (item.inField? "body").isNone
  else
    ["use_declaration", "extern_crate_declaration", "attribute_item", "inner_attribute_item",
      "line_comment", "block_comment"].contains item.kind

/-- The root file of a module with nothing but declarations and uses of other modules. -/
def isTrivial (d : Document) (path : Path) : Bool :=
  (path.fileName == "mod.rs".toList || path.fileName == "lib.rs".toList) &&
    d.root.namedChildren.all isWiring

end Abridge.Profile.Rust

namespace Abridge.Profile

/-- The rules of Rust. -/
def rust : Profile where
  language := .rust
  attachments := Rust.attachments
  declarations := Rust.declarations
  modulePath? := Rust.modulePath?
  origin := Rust.origin
  container? := Rust.container?
  isExempt := fun d n =>
    Import.surrounds d n || n.ancestors.any fun a => Rust.attributeKinds.contains a.kind
  isTrivial := Rust.isTrivial

end Abridge.Profile
