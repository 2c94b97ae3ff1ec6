import Abridge.Language.Grammar

/-!
The grammars of the languages. Every one declares the queries `comments`, `functions`, `imports` and
`literals`, and Python the query `docstrings` besides.
-/
namespace Abridge.Grammar

/-- Gives one role to several kinds of node. -/
def assign (role : Role) (kinds : List String) : List (String × Role) :=
  kinds.map fun kind => (kind, role)

def python : Grammar where
  extensions := ["py", "pyi", "pyw"]
  comments := { line := some "#", block := none, docMarkers := [] }
  roles :=
    assign .function ["function_definition"] ++
    assign .classType ["class_definition"] ++
    assign .importDecl ["import_statement", "import_from_statement", "future_import_statement"] ++
    assign .literal ["string", "list", "tuple", "set", "dictionary"] ++
    assign .comment ["comment"]
  queries := [
    kindQuery "comments" "comment" ["comment"],
    { name := "docstrings", selectors := [.child "expression_statement" "string" "docstring"] },
    functionQuery [("function_definition", "block")],
    kindQuery "imports" "import"
      ["import_statement", "import_from_statement", "future_import_statement"],
    literalQuery [("string", "string"), ("list", "array"), ("tuple", "array"), ("set", "array"),
      ("dictionary", "map")]]

/-- TypeScript with or without markup, and JavaScript, which has no declarations of types. -/
def ecma (extensions : List String) : Grammar where
  extensions
  comments := slashComments ["/**"]
  roles :=
    assign .function ["function_declaration", "generator_function_declaration",
      "function_expression", "arrow_function"] ++
    assign .method ["method_definition"] ++
    assign .classType ["class_declaration", "abstract_class_declaration"] ++
    assign .interfaceType ["interface_declaration"] ++
    assign .typeAlias ["type_alias_declaration"] ++
    assign .enumType ["enum_declaration"] ++
    assign .nameScope ["internal_module", "module"] ++
    assign .variableDecl ["lexical_declaration", "variable_declaration"] ++
    assign .importDecl ["import_statement"] ++
    assign .literal ["string", "template_string", "array", "object"] ++
    assign .comment ["comment"]
  queries := [
    kindQuery "comments" "comment" ["comment"],
    functionQuery [("function_declaration", "statement_block"),
      ("generator_function_declaration", "statement_block"),
      ("function_expression", "statement_block"), ("arrow_function", "statement_block"),
      ("method_definition", "statement_block")],
    kindQuery "imports" "import" ["import_statement"],
    literalQuery [("string", "string"), ("template_string", "string"), ("array", "array"),
      ("object", "map")]]

def rust : Grammar where
  extensions := ["rs"]
  comments := slashComments ["///", "//!", "/**", "/*!"]
  roles :=
    assign .function ["function_item", "function_signature_item"] ++
    assign .classType ["struct_item", "union_item"] ++
    assign .enumType ["enum_item"] ++
    assign .interfaceType ["trait_item"] ++
    assign .typeAlias ["type_item"] ++
    assign .nameScope ["mod_item"] ++
    assign .variableDecl ["const_item", "static_item"] ++
    assign .importDecl ["use_declaration", "extern_crate_declaration"] ++
    assign .literal ["string_literal", "raw_string_literal", "array_expression",
      "tuple_expression", "struct_expression"] ++
    assign .comment ["line_comment", "block_comment"]
  queries := [
    kindQuery "comments" "comment" ["line_comment", "block_comment"],
    functionQuery [("function_item", "block")],
    kindQuery "imports" "import" ["use_declaration", "extern_crate_declaration"],
    literalQuery [("string_literal", "string"), ("raw_string_literal", "string"),
      ("array_expression", "array"), ("tuple_expression", "array"),
      ("struct_expression", "struct")]]

/-- Go, where a comment is documentation by its place and not by a marker. -/
def go : Grammar where
  extensions := ["go"]
  comments := slashComments []
  roles :=
    assign .function ["function_declaration", "func_literal"] ++
    assign .method ["method_declaration"] ++
    assign .typeAlias ["type_declaration"] ++
    assign .variableDecl ["var_declaration", "const_declaration"] ++
    assign .importDecl ["import_declaration", "import_spec"] ++
    assign .literal ["interpreted_string_literal", "raw_string_literal", "composite_literal",
      "literal_value"] ++
    assign .comment ["comment"]
  queries := [
    kindQuery "comments" "comment" ["comment"],
    functionQuery [("function_declaration", "block"), ("method_declaration", "block"),
      ("func_literal", "block")],
    kindQuery "imports" "import" ["import_spec"],
    { name := "literals"
      selectors :=
        [.kind "interpreted_string_literal" "string", .kind "raw_string_literal" "string"] ++
        [("map_type", "map"), ("slice_type", "array"), ("array_type", "array"),
          ("implicit_length_array_type", "array"), ("type_identifier", "struct"),
          ("qualified_type", "struct"), ("generic_type", "struct")].map fun (type, label) =>
            .withField "composite_literal" "type" type label none }]

def java : Grammar where
  extensions := ["java"]
  comments := slashComments ["/**"]
  roles :=
    assign .method ["method_declaration", "constructor_declaration"] ++
    assign .classType ["class_declaration", "record_declaration"] ++
    assign .interfaceType ["interface_declaration", "annotation_type_declaration"] ++
    assign .enumType ["enum_declaration"] ++
    assign .variableDecl ["field_declaration"] ++
    assign .importDecl ["import_declaration"] ++
    assign .literal ["string_literal", "array_initializer"] ++
    assign .comment ["line_comment", "block_comment"]
  queries := [
    kindQuery "comments" "comment" ["line_comment", "block_comment"],
    functionQuery [("method_declaration", "block"),
      ("constructor_declaration", "constructor_body")],
    kindQuery "imports" "import" ["import_declaration"],
    literalQuery [("string_literal", "string"), ("array_initializer", "array")]]

def c : Grammar where
  extensions := ["c", "h"]
  comments := slashComments ["/**", "/*!", "///", "//!"]
  roles :=
    assign .function ["function_definition"] ++
    assign .classType ["struct_specifier", "union_specifier"] ++
    assign .enumType ["enum_specifier"] ++
    assign .typeAlias ["type_definition"] ++
    assign .variableDecl ["declaration"] ++
    assign .importDecl ["preproc_include"] ++
    assign .literal ["string_literal", "initializer_list"] ++
    assign .comment ["comment"]
  queries := [
    kindQuery "comments" "comment" ["comment"],
    functionQuery [("function_definition", "compound_statement")],
    kindQuery "imports" "import" ["preproc_include"],
    literalQuery [("string_literal", "string"), ("initializer_list", "array")]]

def cpp : Grammar where
  extensions := ["cpp", "cc", "cxx", "hpp", "hh", "hxx"]
  comments := slashComments ["/**", "/*!", "///", "//!"]
  roles :=
    assign .function ["function_definition", "lambda_expression"] ++
    assign .classType ["class_specifier", "struct_specifier", "union_specifier"] ++
    assign .enumType ["enum_specifier"] ++
    assign .typeAlias ["type_definition", "alias_declaration"] ++
    assign .nameScope ["namespace_definition"] ++
    assign .variableDecl ["declaration", "field_declaration"] ++
    assign .importDecl ["preproc_include"] ++
    assign .literal ["string_literal", "raw_string_literal", "initializer_list"] ++
    assign .comment ["comment"]
  queries := [
    kindQuery "comments" "comment" ["comment"],
    functionQuery [("function_definition", "compound_statement"),
      ("lambda_expression", "compound_statement")],
    kindQuery "imports" "import" ["preproc_include"],
    literalQuery [("string_literal", "string"), ("raw_string_literal", "string"),
      ("initializer_list", "array")]]

end Abridge.Grammar

namespace Abridge.Language

/-- The grammar of a language. -/
def grammar : Language → Grammar
  | python => .python
  | typescript => .ecma ["ts", "mts", "cts"]
  | tsx => .ecma ["tsx"]
  | javascript => .ecma ["js", "jsx", "mjs", "cjs"]
  | rust => .rust
  | go => .go
  | java => .java
  | c => .c
  | cpp => .cpp

end Abridge.Language
