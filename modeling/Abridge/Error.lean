import Abridge.Json.Basic
import Abridge.Language.Basic
import Abridge.Text.Quoted

/-!
What can go wrong, and how it is said. Errors are causes; `message` words each of them in one place.
-/
namespace Abridge

/-- A problem with a grammar or a parse. -/
inductive SourceError where
  | unsupportedExtension (extension : String)
  | parseFailure (language : Language) (message : String)
  | queryNotFound (language : Language) (query : String)
  | queryUnreadable (language : Language) (query message : String)
  | engine (message : String)
  deriving DecidableEq, Repr

namespace SourceError

def message : SourceError → String
  | unsupportedExtension extension =>
    "Unsupported extension: " ++ String.ofList (Text.quoted extension.toList)
  | parseFailure language text => "Parse error (" ++ language.title ++ "): " ++ text
  | queryNotFound language query =>
    "Query '" ++ query ++ "' is not declared for " ++ language.title
  | queryUnreadable language query text =>
    "Query '" ++ query ++ "' failed to compile for " ++ language.title ++ ": " ++ text
  | engine text => "Tree-sitter error: " ++ text

/-- Whether the fault lies in the tables of a grammar and not in a file. -/
def isProgrammingError : SourceError → Bool
  | queryNotFound .. => true
  | queryUnreadable .. => true
  | _ => false

end SourceError

/-- Why a text is no number of tokens. -/
inductive BudgetError where
  | empty
  | invalid (text : Text)
  deriving DecidableEq, Repr

def BudgetError.message : BudgetError → String
  | empty => "Empty token budget value"
  | invalid text => "Invalid token budget: '" ++ String.ofList text ++ "'"

/-- What a value of a configuration was expected to be. -/
inductive Expected where
  | record (name : String)
  | natural
  | boolean
  | text
  | sequence
  | map
  | choice
  | unit
  | fewerItems
  | singleKey
  deriving DecidableEq, Repr

def Expected.message : Expected → String
  | record name => "struct " ++ name
  | natural => "usize"
  | boolean => "a boolean"
  | text => "a string"
  | sequence => "a sequence"
  | map => "a map"
  | choice => "string or map"
  | unit => "unit"
  | fewerItems => "fewer elements in array"
  | singleKey => "map with a single key"

/-- Why a JSON value is no configuration. -/
inductive DecodeError where
  | syntaxFault (fault : Json.Fault)
  | invalidType (found : Json) (expected : Expected)
  | invalidValue (found : Json) (expected : Expected)
  | invalidLength (length : Nat)
  | unknownVariant (name : String) (known : List String)
  | duplicateField (name : String)
  | noVariant (name : String)
  | budget (error : BudgetError)
  deriving Repr

namespace DecodeError

/-- A JSON value as messages name it. -/
def found : Json → String
  | .null => "null"
  | .bool b => "boolean `" ++ (if b then "true" else "false") ++ "`"
  | .number (.double negative x) =>
    "floating point `" ++ String.ofList (Json.Number.double negative x).render ++ "`"
  | .number n => "integer `" ++ String.ofList n.render ++ "`"
  | .string s => "string " ++ String.ofList (Text.quoted s.toList)
  | .array _ => "sequence"
  | .object _ => "map"

/-- The names of a choice, each between accents and with commas between them. -/
def listing (names : List String) : String :=
  ", ".intercalate (names.map fun name => "`" ++ name ++ "`")

def message : DecodeError → String
  | syntaxFault fault => fault.message
  | invalidType value expected =>
    "invalid type: " ++ found value ++ ", expected " ++ expected.message
  | invalidValue value expected =>
    "invalid value: " ++ found value ++ ", expected " ++ expected.message
  | invalidLength length =>
    "invalid length " ++ toString length ++ ", expected " ++ Expected.fewerItems.message
  | unknownVariant name known =>
    "unknown variant `" ++ name ++ "`, expected one of " ++ listing known
  | duplicateField name => "duplicate field `" ++ name ++ "`"
  | noVariant name => "data did not match any variant of untagged enum " ++ name
  | budget error => error.message

end DecodeError

/-- Why a configuration is refused. -/
inductive ConfigError where
  | undecodable (error : DecodeError)
  | overridesNotObject
  | badPattern
  | stated (message : String)
  deriving Repr

def ConfigError.message : ConfigError → String
  | undecodable error => error.message
  | overridesNotObject => "overrides must be a JSON object"
  | badPattern => "bad pattern"
  | stated text => text

/-- Why a file could not be abridged. -/
inductive Error where
  | parseFailure (path message : String)
  | unsupportedExtension (path : String)
  | source (error : SourceError)
  | invalidConfig (error : ConfigError)
  | tokenizer (message : String)
  | json (message : String)
  | inContext (context : String) (inner : Error)
  deriving Repr

namespace Error

def message : Error → String
  | parseFailure path text => "Parse failure in " ++ path ++ ": " ++ text
  | unsupportedExtension path => "Unsupported extension for " ++ path
  | source error => "Syntax layer error: " ++ error.message
  | invalidConfig error => "Invalid configuration: " ++ error.message
  | tokenizer text => "Tokenizer error: " ++ text
  | json text => "JSON error: " ++ text
  | inContext context inner => context ++ ": " ++ inner.message

/-- The error inside all contexts. -/
def root : Error → Error
  | inContext _ inner => inner.root
  | error => error

/-- A problem with a parse as a problem with the file at a path. -/
def forPath (path : String) : SourceError → Error
  | .parseFailure _ text => parseFailure path text
  | .unsupportedExtension _ => unsupportedExtension path
  | error => source error

/-- Names the file in an error that does not do so yet. -/
def atPath (path : String) : Error → Error
  | source error => forPath path error
  | error => error

end Error

/-- Says where an error came up. -/
def inContext {α : Type} (context : String) (result : Except Error α) : Except Error α :=
  result.mapError (Error.inContext context)

end Abridge
