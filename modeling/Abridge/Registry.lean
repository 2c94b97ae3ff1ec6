import Abridge.Config.Settings
import Abridge.Path
import Abridge.Profile.Table
import Abridge.Text.Lowercase

/-!
Which language a file is in, by its extension. One registry leads from extensions to languages, the
other to the profiles in the order of their registration; in both a later registration takes an
extension over. Profiles are checked before they are registered.
-/
namespace Abridge

/-- Entries by extension, each extension once and in ascending order. -/
abbrev Extensions (α : Type) := List (String × α)

namespace Extensions

/-- Puts an entry at an extension, over the one that was there. -/
def insert {α : Type} (extension : String) (value : α) : Extensions α → Extensions α
  | [] => [(extension, value)]
  | (e, old) :: rest =>
    if extension = e then (e, value) :: rest
    else if extension < e then (extension, value) :: (e, old) :: rest
    else (e, old) :: insert extension value rest

/-- Puts one entry at several extensions. -/
def insertAll {α : Type} (extensions : List String) (value : α) (m : Extensions α) : Extensions α :=
  extensions.foldl (fun m e => insert e value m) m

/-- The entry of an extension, in whatever case it is written. -/
def find? {α : Type} (m : Extensions α) (extension : Text) : Option α :=
  m.lookup (String.ofList extension.lowercase)

end Extensions

/-- The queries that every language has to declare. -/
def requiredQueries : List String :=
  ["comments", "functions", "imports", "literals"]

/-- Checks that a language declares some queries. -/
def Language.validate (l : Language) (required : List String) : Except SourceError Unit :=
  required.forM fun name =>
    if (l.grammar.query? name).isSome then .ok () else .error (.queryNotFound l name)

/-- Checks that the language of a profile declares what every language has to, and that it has the
queries that it declares. -/
def Profile.validate (p : Profile) : Except Error Unit :=
  let declared := p.language.grammar.queries.map Query.name
  (p.language.validate (requiredQueries ++ declared)).mapError Error.source

/-- Languages by extension. -/
structure LanguageRegistry where
  byExtension : Extensions Language := []
  deriving DecidableEq, Repr

namespace LanguageRegistry

def register (r : LanguageRegistry) (l : Language) : LanguageRegistry where
  byExtension := r.byExtension.insertAll l.grammar.extensions l

/-- All languages. -/
def builtin : LanguageRegistry :=
  Language.all.foldl register {}

def forExtension? (r : LanguageRegistry) (extension : Text) : Option Language :=
  r.byExtension.find? extension

def forPath (r : LanguageRegistry) (path : Path) : Except SourceError Language :=
  match r.forExtension? path.extension with
  | some l => .ok l
  | none => .error (.unsupportedExtension (String.ofList path.extension))

def extensions (r : LanguageRegistry) : List String :=
  r.byExtension.map Prod.fst

/-- Checks that the registered languages declare some queries. -/
def validate (r : LanguageRegistry) (required : List String) : Except SourceError Unit :=
  r.byExtension.forM fun (_, l) => l.validate required

end LanguageRegistry

/-- Profiles in the order of registration, and their numbers by extension. -/
structure ProfileRegistry where
  profiles : List Profile := []
  byExtension : Extensions Nat := []

namespace ProfileRegistry

def register (r : ProfileRegistry) (p : Profile) : ProfileRegistry where
  profiles := r.profiles ++ [p]
  byExtension := r.byExtension.insertAll p.language.grammar.extensions r.profiles.length

/-- Registers a profile that passes its check. -/
def accept (r : ProfileRegistry) (p : Profile) : Except Error ProfileRegistry := do
  p.validate
  return r.register p

/-- The profiles of all languages. -/
def builtin : ProfileRegistry :=
  Language.all.foldl (fun r l => r.register l.profile) {}

def forExtension? (r : ProfileRegistry) (extension : Text) : Option Profile :=
  (r.byExtension.find? extension).bind fun index => r.profiles[index]?

def forPath (r : ProfileRegistry) (path : Path) : Except Error Profile :=
  match r.forExtension? path.extension with
  | some p => .ok p
  | none => .error (.unsupportedExtension path.toString)

def extensions (r : ProfileRegistry) : List String :=
  r.byExtension.map Prod.fst

end ProfileRegistry

end Abridge
