import Abridge.Config.Decode
import Abridge.Config.Encode
import Abridge.Pattern.Reader

/-!
Configurations laid over each other: the defaults of the settings, the section of a language, and
the overrides of a file, in that order. Every result is checked, so that its patterns can be read.
-/
namespace Abridge

/-- The patterns that texts write down, or the error that one of them does not. -/
def compilePatterns (texts : List String) : Except Error (List Pattern) :=
  match Pattern.ofTexts? texts with
  | some patterns => .ok patterns
  | none => .error (.invalidConfig .badPattern)

namespace Config

/-- The lists of patterns in a configuration, each with its place. -/
def patternFields (c : Config) : List (String × List String) :=
  let comments := c.comments.options
  [("comments.keep_annotations", comments.keepAnnotations),
    ("comments.strip_patterns", comments.stripPatterns),
    ("function_bodies.except_patterns", c.functionBodies.exceptPatterns),
    ("function_bodies.keep_annotated", c.functionBodies.keepAnnotated),
    ("imports.external_patterns", c.imports.externalPatterns)]

/-- Checks that every pattern of a configuration can be read. -/
def validate (c : Config) : Except Error Unit :=
  c.patternFields.forM fun (place, texts) => inContext place (discard (compilePatterns texts))

/-- The same configuration with its comment section in detail, so that part of it can be
overridden. -/
def normalized (c : Config) : Config :=
  { c with comments := .detailed c.comments.options }

/-- Lays an override over a configuration; `null` changes nothing. -/
def merged (c : Config) (overrides : Json) : Except Error Config :=
  match overrides with
  | .null => .ok c
  | .object members =>
    match decode (c.normalized.encode.deepMerge (.object members)) with
    | .error e => .error (.invalidConfig (.undecodable e))
    | .ok result => do
      result.validate
      return result
  | _ => .error (.invalidConfig .overridesNotObject)

end Config

/-- Defaults, and overrides by the name of a language. -/
structure Settings where
  defaults : Config := {}
  languages : List (String × Json) := []
  deriving Repr

namespace Settings

/-- Settings as JSON text; the sections of the languages are kept as they are. -/
def format : Format Settings :=
  .record "Settings" [
    Format.field "defaults" Config.format fun a r => { r with defaults := a },
    Format.field "languages" .members fun a r => { r with languages := a }] {}

/-- Where the section of a language stands. -/
def place (language : String) : String :=
  "languages." ++ language

/-- The settings that a JSON text writes down. Each section is tried on the defaults. -/
def ofText (t : Text) : Except Error Settings := do
  let settings ← (format.ofText t).mapError fun e => Error.invalidConfig (.undecodable e)
  settings.defaults.validate
  settings.languages.forM fun (language, overrides) =>
    inContext (place language) (discard (settings.defaults.merged overrides))
  return settings

/-- The configuration of a language before the overrides of a file. -/
def forLanguage (s : Settings) (language : String) : Except Error Config :=
  match s.languages.lookup language with
  | some overrides => inContext (place language) (s.defaults.merged overrides)
  | none => .ok s.defaults

/-- The configuration of a file: defaults, section of its language, its own overrides. -/
def resolve (s : Settings) (language : String) (overrides : Option Json) : Except Error Config := do
  let config ← s.forLanguage language
  match overrides with
  | some o => inContext "file overrides" (config.merged o)
  | none => return config

end Settings

end Abridge
