import Abridge.Pipeline
import Abridge.Registry

/-!
Abridging files: the language by the path, the configuration by settings and overrides, and then the
reductions, under a ceiling of tokens if there is one.
-/
namespace Abridge

/-- A file to abridge. -/
structure SourceFile where
  path : Path
  text : Text
  /-- How many files are shown together. -/
  groupSize : Nat := 1
  /-- What this file alone has configured otherwise. -/
  overrides : Option Json := none

/-- All that does not change from file to file. -/
structure Session where
  parser : Parser
  count : Counter
  registry : ProfileRegistry := .builtin
  settings : Settings := {}

namespace Session

/-- Whether a file should be left out: it is trivial and not shown alone. -/
def shouldSkip (s : Session) (file : SourceFile) : Except Error Bool :=
  if file.groupSize ≤ 1 then .ok false
  else do
    let profile ← s.registry.forPath file.path
    let parsed := Document.parse s.parser profile.language file.text
    let document ← parsed.mapError (Error.atPath file.path.toString)
    return profile.isTrivial document file.path

/-- The configuration of a file, with the packages that its place implies. -/
def configFor (s : Session) (profile : Profile) (file : SourceFile) : Except Error Config := do
  let config ← inContext ("config for " ++ file.path.toString)
    (s.settings.resolve profile.language.name file.overrides)
  let roots := (profile.rootsFor file.path).map String.ofList
  return { config with
    imports := { config.imports with localRoots := config.imports.localRoots ++ roots } }

/-- Abridges a file. -/
def process (s : Session) (file : SourceFile) : Except Error Abridged := do
  let profile ← s.registry.forPath file.path
  let config ← s.configFor profile file
  let setting : Pipeline.Setting := { parser := s.parser, profile, config, count := s.count }
  let result :=
    match config.budget.maxTokens with
    | some ceiling => Pipeline.fit setting file.text ceiling
    | none => Pipeline.run setting file.text
  result.mapError (Error.atPath file.path.toString)

/-- Abridges files, one result for each and in their order. -/
def processAll (s : Session) (files : List SourceFile) : List (Except Error Abridged) :=
  files.map s.process

end Session

end Abridge
