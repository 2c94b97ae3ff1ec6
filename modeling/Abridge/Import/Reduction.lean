import Abridge.Config.Settings
import Abridge.Reduction.Basic

/-!
Taking imports out, by where they come from or by their number.

`marks` says of every import whether it goes: by the policy and the origin of the import, and, in a
long list, because it comes behind the imports that may stay. A group of imports that loses all its
members goes as a whole, and imports with only blanks between them share one placeholder.
-/
namespace Abridge.Import

/-- Where a module comes from: a pattern makes it external, then a root of the project makes it the
project's own, then the standard library is external, and then the import itself decides. -/
def originOf (profile : Profile) (d : Document) (config : ImportConfig) (external : List Pattern)
    (n : Node) : Origin :=
  match profile.modulePath? d n with
  | none => profile.origin d n
  | some path =>
    if Pattern.anyMatch external path then .elsewhere
    else if config.isLocalRoot path then .project
    else if profile.isStandard path then .elsewhere
    else profile.origin d n

/-- Whether a policy takes out the imports of an origin. -/
def isStripped (policy : ImportPolicy) (origin : Origin) : Bool :=
  match policy with
  | .keepAll => false
  | .stripLocal => origin == .project
  | .stripExternal => origin == .elsewhere
  | .stripAll => true

/-- An import and whether it goes. -/
structure Mark where
  node : Node
  isRemoved : Bool

/-- Marks an import by the policy; what the parser did not understand stays. -/
def markByPolicy (profile : Profile) (d : Document) (config : ImportConfig)
    (external : List Pattern) (n : Node) : Mark where
  node := n
  isRemoved := !n.isOpaque && isStripped config.policy (originOf profile d config external n)

/-- Lets the first `limit` imports stay that would, and marks those behind them. -/
def markBeyond : Nat → List Mark → List Mark
  | _, [] => []
  | limit, m :: rest =>
    if m.isRemoved || m.node.isOpaque then m :: markBeyond limit rest
    else
      match limit with
      | 0 => { m with isRemoved := true } :: markBeyond 0 rest
      | limit + 1 => m :: markBeyond limit rest

/-- Which of the imports go. -/
def marks (profile : Profile) (d : Document) (config : ImportConfig) (external : List Pattern)
    (units : List Node) : List Mark :=
  let byPolicy := units.map (markByPolicy profile d config external)
  if config.summarizeLong then markBeyond config.maxItemsBeforeSummary byPolicy else byPolicy

/-- The nodes that are taken out for the imports of a document, each once. -/
def unitsOf (profile : Profile) (imports : List Node) : List Node :=
  Document.dropRepeats Node.same (imports.map profile.unit)

/-- Something that goes as one: an import, or a group of them. -/
structure Piece where
  node : Node
  count : Nat

/-- Whether an import belongs to a group. -/
def isIn (profile : Profile) (group : Node) (m : Mark) : Bool :=
  (profile.groupOf? m.node).any group.same

/-- What goes for an import: its group, if all of it goes, or the import alone. -/
def pieceFor (profile : Profile) (all : List Mark) (m : Mark) : Piece × Bool :=
  match profile.groupOf? m.node with
  | none => (⟨m.node, 1⟩, false)
  | some group =>
    let members := all.filter (isIn profile group)
    if members.all Mark.isRemoved then (⟨group, members.length⟩, true) else (⟨m.node, 1⟩, false)

/-- Adds what goes for an import; a group that was just added is not added again. -/
def addPiece (profile : Profile) (all : List Mark) (pieces : List Piece) (m : Mark) : List Piece :=
  let (piece, isGroup) := pieceFor profile all m
  if isGroup && (pieces.getLast?.any fun last => last.node.same piece.node) then pieces
  else pieces ++ [piece]

/-- Everything that goes, in order. -/
def pieces (profile : Profile) (all : List Mark) : List Piece :=
  (all.filter Mark.isRemoved).foldl (addPiece profile all) []

/-- Whether only blanks stand between two pieces. -/
def adjoins (d : Document) (a b : Piece) : Bool :=
  d.lines.onlyBlanksBetween a.node.stop b.node.start

/-- The removal of a run of pieces. -/
def removalOf? (d : Document) (run : List Piece) : Option Removal :=
  match run.head?, run.getLast? with
  | some first, some last =>
    some {
      span := .between first.node.start (d.trimmedSpan last.node).stop
      statement := first.node
      count := total (run.map Piece.count)
      noun := "import" }
  | _, _ => none

/-- The draft without the imports that go. -/
def draft (external : List Pattern) (job : Job) (imports : List Node) : Draft :=
  let d := job.document
  let units := unitsOf job.profile imports
  let gone := pieces job.profile (marks job.profile d job.config.imports external units)
  let stubs := Stubs.plan job.profile (gone.map fun piece => (piece.node.span, piece.node))
  let removals := (gone.splitBy (adjoins d)).filterMap (removalOf? d)
  removals.foldl (Draft.remove d) { Draft.of d with stubs }

/-- Takes imports out, of which those that match a pattern are external. -/
def reduce (external : List Pattern) (job : Job) : Except Error Outcome := do
  let imports ← job.queryNodes "imports" "import"
  return (draft external job imports).finish

end Abridge.Import

namespace Abridge.Reduction

def imports : Reduction where
  name := "imports"
  isEnabled := fun config => !config.imports.isNoop
  prepare := fun config => return Import.reduce (← compilePatterns config.imports.externalPatterns)

end Abridge.Reduction
