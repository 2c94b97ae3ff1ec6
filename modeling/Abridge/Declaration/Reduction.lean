import Abridge.Reduction.Basic

/-!
Leaving the public surface only: declarations that do not belong to it are taken out, the outermost
ones, and neighbours of one sort together.
-/
namespace Abridge.Declaration

/-- Order by start; of two declarations that start together the longer one comes first. -/
def precedes (a b : Declaration) : Bool :=
  a.span.start < b.span.start || (a.span.start == b.span.start && b.span.stop ≤ a.span.stop)

/-- Whether a declaration does not belong to the surface; what the parser did not understand
does. -/
def isHidden (e : Declaration) : Bool :=
  !e.standing.isIncluded && !e.node.isOpaque

/-- Whether one declaration goes with another. -/
def covers (a b : Declaration) : Bool :=
  a.span.contains b.span || a.span.overlaps b.span

/-- The declarations that do not belong to the surface and lie in no other such declaration. -/
def outermostHidden (ds : List Declaration) : List Declaration :=
  Document.dropRepeats covers ((ds.filter isHidden).mergeSort precedes)

/-- The statement that a declaration is. -/
def statement (e : Declaration) : Node :=
  let outer := Function.wrapper e.node
  match outer.parent? with
  | some parent => if parent.kind == "expression_statement" then parent else outer
  | none => outer

/-- Whether two declarations share a placeholder: of one sort, in one place, with only blanks
between them. -/
def adjoins (d : Document) (a b : Declaration) : Bool :=
  a.standing.kind == b.standing.kind && a.statement.sameParent b.statement &&
    d.lines.onlyBlanksBetween a.span.stop b.span.start

/-- The removal of a group of declarations. -/
def removalOf? (group : List Declaration) : Option Removal :=
  match group.head?, group.getLast? with
  | some first, some last =>
    some {
      span := .between first.span.start last.span.stop
      statement := first.statement
      count := group.length
      noun := first.standing.kind.noun }
  | _, _ => none

/-- The draft without what does not belong to the public surface. -/
def draft (job : Job) : Draft :=
  let d := job.document
  let hidden := outermostHidden (job.profile.declarations d)
  let stubs := Stubs.plan job.profile (hidden.map fun e => (e.span, e.statement))
  let removals := (hidden.splitBy (adjoins d)).filterMap removalOf?
  removals.foldl (Draft.remove d) { Draft.of d with stubs }

/-- Takes out what does not belong to the public surface. -/
def reduce (job : Job) : Except Error Outcome :=
  .ok (draft job).finish

end Abridge.Declaration

namespace Abridge.Reduction

def publicSurface : Reduction where
  name := "public_api"
  isEnabled := fun config => config.publicApiOnly
  prepare := fun _ => .ok Declaration.reduce

end Abridge.Reduction
