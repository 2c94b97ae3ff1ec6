import Abridge.Config.Settings
import Abridge.Reduction.Basic

/-!
Taking function bodies out, or trimming those that stay.

`isStripped` decides by the mode, the length and the visibility of a function. A body between braces
becomes braces around a placeholder; an indented one keeps its docstring. A body that stays is cut
behind the statements that fit a number of tokens. Functions can be exempted by name or annotation.
-/
namespace Abridge.Body

/-! ### Decisions -/

/-- Whether a body of so many lines goes, where the function may have a standing. -/
def isStripped (config : BodyConfig) (lines : Nat) (standing : Option Standing) : Bool :=
  match config.mode with
  | .off => false
  | .keepAll => false
  | .all => 1 < lines
  | .largeOnly => 1 < lines && config.minLines ≤ lines
  | .nonPublic => standing.any fun s => !s.isIncluded

/-- The patterns of a configuration, read. -/
structure Exemptions where
  names : List Pattern
  annotations : List Pattern

/-- Whether a function keeps its body by its name or by one of its annotations. -/
def Exemptions.exempts (e : Exemptions) (profile : Profile) (d : Document) (function : Node) :
    Bool :=
  ((profile.functionName? d function).any fun name => Pattern.anyMatch e.names name) ||
    (profile.annotations d function).any fun a => Pattern.anyMatch e.annotations a

/-! ### Eliding -/

/-- The statements of a body, also where a list holds them. -/
def statements (body : Node) : List Node :=
  match body.statements with
  | [list] => if list.kind == "statement_list" then list.statements else [list]
  | all => all

/-- The indentation inside a body whose line begins with `outer`: that of its first statement, if it
stands on a line of its own and deeper, or one level more. -/
def innerIndent (d : Document) (body : Node) (outer : Text) : Text :=
  match (statements body).head? with
  | none => d.deeper outer
  | some first =>
    let indent := d.lines.indentAt first.start
    if d.startsLine first && outer.length < indent.length then indent else d.deeper outer

/-- The comment that stands in for a body. -/
def placeholder (d : Document) (noun : Text) : Text :=
  d.comments.lineComment (Placeholder.omitted 1 noun)

/-- An edit that takes a body out: braces around a placeholder. -/
def elideBraces (d : Document) (body : Node) (noun : Text) : Edit where
  span := body.span
  text :=
    let outer := d.lines.indentAt body.start
    ['\x7b', '\n'] ++ innerIndent d body outer ++ placeholder d noun ++ ['\n'] ++ outer ++ ['\x7d']

/-- Whether a statement is one of the docstrings. -/
def isDocstring (docstrings : List Node) (statement : Node) : Bool :=
  statement.namedChildren.head?.any fun s => docstrings.any s.same

/-- An edit that takes an indented body out: all behind the docstring, if there is one and more. -/
def elideIndented? (d : Document) (docstrings : List Node) (block : Node) (noun : Text) :
    Option Edit :=
  let whole : Edit := ⟨block.span, ['.', '.', '.', ' ', ' '] ++ placeholder d noun⟩
  match block.statements with
  | [] => some whole
  | first :: rest =>
    if !isDocstring docstrings first then some whole
    else if rest.isEmpty then none
    else
      some ⟨.between first.stop block.stop,
        ['\n'] ++ d.lines.indentAt first.start ++ placeholder d noun⟩

/-! ### Trimming -/

/-- How many statements of a body fit, up to the first that does not. -/
def fitting (d : Document) (count : Counter) (start max : Nat) (statements : List Node) : Nat :=
  (statements.takeWhile fun s => count (d.textBetween start s.stop) ≤ max).length

/-- The removal of the statements of a body that do not fit; the first one always stays. -/
def excess? (d : Document) (count : Counter) (body : Node) (max : Nat) : Option Removal :=
  let all := statements body
  if all.length < 2 || count (d.textOf body) ≤ max then none
  else
    let dropped := all.drop (Nat.max 1 (fitting d count body.start max all))
    match dropped.head?, dropped.getLast? with
    | some first, some last =>
      some {
        span := .between first.start last.stop
        statement := first
        count := dropped.length
        noun := "statement" }
    | _, _ => none

/-! ### The reduction -/

/-- Everything that is known before the bodies are looked at. -/
structure Context where
  job : Job
  exemptions : Exemptions
  declarations : List Declaration
  docstrings : List Node

/-- Whether a function is called a method. -/
def isMethod (d : Document) (standing : Option Standing) (function : Node) : Bool :=
  match standing with
  | some s => s.isMethod
  | none => d.hasRole function .method

/-- Takes a body out. -/
def elide (c : Context) (draft : Draft) (body : Node) (method : Bool) : Draft :=
  let d := c.job.document
  let noun := if method then "method body" else "function body"
  let key := if method then "removed.method_body" else "removed.function_body"
  let edit? :=
    if c.job.profile.hasBraces then some (elideBraces d body noun.toList)
    else elideIndented? d c.docstrings body noun.toList
  match edit? with
  | none => draft
  | some edit => draft.replace edit.span edit.text key 1

/-- Takes the body of a function out, or trims it. -/
def treat (c : Context) (draft : Draft) (body : Node) : Draft :=
  let d := c.job.document
  let config := c.job.config.functionBodies
  match body.parent? with
  | none => draft
  | some function =>
    if draft.queue.collides body.span || function.isOpaque ||
        c.exemptions.exempts c.job.profile d function then draft
    else
      let standing := Declaration.standingOf? c.declarations function
      if isStripped config (d.lineCount body) standing then
        elide c draft body (isMethod d standing function)
      else
        match config.maxTokens.bind (excess? d c.job.count body) with
        | none => draft
        | some removal => draft.remove d removal

/-- The draft without the function bodies that go. -/
def draft (exemptions : Exemptions) (job : Job) (bodies : List Node) : Draft :=
  let d := job.document
  let c : Context := {
    job
    exemptions
    declarations := job.profile.declarations d
    docstrings := job.profile.docstrings d }
  bodies.foldl (treat c) (.of d)

/-- Takes function bodies out. -/
def reduce (exemptions : Exemptions) (job : Job) : Except Error Outcome := do
  let bodies ← job.queryNodes "functions" "body"
  return (draft exemptions job bodies).finish

end Abridge.Body

namespace Abridge.Reduction

def functionBodies : Reduction where
  name := "function_bodies"
  isEnabled := fun config => !config.functionBodies.isNoop
  prepare := fun config => do
    let names ← compilePatterns config.functionBodies.exceptPatterns
    let annotations ← compilePatterns config.functionBodies.keepAnnotated
    return Body.reduce { names, annotations }

end Abridge.Reduction
