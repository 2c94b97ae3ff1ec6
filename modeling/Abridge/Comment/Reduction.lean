import Abridge.Comment.Summary
import Abridge.Config.Settings
import Abridge.Reduction.Basic

/-!
Taking comments out, or cutting documentation short.

`Rules.decide` says what happens to a comment: the patterns to strip win over those to keep, and
these over the policy. Comments on lines one below the other form a group, and within a group
neighbours that meet the same fate are treated as one. Docstrings follow the rules of documentation.
Placeholders and comments that speak to a tool are left alone.
-/
namespace Abridge.Comment

/-! ### Decisions -/

/-- What happens to a comment. -/
inductive Fate where
  | keep
  | truncate
  | remove
  deriving DecidableEq, Repr

/-- How much a fate takes away. -/
def Fate.severity : Fate → Nat
  | keep => 0
  | truncate => 1
  | remove => 2

/-- The options of the comment section with their patterns read. -/
structure Rules where
  options : CommentOptions
  keep : List Pattern
  strip : List Pattern
  count : Counter

namespace Rules

/-- What the policy does to documentation and to other comments. -/
def byPolicy (rules : Rules) (isDoc : Bool) : Fate :=
  match rules.options.policy with
  | .stripAll => .remove
  | .keepAll => if isDoc && rules.options.maxTokens.isSome then .truncate else .keep
  | .keepDoc =>
    if !isDoc then .remove else if rules.options.maxTokens.isSome then .truncate else .keep
  | .keepFirstSentence => if isDoc then .truncate else .remove

/-- What happens to a comment. -/
def decide (rules : Rules) (comment : Text) (isDoc : Bool) : Fate :=
  if Pattern.anyMatch rules.strip comment then .remove
  else if Pattern.anyMatch rules.keep comment then .keep
  else rules.byPolicy isDoc

/-- What the policy leaves of a text before it is cut. -/
def summary (rules : Rules) (body : Text) : Text :=
  match rules.options.policy with
  | .keepFirstSentence => Summary.firstSentence body
  | _ => body.trim

/-- A text with a mark at its end where it was cut to fit, if any of it fits. -/
def capped? (rules : Rules) (t : Text) : Option Text :=
  match rules.options.maxTokens with
  | none => some t
  | some max =>
    let cut := Summary.truncate rules.count max t
    if cut.isEmpty then none
    else if cut == t then some t
    else some (cut ++ [' ', Placeholder.marker])

/-- The short form of a text on one line, or nothing if that changes nothing but blanks. The short
form is empty if nothing fits. -/
def shorten (rules : Rules) (body : Text) : Option Text :=
  match rules.capped? (rules.summary body) with
  | none => some []
  | some short => if short.singleLine == body.singleLine then none else some short.singleLine

end Rules

/-! ### Groups -/

/-- A comment in its place. -/
structure Item where
  node : Node
  span : Span
  /-- Whether it has its lines for itself. -/
  isAlone : Bool

namespace Item

def of (d : Document) (n : Node) : Item where
  node := n
  span := d.trimmedSpan n
  isAlone := d.startsLine n && d.endsLine n

/-- Whether a comment goes on with the one on the line above. -/
def continues (d : Document) (a b : Item) : Bool :=
  a.isAlone && b.isAlone && d.firstLine b.node == d.lines.lineOf a.span.stop + 1 &&
    a.node.sameParent b.node

end Item

/-- An item and what happens to it. -/
structure Verdict where
  item : Item
  fate : Fate

/-- What happens to the comments of a group. They are documentation by themselves, or because of the
declaration that the last of them stands above. -/
def judge (profile : Profile) (d : Document) (rules : Rules) (group : List Item) : List Verdict :=
  let documents := group.getLast?.any fun last => profile.documentsNext d last.node
  group.map fun item =>
    ⟨item, rules.decide (d.textOf item.node) (documents || profile.isDoc d item.node)⟩

/-- The comments that a reduction may touch. -/
def touchable (profile : Profile) (d : Document) (comments : List Node) : List Node :=
  comments.filter fun n =>
    !Placeholder.isPlaceholder d.comments (d.textOf n) && !profile.isDirective d n

/-- Neighbours in a group that meet the same fate. -/
def segments (profile : Profile) (d : Document) (rules : Rules) (comments : List Node) :
    List (List Verdict) :=
  ((comments.map (Item.of d)).splitBy (Item.continues d)).flatMap fun group =>
    (judge profile d rules group).splitBy fun a b => a.fate == b.fate

/-! ### Rendering -/

/-- The opener of documentation that a comment begins with; of several the longest. -/
def docMarker? (style : CommentStyle) (comment : Text) : Option String :=
  (style.docMarkers.filter fun m => comment.startsWith m.toList).maxOn? String.utf8ByteSize

/-- A short text as a comment that opens as the given one does. -/
def render (style : CommentStyle) (comment body : Text) : Text :=
  let comment := comment.trimStart
  let marker := docMarker? style comment
  let asLine := ((marker.or style.line).getD "").toList ++ [' '] ++ body
  match style.block with
  | some (opener, closer) =>
    if comment.startsWith opener.toList then
      let marker := marker.filter fun m => Text.startsWith m.toList opener.toList
      CommentStyle.enclose (marker.getD opener) closer (body.erase closer.toList)
    else asLine
  | none => asLine

/-- A text that can stand before a closing quote: no backslash at its end, and a space behind a
quote of the same sort. -/
def fitBefore (closer body : Text) : Text :=
  let body := body.dropEndWhile (· == '\\')
  if closer.head?.any fun q => body.getLast? == some q then body ++ [' '] else body

/-! ### The reduction -/

/-- The removal of a segment, from its first comment to its last. -/
def removalOf (first last : Item) (count : Nat) : Removal where
  span := .between first.span.start last.span.stop
  statement := first.node
  count
  noun := "comment"

/-- The counter of what was cut short. -/
def truncatedKey : String :=
  "truncated.comment"

/-- What the comments of a segment say, line by line. -/
def bodyOf (d : Document) (segment : List Verdict) : Text :=
  Text.join ['\n'] (segment.map fun v => d.comments.stripMarkers (d.textOf v.item.node))

/-- Does to a segment what its fate is. -/
def treatSegment (d : Document) (rules : Rules) (draft : Draft) (segment : List Verdict) : Draft :=
  match segment.head?, segment.getLast? with
  | some first, some last =>
    let removal := removalOf first.item last.item segment.length
    match first.fate with
    | .keep => draft
    | .remove => draft.remove d removal
    | .truncate =>
      match rules.shorten (bodyOf d segment) with
      | none => draft
      | some [] => draft.remove d removal
      | some short =>
        let text := render d.comments (d.textOf first.item.node) short
        draft.replace removal.span text truncatedKey 1
  | _, _ => draft

/-- What becomes of a docstring. -/
inductive DocstringFate where
  | keep
  /-- The string is replaced. -/
  | shorten (text : Text)
  /-- The statement goes. -/
  | remove (statement : Node)

/-- What becomes of a docstring under the rules. -/
def judgeDocstring (profile : Profile) (d : Document) (rules : Rules) (string : Node) :
    DocstringFate :=
  match string.parent? with
  | none => .keep
  | some statement =>
    if string.isOpaque then .keep
    else
      match rules.decide (d.textOf string) true with
      | .keep => .keep
      | .remove => .remove statement
      | .truncate =>
        match profile.stringShape? d string with
        | none => .keep
        | some shape =>
          match rules.shorten (d.lines.textOf shape.content) with
          | none => .keep
          | some [] => .remove statement
          | some short => .shorten (shape.opener ++ fitBefore shape.closer short ++ shape.closer)

/-- Writes the shorter text of a docstring that is cut. -/
def shortenDocstring (draft : Draft) (judged : Node × DocstringFate) : Draft :=
  match judged.2 with
  | .shorten text => draft.replace judged.1.span text truncatedKey 1
  | _ => draft

/-- The statement of a docstring that goes. -/
def removedDocstring? (judged : Node × DocstringFate) : Option Node :=
  match judged.2 with
  | .remove statement => some statement
  | _ => none

/-- Does to the docstrings what the rules say. -/
def treatDocstrings (profile : Profile) (d : Document) (rules : Rules) (draft : Draft) : Draft :=
  let judged := (profile.docstrings d).map fun s => (s, judgeDocstring profile d rules s)
  let removed := judged.filterMap removedDocstring?
  let stubs := Stubs.plan profile (removed.map fun s => (s.span, s))
  let shortened := judged.foldl shortenDocstring draft
  removed.foldl (fun draft s => draft.remove d ⟨s.span, s, 1, "comment"⟩) { shortened with stubs }

/-- The draft without the comments that go, and with the short forms of others. -/
def draft (rules : Rules) (job : Job) (comments : List Node) : Draft :=
  let d := job.document
  let segments := segments job.profile d rules (touchable job.profile d comments)
  treatDocstrings job.profile d rules (segments.foldl (treatSegment d rules) (.of d))

/-- Takes comments out or cuts them short, by the patterns to keep and to strip and by the
policy. -/
def reduce (keep strip : List Pattern) (job : Job) : Except Error Outcome := do
  let rules : Rules := { options := job.config.comments.options, keep, strip, count := job.count }
  let comments ← job.queryNodes "comments" "comment"
  return (draft rules job comments).finish

end Abridge.Comment

namespace Abridge.Reduction

def comments : Reduction where
  name := "comments"
  isEnabled := fun config => !config.comments.isNoop
  prepare := fun config => do
    let keep ← compilePatterns config.comments.options.keepAnnotations
    let strip ← compilePatterns config.comments.options.stripPatterns
    return Comment.reduce keep strip

end Abridge.Reduction
