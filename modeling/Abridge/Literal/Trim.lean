import Abridge.Bisection
import Abridge.Literal.Cut
import Abridge.Reduction.Basic

/-!
Trimming literals to a number of tokens.

A string keeps the longest front part of its content that fits and can be cut off, and a note behind
it says how much is missing. A collection keeps its first elements and says how many more there
were; the first element that is dropped is trimmed in turn if it is a collection itself.
-/
namespace Abridge

/-- The literal with other content between its delimiters. -/
def StringShape.rebuild (shape : StringShape) (content : Text) : Text :=
  shape.opener ++ content ++ shape.closer

namespace Literal

/-! ### Strings -/

/-- The front part of a string's content that is kept: the longest that fits, of those that end at a
cut point before the last one. -/
def keptContent? (count : Counter) (shape : StringShape) (content : Text) (max : Nat) :
    Option Text :=
  let points := (cutPoints shape.interpolation content).dropLast
  if points.isEmpty then none
  else
    let front (k : Nat) : Text := content.before (points.getD k 0)
    some (front (bisect (fun k => count (shape.rebuild (front k)) ≤ max) 0 (points.length - 1)))

/-- What may stand between a string and a note about it at the end of the line. -/
def isTail (c : Char) : Bool :=
  c == ';' || c == ',' || c == ')' || c == ']' || c == '\x7d' || c == ' ' || c == '\t' || c == '\r'

/-- Where a note about a string that ends at `stop` goes, and how it is written: at the end of the
line, or in front of the comment there, if only closing marks come first; right behind the string
otherwise, if a comment can close itself. -/
def note? (d : Document) (stop : Nat) (note : Text) : Option (Nat × Text) :=
  let rest := d.lines.lineRest stop
  let tail := rest.dropWhile isTail
  if tail.isEmpty then some (stop + Text.size rest.trimEnd, [' '] ++ d.comments.lineComment note)
  else if d.comments.line.any fun opener => Text.startsWith tail opener.toList then
    some (stop + Text.size (rest.takeWhile isTail), d.comments.lineComment note ++ [' '])
  else (d.comments.blockComment? note).map fun comment => (stop, [' '] ++ comment)

/-- A trimmed string, and the note about it with its place. -/
structure TrimmedString where
  text : Text
  noteAt : Nat
  note : Text

/-- A string of `before` tokens trimmed to `max`, if that saves anything and a note fits. -/
def trimString? (profile : Profile) (d : Document) (count : Counter) (n : Node) (before max : Nat) :
    Option TrimmedString := do
  let shape ← profile.stringShape? d n
  let content ← keptContent? count shape (d.lines.textOf shape.content) max
  let text := shape.rebuild content
  let saved := before - count text
  guard (saved ≠ 0)
  let (noteAt, note) ← note? d n.stop (Placeholder.literalString saved)
  return { text, noteAt, note }

/-! ### Collections -/

/-- How a collection is written when its end is left out. -/
structure Layout where
  document : Document
  node : Node
  collection : Collection
  /-- Whether the marker gets a line of its own. -/
  ownLine : Bool
  /-- What that line begins with. -/
  elementIndent : Text
  /-- What the line of the closing bracket begins with. -/
  closerIndent : Text

namespace Layout

/-- The layout of a literal: in one line if it stands in one and comments can close themselves. -/
def of (d : Document) (n : Node) (c : Collection) : Layout :=
  let indent := d.lines.indentAt n.start
  let closeFront := d.lines.lineFront c.close.start
  { document := d
    node := n
    collection := c
    ownLine := d.firstLine n != d.lastLine n || !d.comments.hasBlock
    elementIndent :=
      match c.elements.head? with
      | some first =>
        if d.startsLine first then d.lines.indentAt first.start else d.deeper indent
      | none => d.deeper indent
    closerIndent := if closeFront.isBlankText then closeFront else indent }

/-- Number of elements. -/
def length (l : Layout) : Nat :=
  l.collection.elements.length

/-- Where the first `k` elements end. -/
def keptEnd (l : Layout) (k : Nat) : Nat :=
  match k with
  | 0 => l.collection.openEnd
  | k + 1 => (l.collection.elements[k]?.map Node.stop).getD l.collection.openEnd

/-- The literal up to the end of its first `k` elements. -/
def head (l : Layout) (k : Nat) : Text :=
  l.document.textBetween l.node.start (l.keptEnd k)

/-- The literal from its closing bracket on. -/
def closer (l : Layout) : Text :=
  l.document.textBetween l.collection.close.start l.node.stop

/-- What is kept, the marker for the elements that are not, and the end of the literal. -/
def close (l : Layout) (kept : Text) (anyKept : Bool) (missing : Nat) : Text :=
  let style := l.document.comments
  let marker := Placeholder.more missing
  let onOwnLine :=
    kept ++ (if anyKept then [','] else []) ++ ['\n'] ++ l.elementIndent ++
      style.lineComment marker ++ ['\n'] ++ l.closerIndent ++ l.closer
  if l.ownLine then onOwnLine
  else
    match style.blockComment? marker with
    | some comment => kept ++ (if anyKept then [',', ' '] else []) ++ comment ++ l.closer
    | none => onOwnLine

/-- The literal with its first `k` elements. -/
def cut (l : Layout) (k : Nat) : Text :=
  l.close (l.head k) (k != 0) (l.length - k)

/-- How many elements are kept: as many as fit, but never all. -/
def kept (l : Layout) (count : Counter) (budget : Nat) : Nat :=
  bisect (fun k => count (l.cut k) ≤ budget) 0 (l.length - 1)

/-- The literal with its first `k` elements and the next one, in which `inner` takes the place of
`nested`. -/
def cutInside (l : Layout) (k : Nat) (boundary nested : Node) (inner : Text) : Text :=
  let d := l.document
  let kept := l.head k ++ d.textBetween (l.keptEnd k) nested.start ++ inner ++
    d.textBetween nested.stop boundary.stop
  let missing := l.length - k - 1
  if missing = 0 then kept ++ d.textBetween boundary.stop l.node.stop
  else l.close kept true missing

end Layout

/-- Whether a node is a literal that lists elements. -/
def isCollection (profile : Profile) (d : Document) (n : Node) : Bool :=
  d.hasRole n .literal && (profile.collection? n).isSome

/-- The collection that an element is, or that its value is, seen through nodes that only wrap
it. -/
def nested? (profile : Profile) (d : Document) (element : Node) : Option Node :=
  (element.wrapping.find? (isCollection profile d)).or
    (element.namedChildren.getLast?.bind fun value =>
      value.wrapping.find? (isCollection profile d))

/-- A trimmed collection and the number of markers in it. -/
structure Trimmed where
  text : Text
  markers : Nat
  deriving DecidableEq, Repr

/-- A collection trimmed to `budget` tokens, if it has elements. Counts do not add up exactly where
texts are joined, so the nested collection gets a token less than is left. -/
def trimCollection? (profile : Profile) (d : Document) (count : Counter) (n : Node) (budget : Nat) :
    Option Trimmed :=
  match profile.collection? n with
  | none => none
  | some c =>
    if c.elements.isEmpty then none
    else
      let l := Layout.of d n c
      let k := l.kept count budget
      let plain : Trimmed := ⟨l.cut k, 1⟩
      match c.elements[k]? with
      | none => some plain
      | some boundary =>
        match nested? profile d boundary with
        | none => some plain
        | some nested =>
          let spent := count (l.cutInside k boundary nested []) + 1
          if budget ≤ spent then some plain
          else if nested.size < n.size then
            match trimCollection? profile d count nested (budget - spent) with
            | none => none
            | some inner =>
              let text := l.cutInside k boundary nested inner.text
              if count text ≤ budget then
                some ⟨text, inner.markers + if k + 1 < l.length then 1 else 0⟩
              else some plain
          else some plain
termination_by n.size

/-- Whether a collection has been trimmed before. -/
def isTrimmed (d : Document) (n : Node) : Bool :=
  n.namedChildren.any fun c =>
    d.hasRole c .comment && Placeholder.isMoreMarker d.comments (d.textOf c)

/-! ### The reduction -/

/-- The counter of what was left out of literals. -/
def removedKey : String :=
  "removed.literal"

/-- Puts a trimmed string with its note into a draft, unless the edit of the string is refused. -/
def replaceString (draft : Draft) (span : Span) (t : TrimmedString) : Draft :=
  match draft.queue.replace? span t.text with
  | none => draft
  | some queue =>
    { draft with
      queue := (queue.insert? t.noteAt t.note).getD queue
      tally := draft.tally.incr removedKey 1 }

/-- Trims a literal that has more than `max` tokens. -/
def treat (job : Job) (max : Nat) (draft : Draft) (capture : Document.Capture) : Draft :=
  let d := job.document
  let n := capture.node
  if draft.queue.collides n.span || n.isOpaque || job.profile.isExempt d n then draft
  else
    let before := job.count (d.textOf n)
    if before ≤ max then draft
    else if capture.label == "string" then
      match trimString? job.profile d job.count n before max with
      | none => draft
      | some t => replaceString draft n.span t
    else if isTrimmed d n then draft
    else
      match trimCollection? job.profile d job.count n max with
      | none => draft
      | some t =>
        if job.count t.text < before then draft.replace n.span t.text removedKey t.markers
        else draft

/-- The draft with the literals trimmed that have more than `max` tokens. -/
def draft (job : Job) (max : Nat) (captures : List Document.Capture) : Draft :=
  captures.foldl (treat job max) (.of job.document)

/-- Trims the literals of a document. -/
def reduce (job : Job) : Except Error Outcome :=
  match job.config.literals.maxTokens with
  | none => .ok {}
  | some max => do
    let captures ← job.query "literals"
    return (draft job max captures).finish

end Literal

end Abridge

namespace Abridge.Reduction

def literals : Reduction where
  name := "literals"
  isEnabled := fun config => config.literals.maxTokens.isSome
  prepare := fun _ => .ok Literal.reduce

end Abridge.Reduction
