import Abridge.Bisection
import Abridge.Edit.Span
import Abridge.Text.Blank

/-!
Lines of a text. Line starts are found once and looked up by bisection; a line reaches from its
start to the next line feed, which does not belong to it.
-/
namespace Abridge

namespace Text

/-- The offsets right behind the line feeds of a text that itself begins at `offset`. -/
def lineStartsFrom (offset : Nat) : Text → List Nat
  | [] => []
  | c :: t =>
    let next := offset + c.utf8Size
    if c = '\n' then next :: lineStartsFrom next t else lineStartsFrom next t

/-- Where the lines of a text begin: at its own start and behind each line feed. -/
def lineStarts (t : Text) : Array Nat :=
  (0 :: lineStartsFrom 0 t).toArray

end Text

/-- A text with the starts of its lines. -/
structure Lines where
  text : Text
  starts : Array Nat := text.lineStarts
  starts_eq : starts = text.lineStarts := by rfl

namespace Lines

/-- Looks an offset up among the line starts: the line that begins there, or else the line that
would have to begin behind it. -/
def search (l : Lines) (offset : Nat) : Except Nat Nat :=
  let line := bisect (fun k => l.starts.getD k 0 ≤ offset) 0 (l.starts.size - 1)
  let start := l.starts.getD line 0
  if start = offset then .ok line
  else if start < offset then .error (line + 1)
  else .error line

/-- The 0-based line that an offset falls on. -/
def lineOf (l : Lines) (offset : Nat) : Nat :=
  match l.search offset with
  | .ok line => line
  | .error next => next - 1

/-- Where the line of an offset begins. -/
def lineStart (l : Lines) (offset : Nat) : Nat :=
  l.starts.getD (l.lineOf offset) 0

/-- The line feed that ends the line of an offset, or the end of the text. -/
def lineEnd (l : Lines) (offset : Nat) : Nat :=
  let here := min offset l.text.size
  here + Text.size ((l.text.after here).takeWhile (· ≠ '\n'))

/-- The spaces and tabs that the line of an offset begins with. -/
def indentAt (l : Lines) (offset : Nat) : Text :=
  (l.text.slice (l.lineStart offset) (l.lineEnd offset)).takeWhile fun c => c == ' ' || c == '\t'

/-- The part of its line in front of an offset. -/
def lineFront (l : Lines) (offset : Nat) : Text :=
  l.text.slice (l.lineStart offset) (min offset l.text.size)

/-- The part of its line behind an offset. -/
def lineRest (l : Lines) (offset : Nat) : Text :=
  let here := min offset l.text.size
  l.text.slice here (l.lineEnd here)

/-- Whether a line, by its 0-based index, holds only blanks; a line past the last one does. -/
def isBlankLine (l : Lines) (line : Nat) : Bool :=
  match l.starts[line]? with
  | some start => (l.text.slice start (l.lineEnd start)).isBlankText
  | none => true

/-- The text of a span, empty if the span does not fit the text. -/
def textOf (l : Lines) (span : Span) : Text :=
  l.text.slice span.start span.stop

/-- The whole lines of a span, line feed included, if nothing but blanks shares them; the span
itself otherwise. -/
def wholeLines (l : Lines) (span : Span) : Span :=
  let start := l.lineStart span.start
  let stop := l.lineEnd span.stop
  if (l.text.slice start span.start).isBlankText && (l.text.slice span.stop stop).isBlankText then
    Span.between start (if stop < l.text.size then stop + 1 else stop)
  else
    span

/-- Whether only blanks stand between two offsets, in that order. -/
def onlyBlanksBetween (l : Lines) (start stop : Nat) : Bool :=
  start ≤ stop && (l.text.slice start stop).isBlankText

end Lines

end Abridge
