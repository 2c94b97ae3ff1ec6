import Abridge.Edit.Span
import Abridge.Text.Basic

/-!
Edits of one source text, collected before any is carried out.

An edit is taken into the queue only if it fits the source and collides with none taken before:
stretches may not overlap, and an insertion may not fall strictly inside a replaced stretch.
Applying the queue walks the source once, edit by edit in the order of their spans; edits at the
same span keep the order in which they came.
-/
namespace Abridge

/-- A span of the source and the text to put in its place. -/
structure Edit where
  span : Span
  text : Text
  deriving DecidableEq, Repr

/-- Whether two spans may not both be edited. -/
def Span.collides (s other : Span) : Bool :=
  if s.isEmpty then other.start < s.start && s.start < other.stop
  else if other.isEmpty then s.start < other.start && other.start < s.stop
  else s.overlaps other

/-- A source text and the edits taken so far, in the order in which they came. -/
structure EditQueue where
  source : Text
  edits : List Edit := []

namespace EditQueue

/-- Whether some edit of the queue collides with a span. -/
def collides (q : EditQueue) (span : Span) : Bool :=
  q.edits.any fun e => span.collides e.span

/-- Whether one replaced stretch of the queue contains a span. -/
def covers (q : EditQueue) (span : Span) : Bool :=
  q.edits.any fun e => !e.span.isEmpty && e.span.contains span

/-- Whether a span lies in the source and between its characters. -/
def fits (q : EditQueue) (span : Span) : Bool :=
  q.source.isBoundary span.start && q.source.isBoundary span.stop

/-- The queue with one edit more, or nothing if the edit is refused. -/
def replace? (q : EditQueue) (span : Span) (text : Text) : Option EditQueue :=
  if q.fits span && !q.collides span then some { q with edits := q.edits ++ [⟨span, text⟩] }
  else none

/-- The queue with an insertion more, or nothing if it is refused. -/
def insert? (q : EditQueue) (offset : Nat) (text : Text) : Option EditQueue :=
  q.replace? (Span.point offset) text

/-- Order of edits by start, then by end. -/
def precedes (a b : Edit) : Bool :=
  a.span.start < b.span.start || (a.span.start == b.span.start && a.span.stop ≤ b.span.stop)

/-- The source from `cursor` on with the edits carried out, which come in order. -/
def splice (source : Text) (cursor : Nat) : List Edit → Text
  | [] => source.after cursor
  | e :: rest =>
    source.slice cursor e.span.start ++ e.text ++ splice source (max cursor e.span.stop) rest

/-- The edits in the order in which they are carried out. -/
def inOrder (q : EditQueue) : List Edit :=
  q.edits.mergeSort precedes

/-- The source with all edits carried out. -/
def apply (q : EditQueue) : Text :=
  splice q.source 0 q.inOrder

/-- The edited text, or nothing if there was no edit. -/
def edited? (q : EditQueue) : Option Text :=
  if q.edits.isEmpty then none else some q.apply

end EditQueue

end Abridge
