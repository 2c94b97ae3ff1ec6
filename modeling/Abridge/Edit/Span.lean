/-!
Spans: half-open stretches of byte offsets.
-/
namespace Abridge

/-- The bytes from `start` up to, and without, `stop`. -/
structure Span where
  start : Nat
  stop : Nat
  start_le_stop : start ≤ stop := by omega
  deriving DecidableEq, Repr

namespace Span

/-- The span between two offsets, empty at `start` if they come in the wrong order. -/
def between (start stop : Nat) : Span where
  start
  stop := max stop start

/-- The empty span at an offset. -/
def point (at_ : Nat) : Span where
  start := at_
  stop := at_

def length (s : Span) : Nat :=
  s.stop - s.start

def isEmpty (s : Span) : Bool :=
  s.start == s.stop

/-- Whether `inner` lies within `s`, borders included. -/
def contains (s inner : Span) : Bool :=
  s.start ≤ inner.start && inner.stop ≤ s.stop

/-- Whether each of the two starts before the other stops. -/
def overlaps (s other : Span) : Bool :=
  s.start < other.stop && other.start < s.stop

end Span

end Abridge
