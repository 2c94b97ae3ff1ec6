/-!
Sets of characters. A set is kept as the ascending code points at which membership changes, so a
character is in the set if an odd number of them lie at or below it. All set operations are one walk
along the bounds of two sets (`combine`).
-/
namespace Abridge

/-- A set of characters: the ascending code points where it begins, ends, begins again and so on. -/
structure CharSet where
  bounds : List Nat
  deriving DecidableEq, Repr

namespace CharSet

/-- Whether `n` is a member, where `inside` tells of the code points below the first bound. -/
def member (inside : Bool) : List Nat → Nat → Bool
  | [], _ => inside
  | bound :: bounds, n => if n < bound then inside else member (!inside) bounds n

/-- Whether a set holds a code point. -/
def has (s : CharSet) (n : Nat) : Bool :=
  member false s.bounds n

/-- Whether a set holds a character. -/
def contains (s : CharSet) (c : Char) : Bool :=
  s.has c.toNat

/-- The set without members. -/
def empty : CharSet :=
  ⟨[]⟩

/-- The set of all code points. -/
def all : CharSet :=
  ⟨[0, 0x110000]⟩

/-- The code points that are characters: all but the surrogates. -/
def characters : CharSet :=
  ⟨[0, 0xD800, 0xE000, 0x110000]⟩

/-- The code points from `first` to `last`. -/
def range (first last : Nat) : CharSet :=
  if first ≤ last then ⟨[first, last + 1]⟩ else empty

def single (c : Char) : CharSet :=
  range c.toNat c.toNat

/-- The first 128 code points. -/
def ascii : CharSet :=
  range 0 0x7F

/-! ### Sets from other forms -/

/-- The sums of a list of lengths, each with all those in front of it. -/
def sums (start : Nat) : List Nat → List Nat
  | [] => []
  | n :: ns => (start + n) :: sums (start + n) ns

/-- The set given by run lengths: how many code points lie outside it, then inside, then outside
again, from zero up. -/
def ofRuns (runs : List Nat) : CharSet :=
  ⟨sums 0 runs⟩

/-- Puts a code point in front of bounds that all lie at or above it. -/
def consBounds (n : Nat) : List Nat → List Nat
  | [] => [n, n + 1]
  | bound :: bounds =>
    if bound == n then bound :: bounds
    else if bound == n + 1 then n :: bounds
    else n :: (n + 1) :: bound :: bounds

/-- The set of the listed code points. -/
def ofCodes (codes : List Nat) : CharSet :=
  ⟨codes.mergeSort.foldr consBounds []⟩

/-- The ranges of a set: first and last member of each stretch. -/
def rangesOf : List Nat → List (Nat × Nat)
  | [] => []
  | [first] => [(first, 0x10FFFF)]
  | first :: stop :: bounds => (first, stop - 1) :: rangesOf bounds

def ranges (s : CharSet) : List (Nat × Nat) :=
  rangesOf s.bounds

/-! ### Set algebra -/

/-- Puts a bound in front of the others if membership changes there. -/
def mark (before after : Bool) (n : Nat) (bounds : List Nat) : List Nat :=
  if before == after then bounds else n :: bounds

/-- The bounds of the set that holds a code point if `op` of its membership in two sets does; `a`
and `b` tell of the code points below the first bounds. -/
def merge (op : Bool → Bool → Bool) (a b : Bool) : List Nat → List Nat → List Nat
  | [], [] => []
  | x :: xs, [] => mark (op a b) (op (!a) b) x (merge op (!a) b xs [])
  | [], y :: ys => mark (op a b) (op a (!b)) y (merge op a (!b) [] ys)
  | x :: xs, y :: ys =>
    if x < y then mark (op a b) (op (!a) b) x (merge op (!a) b xs (y :: ys))
    else if y < x then mark (op a b) (op a (!b)) y (merge op a (!b) (x :: xs) ys)
    else mark (op a b) (op (!a) (!b)) x (merge op (!a) (!b) xs ys)
termination_by xs ys => xs.length + ys.length

/-- The set of the code points for which `op` of their membership in two sets holds; `op` must not
hold of a code point that is in neither. -/
def combine (op : Bool → Bool → Bool) (s t : CharSet) : CharSet :=
  ⟨merge op false false s.bounds t.bounds⟩

def union : CharSet → CharSet → CharSet :=
  combine (· || ·)

def inter : CharSet → CharSet → CharSet :=
  combine (· && ·)

/-- The members of the first set that are not in the second. -/
def diff : CharSet → CharSet → CharSet :=
  combine fun a b => a && !b

/-- The members of exactly one of two sets. -/
def symmDiff : CharSet → CharSet → CharSet :=
  combine (· != ·)

def complement (s : CharSet) : CharSet :=
  all.diff s

/-- The members of any of the sets. -/
def unions (sets : List CharSet) : CharSet :=
  sets.foldl union empty

/-- Whether every member is one of the first 128 code points. -/
def isAscii (s : CharSet) : Bool :=
  (s.diff ascii).bounds.isEmpty

end CharSet

end Abridge
