import Abridge.CharSet.Basic

/-!
The UTF-8 form of a set of characters: the sequences of byte ranges that cover the encodings of its
members, ascending (`byteSequences`), and what can follow on a first range in them (`byFront`).
-/
namespace Abridge.CharSet

/-- A sequence of byte ranges, each by its first and last byte. -/
abbrev ByteSequence := List (Nat × Nat)

/-- Cuts the code points from `first` to `last` where a continuation byte would run over: `levels`
continuation bytes are left to look at, and the lowest of them covers `block` code points. -/
def pieces : (levels block first last : Nat) → List (Nat × Nat)
  | 0, _, first, last => [(first, last)]
  | levels + 1, block, first, last =>
    if first / block == last / block then [(first, last)]
    else
      let start := (first + block - 1) / block * block
      let stop := (last + 1) / block * block
      (if first < start then [(first, start - 1)] else []) ++
        (if start < stop then pieces levels (block * 64) start (stop - 1) else []) ++
        (if stop ≤ last then [(stop, last)] else [])

/-- The continuation bytes of a code point, of which there are `count`. -/
def continuation : (count code : Nat) → List Nat
  | 0, _ => []
  | count + 1, code => continuation count (code / 64) ++ [0x80 + code % 64]

/-- The bytes of a code point with `count` continuation bytes, whose first byte starts at `lead`. -/
def bytes (lead count code : Nat) : List Nat :=
  (lead + code / Nat.pow 64 count) :: continuation count code

/-- The parts of the code points that have one length in UTF-8: first and last code point, number of
continuation bytes, and where the first byte starts. Surrogates are left out. -/
def lengthClasses : List (Nat × Nat × Nat × Nat) :=
  [(0, 0x7F, 0, 0), (0x80, 0x7FF, 1, 0xC0), (0x800, 0xD7FF, 2, 0xE0), (0xE000, 0xFFFF, 2, 0xE0),
   (0x10000, 0x10FFFF, 3, 0xF0)]

/-- The byte sequences of the code points from `first` to `last`. -/
def rangeSequences (first last : Nat) : List ByteSequence :=
  lengthClasses.flatMap fun (low, high, count, lead) =>
    let first := max first low
    let last := min last high
    if first ≤ last then
      (pieces count 64 first last).map fun (a, b) => (bytes lead count a).zip (bytes lead count b)
    else []

/-- The byte sequences of a set. -/
def byteSequences (s : CharSet) : List ByteSequence :=
  s.ranges.flatMap fun (first, last) => rangeSequences first last

/-- The sequences in groups by their first range, each group without it. -/
def byFront : List ByteSequence → List ((Nat × Nat) × List ByteSequence)
  | [] => []
  | [] :: rest => byFront rest
  | (front :: tail) :: rest =>
    match byFront rest with
    | (next, tails) :: groups =>
      if front == next then (front, tail :: tails) :: groups
      else (front, [tail]) :: (next, tails) :: groups
    | [] => [(front, [tail])]

end Abridge.CharSet
