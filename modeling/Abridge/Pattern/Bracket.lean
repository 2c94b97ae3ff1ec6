import Abridge.Pattern.Escape

/-!
Sets in brackets. Between the brackets stand characters, ranges, escapes for sets, named ASCII
classes and further sets in brackets, and `&&`, `--` and `~~` join what stands on their sides, from
left to right. `Bracket.read?` gives the set and how deep its notation is nested.
-/
namespace Abridge.Pattern

/-- A value with the depth of its notation: how many brackets, groups, repetitions and lists of more
than one part lie around each other in it. -/
structure Nested (α : Type) where
  value : α
  depth : Nat := 0
  deriving DecidableEq, Repr

/-- The same one level deeper. -/
def Nested.deeper {α : Type} (n : Nested α) : Nested α :=
  { n with depth := n.depth + 1 }

namespace Bracket

/-- What joins two sets. -/
inductive Join where
  | inter
  | diff
  | symmDiff
  deriving DecidableEq, Repr

def Join.apply : Join → CharSet → CharSet → CharSet
  | .inter => .inter
  | .diff => .diff
  | .symmDiff => .symmDiff

/-- An open bracket: whether the set is meant from outside, what stands in front of the last join,
and the parts behind it. -/
structure Level where
  negated : Bool := false
  left : Option (Nested CharSet × Join) := none
  set : CharSet := .empty
  parts : Nat := 0
  depth : Nat := 0

namespace Level

def add (level : Level) (part : Nested CharSet) : Level :=
  { level with
    set := level.set.union part.value
    parts := level.parts + 1
    depth := max level.depth part.depth }

/-- All that has been read, joined. -/
def settle (flags : Flags) (level : Level) : Nested CharSet :=
  let depth := if level.parts > 1 then level.depth + 1 else level.depth
  let right : Nested CharSet := ⟨level.set, depth⟩
  match level.left with
  | none => right
  | some (left, join) =>
    ⟨join.apply (flags.fold left.value) (flags.fold right.value), max left.depth right.depth + 1⟩

/-- Goes on behind a join. -/
def joined (flags : Flags) (join : Join) (level : Level) : Level :=
  { negated := level.negated, left := some (level.settle flags, join) }

/-- The set of a bracket that closes. -/
def close? (flags : Flags) (level : Level) : Option (Nested CharSet) := do
  let inner := level.settle flags
  let set := flags.fold inner.value
  let set ← if level.negated then flags.complement? set else some set
  return ⟨set, inner.depth + 1⟩

end Level

/-! ### Parts -/

/-- One character or escape. -/
def item? (flags : Flags) : Text → Option (Escape × Text)
  | [] => none
  | '\\' :: rest => Escape.read? flags rest
  | c :: rest => some (.literal c, rest)

/-- The set of a part that is no range; edges are none. -/
def members? (flags : Flags) : Escape → Option CharSet
  | .literal c => flags.member? c
  | .set s => some s
  | .edge _ => none

/-- The character after the next one, looking over blanks up to the second mark of a comment. -/
def peek (flags : Flags) (t : Text) : Option Char :=
  if !flags.spaced then t.head?
  else
    match t.dropWhile Text.isBlank with
    | '#' :: rest => (rest.dropWhile Text.isBlank).head?
    | t => t.head?

/-- Whether a minus with `rest` behind it stands between the ends of a range. -/
def isRangeMinus (flags : Flags) (rest : Text) : Bool :=
  peek flags rest != some ']' && peek flags rest != some '-'

/-- A part that begins with a character or an escape. -/
def part? (flags : Flags) (t : Text) : Option (CharSet × Text) := do
  let (first, rest) ← item? flags t
  match flags.skip rest with
  | [] => none
  | '-' :: rest =>
    if isRangeMinus flags rest then
      match first, ← item? flags (flags.skip rest) with
      | .literal a, (.literal b, rest) =>
        let _ ← flags.member? a
        let _ ← flags.member? b
        if a ≤ b then return (.range a.toNat b.toNat, rest) else none
      | _, _ => none
    else return (← members? flags first, '-' :: rest)
  | rest => return (← members? flags first, rest)

/-- A named class of ASCII characters, whose opening bracket has been read. What does not name one
is a set in brackets. -/
def asciiClass? (flags : Flags) (t : Text) : Option (Bool × CharSet × Text) := do
  match t with
  | ':' :: rest =>
    let (negated, rest) := match rest with
      | '^' :: rest => (true, rest)
      | rest => (false, rest)
    let set ← CharSet.asciiClass? (String.ofList (rest.takeWhile (· != ':')))
    match rest.dropWhile (· != ':') with
    | ':' :: ']' :: rest => return (negated, flags.fold set, rest)
    | _ => none
  | _ => none

/-- The minuses at the start of a set, each a member, and at most `steps` of them. -/
def minuses (flags : Flags) : Nat → Level → Text → Level × Text
  | 0, level, t => (level, t)
  | steps + 1, level, t =>
    match t with
    | '-' :: rest => minuses flags steps (level.add ⟨.single '-', 0⟩) (flags.skip rest)
    | t => (level, t)

/-- The start of a set whose opening bracket has been read, with at most `steps` minuses. A closing
bracket right at the start is a member. -/
def start (flags : Flags) (steps : Nat) (t : Text) : Level × Text :=
  let (negated, t) := match flags.skip t with
    | '^' :: rest => (true, flags.skip rest)
    | t => (false, t)
  match t with
  | ']' :: rest => (({ negated } : Level).add ⟨.single ']', 0⟩, flags.skip rest)
  | t => minuses flags steps { negated } t

/-! ### All of it -/

/-- Reads on in the bracket `level`, which lies in the brackets `outer`, up to the end of the last
of them. Every step takes a character. -/
def readOn (flags : Flags) :
    (steps : Nat) → (level : Level) → (outer : List Level) → Text → Option (Nested CharSet × Text)
  | 0, _, _, _ => none
  | steps + 1, level, outer, t => do
    match flags.skip t with
    | [] => none
    | ']' :: rest =>
      let set ← level.close? flags
      match outer with
      | [] => return (set, rest)
      | next :: outer => readOn flags steps (next.add set) outer rest
    | '[' :: rest =>
      match asciiClass? flags rest with
      | some (negated, set, rest) =>
        let set ← if negated then flags.complement? set else some set
        readOn flags steps (level.add ⟨set, 0⟩) outer rest
      | none =>
        let (inner, rest) := start flags steps rest
        readOn flags steps inner (level :: outer) rest
    | '&' :: '&' :: rest => readOn flags steps (level.joined flags .inter) outer rest
    | '-' :: '-' :: rest => readOn flags steps (level.joined flags .diff) outer rest
    | '~' :: '~' :: rest => readOn flags steps (level.joined flags .symmDiff) outer rest
    | t =>
      let (set, rest) ← part? flags t
      readOn flags steps (level.add ⟨set, 0⟩) outer rest

/-- Reads a set whose opening bracket has been read. -/
def read? (flags : Flags) (t : Text) : Option (Nested CharSet × Text) :=
  let steps := t.length + 1
  let (level, rest) := start flags steps t
  readOn flags steps level [] rest

end Bracket

end Abridge.Pattern
