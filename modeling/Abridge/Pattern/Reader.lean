import Abridge.Pattern.Bracket
import Abridge.Pattern.Size
import Abridge.Text.CharClass

/-!
Reading patterns. The usual notation of search patterns is understood: literals, `.`, sets in
brackets, `^` and `$`, groups, `|`, the repetitions `*`, `+`, `?` and counts in braces, each lazy or
not, escapes, and flags for a group or for the rest of one. `Pattern.ofText?` refuses everything
else, and patterns that are nested too deep or too large.
-/
namespace Abridge

namespace Pattern

namespace Reader

/-! ### Parts and lists of parts -/

/-- A part of a sequence, or flags in its place. -/
inductive Part where
  | flags
  | pattern (p : Nested Pattern)

/-- A list of patterns, put together; it is a level of its own if there is more than one. -/
def joinAll (join : List Pattern → Pattern) (ps : List (Nested Pattern)) : Nested Pattern :=
  let depth := ps.foldl (fun depth p => max depth p.depth) 0
  ⟨join (ps.map (·.value)), if ps.length > 1 then depth + 1 else depth⟩

/-- An open group, or the pattern around all groups. -/
structure Level where
  /-- The number of the group, if it is counted. -/
  number : Option Nat
  /-- The flags around the group. -/
  outerFlags : Flags
  /-- The choices in front of the last `|`, last first. -/
  choices : List (Nested Pattern) := []
  /-- The parts behind it, last first. -/
  parts : List Part := []

namespace Level

/-- The parts behind the last `|`. -/
def sequence (level : Level) : Nested Pattern :=
  joinAll ofParts (level.parts.reverse.map fun
    | .flags => ⟨.empty, 0⟩
    | .pattern p => p)

/-- All of the choices. -/
def settle (level : Level) : Nested Pattern :=
  joinAll ofChoices (level.choices.reverse ++ [level.sequence])

def add (level : Level) (part : Part) : Level :=
  { level with parts := part :: level.parts }

/-- Repeats the last part, which has to be there and to be a pattern. -/
def repeatLast? (level : Level) (least : Nat) (most : Option Nat) (lazy : Bool) : Option Level :=
  match level.parts with
  | .pattern p :: parts =>
    some { level with parts := .pattern ⟨p.value.repeated least most lazy, p.depth + 1⟩ :: parts }
  | _ => none

end Level

/-- What has been read. -/
structure State where
  flags : Flags
  /-- The names of groups. -/
  names : List Text
  /-- How many groups have been counted. -/
  groups : Nat
  level : Level
  outer : List Level

namespace State

def start : State :=
  { flags := {}, names := [], groups := 0, level := { number := none, outerFlags := {} },
    outer := [] }

def add (s : State) (p : Nested Pattern) : State :=
  { s with level := s.level.add (.pattern p) }

/-- Adds a character out of a set. -/
def set (s : State) (members : CharSet) : State :=
  s.add ⟨ofSet s.flags.unicode members, 0⟩

/-- Adds a literal character, with its other cases if case does not matter. -/
def literal (s : State) (c : Char) : State :=
  if s.flags.ignoreCase then s.set (s.flags.fold (.single c)) else s.add ⟨.atom (.text [c]), 0⟩

def edge (s : State) (e : Edge) : State :=
  s.add ⟨.atom (.edge e), 0⟩

/-- Opens a group that is not counted, whose flags are `flags`. -/
def openPlain (s : State) (flags : Flags) : State :=
  { s with flags, level := { number := none, outerFlags := s.flags }, outer := s.level :: s.outer }

/-- Opens a group that is counted. -/
def openCounted (s : State) : State :=
  let number := s.groups + 1
  { s with
    groups := number
    level := { number := some number, outerFlags := s.flags }
    outer := s.level :: s.outer }

/-- Closes the innermost group, if there is one. -/
def closeGroup? (s : State) : Option State :=
  match s.outer with
  | [] => none
  | next :: outer =>
    let inner := s.level.settle
    let p : Pattern := match s.level.number with
      | some number => .group number inner.value
      | none => inner.value
    some { s with
      flags := s.level.outerFlags, level := next.add (.pattern ⟨p, inner.depth + 1⟩), outer }

/-- Goes on to the next choice. -/
def nextChoice (s : State) : State :=
  let level := { s.level with choices := s.level.sequence :: s.level.choices, parts := [] }
  { s with level }

end State

/-! ### Repetition -/

/-- Repeats the last part. The text behind the sign of the repetition may begin with a mark that
turns around whether it is lazy. -/
def addRepetition? (s : State) (least : Nat) (most : Option Nat) (t : Text) :
    Option (State × Text) := do
  let (marked, rest) := match t with
    | '?' :: rest => (true, rest)
    | rest => (false, rest)
  return ({ s with level := ← s.level.repeatLast? least most (marked != s.flags.lazy) }, rest)

/-- Counts are kept in 32 bits. -/
def countLimit : Nat := 4294967296

/-- A count, with blanks around it. -/
def count? (t : Text) : Option Nat :=
  let digits := t.trim
  if digits.isEmpty || !digits.all Char.isDigit then none
  else if Text.number digits < countLimit then some (Text.number digits) else none

/-- The counts of a repetition, as they stand in braces. -/
def counts? (inner : Text) : Option (Nat × Option Nat) :=
  match Escape.cutAt? [','] inner with
  | none => (count? inner).map fun n => (n, some n)
  | some (least, []) => (count? least).map fun least => (least, none)
  | some (least, most) => do
    let (least, most) := (← count? least, ← count? most)
    if least ≤ most then return (least, some most) else none

/-! ### Groups -/

/-- Whether a character may begin the name of a group. -/
def isNameStart (c : Char) : Bool :=
  c == '_' || Text.isAlphabetic c

/-- Whether a character may stand in the name of a group. -/
def isNamePart (c : Char) : Bool :=
  c == '_' || c == '.' || c == '[' || c == ']' || Text.isAlphanumeric c

/-- The name of a group up to its closing angle, and the text behind that. -/
def groupName? (t : Text) : Option (Text × Text) :=
  match t.takeWhile (· != '>'), t.dropWhile (· != '>') with
  | c :: name, _ :: rest =>
    if isNameStart c && name.all isNamePart then some (c :: name, rest) else none
  | _, _ => none

/-- Opens a group with a name, which no other group may have. -/
def namedGroup? (s : State) (t : Text) : Option (State × Text) := do
  let (name, rest) ← groupName? t
  if s.names.contains name then none
  else return ({ s with names := name :: s.names }.openCounted, rest)

/-- What an opening parenthesis begins: a group or flags. A look to either side is refused. -/
def group? (s : State) (t : Text) : Option (State × Text) := do
  match s.flags.skip t with
  | '?' :: 'P' :: '<' :: rest => namedGroup? s rest
  | '?' :: '<' :: rest => namedGroup? s rest
  | '?' :: rest =>
    match ← s.flags.read? [] rest with
    | (flags, .group, rest) => return (s.openPlain flags, rest)
    | (flags, .rest, rest) => return ({ s with flags, level := s.level.add .flags }, rest)
  | rest => return (s.openCounted, rest)

/-! ### All of it -/

/-- Reads the next part of a pattern, or the sign that begins, ends or repeats one. -/
def step? (s : State) : Text → Option (State × Text)
  | [] => none
  | '(' :: rest => group? s rest
  | ')' :: rest => do return (← s.closeGroup?, rest)
  | '|' :: rest => some (s.nextChoice, rest)
  | '[' :: rest => do
    let (set, rest) ← Bracket.read? s.flags rest
    return (s.add ⟨ofSet s.flags.unicode set.value, set.depth⟩, rest)
  | '?' :: rest => addRepetition? s 0 (some 1) rest
  | '*' :: rest => addRepetition? s 0 none rest
  | '+' :: rest => addRepetition? s 1 none rest
  | '\x7b' :: rest => do
    let (inner, rest) ← s.flags.braced? false rest
    let (least, most) ← counts? inner
    addRepetition? s least most (s.flags.skip rest)
  | '\\' :: rest => do
    match ← Escape.read? s.flags rest with
    | (.literal c, rest) => return (s.literal c, rest)
    | (.set set, rest) => return (s.set set, rest)
    | (.edge e, rest) => return (s.edge e, rest)
  | '.' :: rest => do return (s.set (← s.flags.dot?), rest)
  | '^' :: rest => some (s.edge s.flags.lineStart, rest)
  | '$' :: rest => some (s.edge s.flags.lineEnd, rest)
  | c :: rest => some (s.literal c, rest)

/-- Reads on to the end of a pattern; every step takes a character. -/
def run? : (steps : Nat) → State → Text → Option State
  | 0, _, _ => none
  | steps + 1, s, t => do
    match s.flags.skip t with
    | [] => return s
    | t =>
      let (s, rest) ← step? s t
      run? steps s rest

end Reader

/-- How deep the notation of a pattern may be nested. -/
def depthLimit : Nat := 250

/-- The pattern that a text writes down, if it writes one down that is neither too deep nor too
large. -/
def ofText? (t : Text) : Option Pattern := do
  let s ← Reader.run? (t.length + 1) .start t
  let p := s.level.settle
  if s.outer.isEmpty && p.depth ≤ depthLimit && p.value.fits then return p.value else none

/-- The patterns of a list, if all of its texts write one down. -/
def ofTexts? (ts : List String) : Option (List Pattern) :=
  ts.mapM fun t => ofText? t.toList

end Pattern

end Abridge
