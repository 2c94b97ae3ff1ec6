import Abridge.Literal.Shape

/-!
Where a string may be cut. The content of a string is a row of units: escape sequences, values put
into it, and single characters; a cut falls between two units. `cutPoints` are the offsets of these
places. Where a value is never closed, no further cut is offered.
-/
namespace Abridge.Literal

/-- The start of a text up to the first character that `p` does not pick, but at most `n` long, and
the rest. -/
def spanAtMost (p : Char → Bool) : Nat → Text → Text × Text
  | _, [] => ([], [])
  | 0, t => ([], t)
  | n + 1, c :: t =>
    if p c then
      let (front, rest) := spanAtMost p n t
      (c :: front, rest)
    else ([], c :: t)

def isHexDigit (c : Char) : Bool :=
  c.isDigit || ('a' ≤ c && c ≤ 'f') || ('A' ≤ c && c ≤ 'F')

def isOctalDigit (c : Char) : Bool :=
  '0' ≤ c && c ≤ '7'

/-- The start of a text through the first closing brace, or all of it, and the rest. -/
def throughBrace : Text → Text × Text
  | [] => ([], [])
  | c :: t =>
    if c == '\x7d' then ([c], t)
    else
      let (front, rest) := throughBrace t
      (c :: front, rest)

/-- An escape sequence whose backslash has been read, and the rest: a code point in braces, up to
eight hexadecimal or three octal digits, or one character. -/
def escape : Text → Text × Text
  | [] => ([], [])
  | c :: t =>
    if (c == 'u' || c == 'x' || c == 'U' || c == 'N') && t.head? == some '\x7b' then
      let (front, rest) := throughBrace t
      (c :: front, rest)
    else if c == 'x' || c == 'u' || c == 'U' then
      let (front, rest) := spanAtMost isHexDigit 8 t
      (c :: front, rest)
    else if isOctalDigit c then
      let (front, rest) := spanAtMost isOctalDigit 2 t
      (c :: front, rest)
    else ([c], t)

/-- The start of a text through the brace that closes the last of `depth` open ones, and the rest,
if it comes. -/
def balanced? : Nat → Text → Option (Text × Text)
  | _, [] => none
  | depth, c :: t =>
    let onward (depth : Nat) := (balanced? depth t).map fun (front, rest) => (c :: front, rest)
    if c == '\x7b' then onward (depth + 1)
    else if c == '\x7d' then
      match depth with
      | 0 => none
      | 1 => some ([c], t)
      | depth + 2 => onward (depth + 1)
    else onward depth

/-- The first unit of a string and the rest; none where a value is never closed. -/
def unit? (interpolation : Interpolation) : Text → Option (Text × Text)
  | [] => none
  | c :: t =>
    if c == '\\' then
      let (front, rest) := escape t
      some (c :: front, rest)
    else if c == '$' && interpolation == .dollarBrace && t.head? == some '\x7b' then
      (balanced? 0 t).map fun (front, rest) => (c :: front, rest)
    else if c == '\x7b' && interpolation == .brace then
      match t with
      | '\x7b' :: rest => some ([c, '\x7b'], rest)
      | _ => balanced? 0 (c :: t)
    else some ([c], t)

/-- The units of a string, in order, up to a value that is never closed. -/
def units (interpolation : Interpolation) (t : Text) : List Text :=
  match unit? interpolation t with
  | none => []
  | some (unit, rest) => if rest.length < t.length then unit :: units interpolation rest else []
termination_by t.length

/-- The offsets behind units that begin at `offset`. -/
def offsetsAfter (offset : Nat) : List Text → List Nat
  | [] => []
  | unit :: rest => (offset + unit.size) :: offsetsAfter (offset + unit.size) rest

/-- The offsets at which a string may be cut, from zero on. -/
def cutPoints (interpolation : Interpolation) (content : Text) : List Nat :=
  0 :: offsetsAfter 0 (units interpolation content)

end Abridge.Literal
