import Abridge.Json.Basic
import Abridge.Text.Digits

/-!
Reading JSON text. `read` gives the value of a text or its first fault. A value that nobody asked
for can be skipped (`skip`), which looks less closely at it: numbers may be out of range, surrogates
may stand alone, and values may nest to any depth.
-/
namespace Abridge.Json.Reader

/-- The blanks that JSON allows between its tokens. -/
def isSpace (c : Char) : Bool :=
  c == ' ' || c == '\n' || c == '\t' || c == '\r'

def skipSpace (t : Text) : Text :=
  t.dropWhile isSpace

/-! ### Strings -/

/-- The value of four hexadecimal digits in front of a text. -/
def fourDigits? : Text → Option (Nat × Text)
  | a :: b :: c :: d :: rest => (Text.hexNumber? [a, b, c, d]).map fun n => (n, rest)
  | _ => none

/-- The four hexadecimal digits of an escape, which take four bytes whatever they are. -/
def hexEscape (t : Text) : Except Fault (Nat × Text) :=
  match fourDigits? t with
  | some found => .ok found
  | none => .error (if t.size < 4 then .eofInString else .invalidEscape)

/-- The character of an escape whose `\u` has been read; a pair of surrogates is one character. -/
def unicodeEscape (t : Text) : Except Fault (Char × Text) := do
  let (n, rest) ← hexEscape t
  if 0xDC00 ≤ n && n ≤ 0xDFFF then throw .loneSurrogate
  if 0xD800 ≤ n && n ≤ 0xDBFF then
    match rest with
    | '\\' :: 'u' :: rest =>
      let (m, rest) ← hexEscape rest
      if 0xDC00 ≤ m && m ≤ 0xDFFF then
        return (Char.ofNat (0x10000 + (n - 0xD800) * 0x400 + (m - 0xDC00)), rest)
      throw .loneSurrogate
    | [] => throw .eofInString
    | ['\\'] => throw .eofInString
    | _ => throw .endOfHexEscape
  return (Char.ofNat n, rest)

/-- The characters that an escape of one letter stands for. -/
def shortEscape? : Char → Option Char
  | '"' => some '"'
  | '\\' => some '\\'
  | '/' => some '/'
  | 'b' => some '\x08'
  | 'f' => some '\x0c'
  | 'n' => some '\n'
  | 'r' => some '\r'
  | 't' => some '\t'
  | _ => none

/-- The rest of a string whose opening quote has been read; `done` holds its characters so far,
last one first. Every step takes a character, so the length of the text is steps enough. -/
def stringBody : Nat → Text → Text → Except Fault (String × Text)
  | 0, _, _ => .error .eofInString
  | _ + 1, _, [] => .error .eofInString
  | _ + 1, done, '"' :: rest => .ok (String.ofList done.reverse, rest)
  | steps + 1, done, '\\' :: rest =>
    match rest with
    | [] => .error .eofInString
    | 'u' :: rest =>
      match unicodeEscape rest with
      | .ok (c, rest) => stringBody steps (c :: done) rest
      | .error f => .error f
    | e :: rest =>
      match shortEscape? e with
      | some c => stringBody steps (c :: done) rest
      | none => .error .invalidEscape
  | steps + 1, done, c :: rest =>
    if c.toNat < 0x20 then .error .controlCharacter else stringBody steps (c :: done) rest

/-- A string whose opening quote has been read. -/
def string (t : Text) : Except Fault (String × Text) :=
  stringBody (t.length + 1) [] t

/-- What follows a string whose opening quote has been read; its escapes need not make sense. -/
def skipStringBody : Nat → Text → Except Fault Text
  | 0, _ => .error .eofInString
  | _ + 1, [] => .error .eofInString
  | _ + 1, '"' :: rest => .ok rest
  | steps + 1, '\\' :: rest =>
    match rest with
    | [] => .error .eofInString
    | 'u' :: rest =>
      match hexEscape rest with
      | .ok (_, rest) => skipStringBody steps rest
      | .error f => .error f
    | e :: rest =>
      if (shortEscape? e).isSome then skipStringBody steps rest else .error .invalidEscape
  | steps + 1, c :: rest =>
    if c.toNat < 0x20 then .error .controlCharacter else skipStringBody steps rest

def skipString (t : Text) : Except Fault Text :=
  skipStringBody (t.length + 1) t

/-! ### Numbers -/

/-- The largest integer that is kept as one. -/
def maxNatural : Nat := 18446744073709551615

/-- Reads on the integer part: the significand while it fits 64 bits, then only how many digits
follow. -/
def integerDigits (significand dropped : Nat) : Text → Nat × Nat × Text
  | [] => (significand, dropped, [])
  | c :: rest =>
    if !c.isDigit then (significand, dropped, c :: rest)
    else
      let next := significand * 10 + Text.digitValue c
      if dropped = 0 && next ≤ maxNatural then integerDigits next 0 rest
      else integerDigits significand (dropped + 1) rest

/-- Reads on the fraction: digits are added to the significand while it fits 64 bits and are ignored
from then on. -/
def fractionDigits (significand places : Nat) (full : Bool) : Text → Nat × Nat × Text
  | [] => (significand, places, [])
  | c :: rest =>
    if !c.isDigit then (significand, places, c :: rest)
    else
      let next := significand * 10 + Text.digitValue c
      if !full && next ≤ maxNatural then fractionDigits next (places + 1) false rest
      else fractionDigits significand places true rest

/-- Reads an optional exponent. -/
def exponentPart (t : Text) : Except Fault (Option Int × Text) :=
  match t with
  | e :: rest =>
    if e == 'e' || e == 'E' then
      let (minus, rest) := match rest with
        | '+' :: rest => (false, rest)
        | '-' :: rest => (true, rest)
        | rest => (false, rest)
      match rest with
      | [] => .error .eofInValue
      | c :: _ =>
        if c.isDigit then
          let n : Int := Text.number (rest.takeWhile Char.isDigit)
          .ok (some (if minus then -n else n), rest.dropWhile Char.isDigit)
        else .error .invalidNumber
    else .ok (none, t)
  | [] => .ok (none, [])

/-- An integer; one too far below zero and minus zero are doubles. -/
def integer (negative : Bool) (n : Nat) : Number :=
  if !negative then .natural n
  else if n = 0 || 9223372036854775808 < n then .double true (Double.nearest n 1)
  else .negative n

/-- The number that begins a text, its minus already read. -/
def number (negative : Bool) (t : Text) : Except Fault (Number × Text) := do
  let (significand, dropped, rest) ← match t with
    | [] => throw .eofInValue
    | '0' :: c :: rest =>
      if c.isDigit then throw .invalidNumber else pure (0, 0, c :: rest)
    | c :: _ => if c.isDigit then pure (integerDigits 0 0 t) else throw .invalidNumber
  let (significand, places, point, rest) ← match rest with
    | '.' :: rest =>
      match rest with
      | [] => throw .eofInValue
      | c :: _ =>
        if c.isDigit then
          let (significand, places, rest) := fractionDigits significand 0 false rest
          pure (significand, places, true, rest)
        else throw .invalidNumber
    | rest => pure (significand, 0, false, rest)
  let (exponent, rest) ← exponentPart rest
  if !point && exponent.isNone && dropped = 0 then return (integer negative significand, rest)
  match Double.ofDecimal? significand ((dropped : Int) - places + exponent.getD 0) with
  | some x => return (.double negative x, rest)
  | none => throw .numberOutOfRange

/-- What follows digits, of which there has to be one. -/
def skipDigits : Text → Except Fault Text
  | c :: rest => if c.isDigit then .ok (rest.dropWhile Char.isDigit) else .error .invalidNumber
  | [] => .error .invalidNumber

/-- What follows an optional exponent. -/
def skipExponent : Text → Except Fault Text
  | e :: rest =>
    if e == 'e' || e == 'E' then
      match rest with
      | '+' :: rest => skipDigits rest
      | '-' :: rest => skipDigits rest
      | rest => skipDigits rest
    else .ok (e :: rest)
  | [] => .ok []

/-- What follows a number, its minus already read; nothing is asked of its size. -/
def skipNumber (t : Text) : Except Fault Text := do
  let rest ← match t with
    | '0' :: c :: rest => if c.isDigit then throw .invalidNumber else pure (c :: rest)
    | _ => skipDigits t
  match rest with
  | '.' :: rest => skipExponent (← skipDigits rest)
  | rest => skipExponent rest

/-! ### Values without parts -/

/-- The rest of a word such as `true` behind its first letter. -/
def word : Text → Text → Except Fault Text
  | [], rest => .ok rest
  | _ :: _, [] => .error .eofInValue
  | w :: ws, c :: rest => if w = c then word ws rest else .error .expectedIdent

/-- The value that begins a text, if it is neither an array nor an object. -/
def scalar : Text → Except Fault (Json × Text)
  | [] => .error .eofInValue
  | 'n' :: rest => do return (.null, ← word ['u', 'l', 'l'] rest)
  | 't' :: rest => do return (.bool true, ← word ['r', 'u', 'e'] rest)
  | 'f' :: rest => do return (.bool false, ← word ['a', 'l', 's', 'e'] rest)
  | '"' :: rest => do
    let (s, rest) ← string rest
    return (.string s, rest)
  | '-' :: rest => do
    let (n, rest) ← number true rest
    return (.number n, rest)
  | c :: rest =>
    if c.isDigit then do
      let (n, rest) ← number false (c :: rest)
      return (.number n, rest)
    else .error .expectedValue

/-! ### Arrays and objects -/

/-- Goes to the next item of an array, `first` if none has been read: what follows the closing
bracket, or where the item begins. -/
def nextItem (first : Bool) (t : Text) : Except Fault (Text ⊕ Text) :=
  match skipSpace t with
  | [] => .error .eofInList
  | ']' :: rest => .ok (.inl rest)
  | c :: rest =>
    if first then .ok (.inr (c :: rest))
    else if c != ',' then .error .expectedListCommaOrEnd
    else
      match skipSpace rest with
      | [] => .error .eofInValue
      | ']' :: _ => .error .trailingComma
      | rest => .ok (.inr rest)

/-- Goes to the next name of an object, `first` if none has been read: what follows the closing
brace, or the name and what follows that. -/
def nextName (first : Bool) (t : Text) : Except Fault (Text ⊕ (String × Text)) :=
  match skipSpace t with
  | [] => .error .eofInObject
  | '\x7d' :: rest => .ok (.inl rest)
  | c :: rest => do
    let start ←
      if first then pure (c :: rest)
      else if c != ',' then throw .expectedObjectCommaOrEnd
      else
        match skipSpace rest with
        | [] => throw .eofInValue
        | '\x7d' :: _ => throw .trailingComma
        | rest => pure rest
    match start with
    | '"' :: rest => do return .inr (← string rest)
    | _ => throw .keyMustBeString

/-- What follows the colon behind a name. -/
def colon (t : Text) : Except Fault Text :=
  match skipSpace t with
  | ':' :: rest => .ok rest
  | [] => .error .eofInObject
  | _ => .error .expectedColon

/-- How many arrays and objects may lie inside each other, and one more. -/
def depthLimit : Nat := 128

/-- The depth that is left inside an array or an object. -/
def enter (depth : Nat) : Except Fault Nat :=
  if depth ≤ 1 then .error .tooDeep else .ok (depth - 1)

mutual

/-- The value that begins a text, and what follows it. Every value takes a character and at most two
of these functions, so twice the length of the text is steps enough. -/
def value : Nat → Nat → Text → Except Fault (Json × Text)
  | 0, _, _ => .error .eofInValue
  | steps + 1, depth, t =>
    match skipSpace t with
    | '[' :: rest =>
      match enter depth with
      | .error f => .error f
      | .ok depth => items steps depth [] rest
    | '\x7b' :: rest =>
      match enter depth with
      | .error f => .error f
      | .ok depth => members steps depth [] rest
    | rest => scalar rest

/-- The array whose last items a text writes down; `done` holds those before, last one first. -/
def items : Nat → Nat → List Json → Text → Except Fault (Json × Text)
  | 0, _, _, _ => .error .eofInList
  | steps + 1, depth, done, t =>
    match nextItem done.isEmpty t with
    | .error f => .error f
    | .ok (.inl rest) => .ok (.array done.reverse, rest)
    | .ok (.inr rest) =>
      match value steps depth rest with
      | .error f => .error f
      | .ok (item, rest) => items steps depth (item :: done) rest

/-- The object whose last members a text writes down. -/
def members : Nat → Nat → List (String × Json) → Text → Except Fault (Json × Text)
  | 0, _, _, _ => .error .eofInObject
  | steps + 1, depth, done, t =>
    match nextName done.isEmpty t with
    | .error f => .error f
    | .ok (.inl rest) => .ok (.object done.reverse, rest)
    | .ok (.inr (name, rest)) =>
      match colon rest with
      | .error f => .error f
      | .ok rest =>
        match value steps depth rest with
        | .error f => .error f
        | .ok (v, rest) => members steps depth ((name, v) :: done) rest

end

/-- The value that begins a text, within a depth, and what follows it. -/
def whole (depth : Nat) (t : Text) : Except Fault (Json × Text) :=
  value (2 * t.length + 2) depth t

/-! ### Skipping -/

/-- What a skipped value lies in. -/
inductive Frame where
  | list
  | object
  deriving DecidableEq, Repr

def Frame.closer : Frame → Char
  | list => ']'
  | object => '\x7d'

/-- The fault of a text that ends inside a frame. -/
def Frame.eof : Frame → Fault
  | list => .eofInList
  | object => .eofInObject

/-- The fault of a text with neither a comma nor the closer behind a value in a frame. -/
def Frame.expectedCommaOrEnd : Frame → Fault
  | list => .expectedListCommaOrEnd
  | object => .expectedObjectCommaOrEnd

/-- Goes to the next value of a frame, over the name of a member. -/
def skipName (frame : Frame) (t : Text) : Except Fault Text :=
  match frame with
  | .list => .ok t
  | .object =>
    match skipSpace t with
    | '"' :: rest => do colon (← skipString rest)
    | [] => .error .eofInObject
    | _ => .error .keyMustBeString

/-- What follows a value without parts. -/
def skipScalar : Text → Except Fault Text
  | 'n' :: rest => word ['u', 'l', 'l'] rest
  | 't' :: rest => word ['r', 'u', 'e'] rest
  | 'f' :: rest => word ['a', 'l', 's', 'e'] rest
  | '"' :: rest => skipString rest
  | '-' :: rest => skipNumber rest
  | c :: rest => if c.isDigit then skipNumber (c :: rest) else .error .expectedValue
  | [] => .error .eofInValue

mutual

/-- Skips a value that lies in the given frames, and then those. Every value takes a character and
at most two of these functions. -/
def skipValue : Nat → List Frame → Text → Except Fault Text
  | 0, _, _ => .error .eofInValue
  | steps + 1, frames, t =>
    match skipSpace t with
    | '[' :: rest => skipFrames steps false (.list :: frames) rest
    | '\x7b' :: rest => skipFrames steps false (.object :: frames) rest
    | rest =>
      match skipScalar rest with
      | .error f => .error f
      | .ok rest => skipFrames steps true frames rest

/-- Skips the rest of the given frames; a comma is due if a value stands before. -/
def skipFrames : Nat → Bool → List Frame → Text → Except Fault Text
  | _, _, [], t => .ok t
  | 0, _, _ :: _, _ => .error .eofInValue
  | steps + 1, comma, frame :: frames, t =>
    match skipSpace t with
    | [] => .error frame.eof
    | c :: rest =>
      if c == frame.closer then skipFrames steps true frames rest
      else if comma && c != ',' then .error frame.expectedCommaOrEnd
      else
        match skipName frame (if comma then rest else c :: rest) with
        | .error f => .error f
        | .ok rest => skipValue steps (frame :: frames) rest

end

/-- What follows the value that begins a text. -/
def skip (t : Text) : Except Fault Text :=
  skipValue (2 * t.length + 2) [] t

/-- Checks that nothing but blanks is left. -/
def finish (t : Text) : Except Fault Unit :=
  if (skipSpace t).isEmpty then .ok () else .error .trailingCharacters

end Abridge.Json.Reader

namespace Abridge.Json

/-- The value of a text. -/
def read (t : Text) : Except Fault Json := do
  let (v, rest) ← Reader.whole Reader.depthLimit t
  Reader.finish rest
  return v

end Abridge.Json
