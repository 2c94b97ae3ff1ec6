import Abridge.CharSet.Property
import Abridge.Pattern.Flags
import Abridge.Text.Digits

/-!
Escapes in patterns. `Escape.read?` reads what stands behind a backslash: a literal character, a set
or an edge. Letters and digits mean something or are refused, and of the other ASCII characters all
but the angle brackets stand for themselves.
-/
namespace Abridge.Pattern

/-- What an escape stands for. -/
inductive Escape where
  | literal (c : Char)
  | set (s : CharSet)
  | edge (e : Edge)
  deriving DecidableEq, Repr

namespace Escape

/-! ### Literal characters -/

/-- The control character that a letter names. -/
def control? : Char → Option Char
  | 'n' => some '\n'
  | 't' => some '\t'
  | 'r' => some '\r'
  | 'a' => some '\x07'
  | 'f' => some '\x0c'
  | 'v' => some '\x0b'
  | _ => none

/-- Whether a character may be escaped to stand for itself. -/
def isPlain (c : Char) : Bool :=
  c.toNat < 0x80 && !c.isAlphanum && c != '<' && c != '>'

/-- The character that hexadecimal digits write down, if there is one. -/
def hexChar? (digits : Text) : Option Char := do
  let n ← Text.hexNumber? digits
  if h : n.isValidChar then some (Char.ofNatAux n h) else none

/-- The next `n` characters and the text behind them, where something may be skipped behind each. -/
def characters? (flags : Flags) : Nat → Text → Option (Text × Text)
  | 0, t => some ([], t)
  | _ + 1, [] => none
  | n + 1, c :: rest =>
    (characters? flags n (flags.skip rest)).map fun (cs, after) => (c :: cs, after)

/-- The character of a hexadecimal escape: `digits` digits, or any number of them in braces. The two
digits of `\x` write a byte, which without Unicode has to be an ASCII character. -/
def hex? (flags : Flags) (digits : Nat) (t : Text) : Option (Char × Text) := do
  match flags.skip t with
  | '\x7b' :: rest =>
    let (inner, after) ← flags.braced? false rest
    if inner.isEmpty then none else return (← hexChar? inner, after)
  | t =>
    let (inner, after) ← characters? flags digits t
    let c ← hexChar? inner
    if digits == 2 && !flags.unicode && c.toNat ≥ 0x80 then none else return (c, after)

/-! ### Sets -/

/-- The part of a text in front of another text and the part behind it. -/
def cutAt? (separator t : Text) : Option (Text × Text) :=
  match t with
  | [] => none
  | c :: rest =>
    if separator.isPrefixOf t then some ([], t.drop separator.length)
    else (cutAt? separator rest).map fun (front, back) => (c :: front, back)

/-- What a property in braces stands for, a name or a name and a value: its set, and whether the
characters outside it are meant. -/
def named? (inner : Text) : Option (Bool × CharSet) :=
  match cutAt? ['!', '='] inner with
  | some (name, value) => (CharSet.propertyValue? name value).map (true, ·)
  | none =>
    match cutAt? [':'] inner <|> cutAt? ['='] inner with
    | some (name, value) => (CharSet.propertyValue? name value).map (false, ·)
    | none => (CharSet.property? inner).map (false, ·)

/-- The set of a property, by one letter or by names in braces, or with `outside` the set of the
other characters. Other cases are added before the set is turned around. -/
def property? (flags : Flags) (outside : Bool) (t : Text) : Option (CharSet × Text) := do
  if !flags.unicode then none
  else
    let (others, s, rest) ← match flags.skip t with
      | '\x7b' :: rest => do
        let (inner, after) ← flags.braced? false rest
        let (others, s) ← named? inner
        pure (others, s, after)
      | c :: rest => do pure (false, ← CharSet.property? [c], rest)
      | [] => none
    let folded := flags.fold s
    return (if outside == others then folded else folded.complement, rest)

/-! ### Edges -/

/-- Whether a character may stand in the name of a word edge. -/
def isEdgeLetter (c : Char) : Bool :=
  c.isAlpha || c == '-'

/-- The word edge with a name. -/
def wordEdge? : String → Option WordEdge
  | "start" => some .start
  | "end" => some .stop
  | "start-half" => some .startHalf
  | "end-half" => some .stopHalf
  | _ => none

/-- The word edge of `\b`, whose name may follow in braces. Braces that do not begin with a letter
of a name are a repetition instead. -/
def boundary? (flags : Flags) (t : Text) : Option (WordEdge × Text) := do
  match t with
  | '\x7b' :: rest =>
    match flags.skip rest with
    | [] => none
    | c :: _ =>
      if isEdgeLetter c then
        let (inner, after) ← flags.braced? false rest
        return (← wordEdge? (String.ofList inner), after)
      else return (.either, t)
  | _ => return (.either, t)

/-! ### All of them -/

/-- Reads an escape whose backslash has been read. -/
def read? (flags : Flags) : Text → Option (Escape × Text)
  | [] => none
  | c :: rest =>
    match c with
    | 'x' => (hex? flags 2 rest).map fun (c, after) => (.literal c, after)
    | 'u' => (hex? flags 4 rest).map fun (c, after) => (.literal c, after)
    | 'U' => (hex? flags 8 rest).map fun (c, after) => (.literal c, after)
    | 'p' => (property? flags false rest).map fun (s, after) => (.set s, after)
    | 'P' => (property? flags true rest).map fun (s, after) => (.set s, after)
    | 'A' => some (.edge .textStart, rest)
    | 'z' => some (.edge .textEnd, rest)
    | 'b' =>
      (boundary? flags rest).map fun (e, after) => (.edge (.word e flags.letters), after)
    | 'B' => some (.edge (.word .neither flags.letters), rest)
    | '<' => some (.edge (.word .start flags.letters), rest)
    | '>' => some (.edge (.word .stop flags.letters), rest)
    | _ =>
      match flags.shorthand? c, flags.shorthand? c.toLower, control? c with
      | some s, _, _ => some (.set s, rest)
      | none, some s, _ => (flags.complement? s).map fun s => (.set s, rest)
      | none, none, some d => some (.literal d, rest)
      | none, none, none => if isPlain c then some (.literal c, rest) else none

end Escape

end Abridge.Pattern
