import Abridge.CharSet.CaseFold
import Abridge.CharSet.Shorthand
import Abridge.Pattern.Basic

/-!
The flags of a pattern. They say how the notation behind them is read: which case a letter has,
where lines end, what `.` stands for, whether sets go by Unicode or by ASCII, which repetitions are
lazy, and whether blanks and comments may stand between the parts of the pattern (`Flags.skip`).
-/
namespace Abridge.Pattern

/-- What the flags of a pattern ask for. -/
structure Flags where
  ignoreCase : Bool := false
  multiLine : Bool := false
  dotAll : Bool := false
  /-- Carriage returns end lines. -/
  returns : Bool := false
  unicode : Bool := true
  /-- Repetitions are lazy without a mark and not lazy with one. -/
  lazy : Bool := false
  /-- Blanks and comments between the parts mean nothing. -/
  spaced : Bool := false
  deriving DecidableEq, Repr

namespace Flags

/-- Sets or clears the flag with a letter, if there is one. -/
def set? (flags : Flags) (on : Bool) : Char → Option Flags
  | 'i' => some { flags with ignoreCase := on }
  | 'm' => some { flags with multiLine := on }
  | 's' => some { flags with dotAll := on }
  | 'R' => some { flags with returns := on }
  | 'u' => some { flags with unicode := on }
  | 'x' => some { flags with spaced := on }
  | 'U' => some { flags with lazy := on }
  | _ => none

/-- The end of a list of flags: a group with them follows, or they hold for the rest. -/
inductive Scope where
  | group
  | rest
  deriving DecidableEq, Repr

/-- Reads a list of flags up to the `:` or `)` behind it. Letters behind a minus are cleared; `seen`
holds the letters and the minus so far, last first, and each may come once. A minus has to be
followed by a letter, and a list without letters by a group. -/
def read? (flags : Flags) (seen : List Char) : Text → Option (Flags × Scope × Text)
  | [] => none
  | c :: rest =>
    if c == ':' || c == ')' then
      if seen.head? == some '-' then none
      else if c == ':' then some (flags, .group, rest)
      else if seen.isEmpty then none
      else some (flags, .rest, rest)
    else if seen.contains c then none
    else if c == '-' then read? flags (c :: seen) rest
    else do read? (← flags.set? (!seen.contains '-') c) (c :: seen) rest

/-! ### Blanks and comments -/

/-- The text behind leading blanks and comments; a comment reaches from `#` to the end of its
line. -/
def skipSpace (inComment : Bool) : Text → Text
  | [] => []
  | c :: rest =>
    if inComment then skipSpace (c != '\n') rest
    else if Text.isBlank c then skipSpace false rest
    else if c == '#' then skipSpace true rest
    else c :: rest

/-- The text behind what may be skipped. -/
def skip (flags : Flags) (t : Text) : Text :=
  if flags.spaced then skipSpace false t else t

/-- The text up to a closing brace, without what may be skipped, and the text behind the brace. -/
def braced? (flags : Flags) (inComment : Bool) : Text → Option (Text × Text)
  | [] => none
  | c :: rest =>
    if inComment then braced? flags (c != '\n') rest
    else if c == '\x7d' then some ([], rest)
    else if flags.spaced && Text.isBlank c then braced? flags false rest
    else if flags.spaced && c == '#' then braced? flags true rest
    else (braced? flags false rest).map fun (inner, after) => (c :: inner, after)

/-! ### Sets -/

/-- A set with the other cases of its characters, if case does not matter. -/
def fold (flags : Flags) (s : CharSet) : CharSet :=
  if !flags.ignoreCase then s else if flags.unicode then s.foldCase else s.foldAsciiCase

/-- The characters outside a set; without Unicode there is no such set, since a byte outside it is
not always a character. -/
def complement? (flags : Flags) (s : CharSet) : Option CharSet :=
  if flags.unicode then some s.complement else none

/-- The set of a character in a set in brackets, which without Unicode has to be an ASCII one. -/
def member? (flags : Flags) (c : Char) : Option CharSet :=
  if flags.unicode || c.toNat < 0x80 then some (.single c) else none

/-- The set that `.` stands for; without Unicode there is none. -/
def dot? (flags : Flags) : Option CharSet :=
  flags.complement? <|
    if flags.dotAll then .empty
    else if flags.returns then (CharSet.single '\n').union (.single '\r')
    else .single '\n'

/-! ### Edges and classes -/

/-- The edge that `^` stands for. -/
def lineStart (flags : Flags) : Edge :=
  if flags.multiLine then .lineStart flags.returns else .textStart

/-- The edge that `$` stands for. -/
def lineEnd (flags : Flags) : Edge :=
  if flags.multiLine then .lineEnd flags.returns else .textEnd

/-- The digits, blanks or characters of words, by the letter of their escape. -/
def shorthand? (flags : Flags) (letter : Char) : Option CharSet :=
  match letter with
  | 'd' => if flags.unicode then some .digit else CharSet.asciiClass? "digit"
  | 's' => if flags.unicode then some .blank else CharSet.asciiClass? "space"
  | 'w' => if flags.unicode then some .word else CharSet.asciiClass? "word"
  | _ => none

/-- The characters of words, as word edges see them. -/
def letters (flags : Flags) : CharSet :=
  (flags.shorthand? 'w').getD .empty

end Flags

end Abridge.Pattern
