import Abridge.CharSet.Basic
import Abridge.Text.Blank
import Abridge.Text.Digits

/-!
Tables of character data. A table is a text of words: each is a code and the number of code points
in a row that have it, which is left out if there is only one. `select` gives the code points whose
codes pass a test. Names of data are compared in plain form (`plainName`): without case, spaces,
hyphens, underscores and a leading `is`.
-/
namespace Abridge.CharSet

/-- The numbers in a text. -/
def numbers (t : String) : List Nat :=
  (Text.words t.toList).map Text.number

/-- A word of a table: a code and how many code points have it. -/
def entry (word : Text) : Text × Nat :=
  let digits := word.dropWhile (!·.isDigit)
  (word.takeWhile (!·.isDigit), if digits.isEmpty then 1 else Text.number digits)

/-- The bounds of the stretches whose codes pass a test, from `start` on, where `inside` tells
whether the stretch in front does. -/
def selectFrom (keep : Text → Bool) (start : Nat) (inside : Bool) : List Text → List Nat
  | [] => if inside then [start] else []
  | word :: words =>
    let (code, length) := entry word
    mark inside (keep code) start (selectFrom keep (start + length) (keep code) words)

/-- The code points whose codes in a table pass a test. -/
def select (keep : Text → Bool) (table : String) : CharSet :=
  ⟨selectFrom keep 0 false (Text.words table.toList)⟩

/-- Whether a text begins with `is`, in any case. -/
def startsWithIs : Text → Bool
  | a :: b :: _ => a.toLower == 'i' && b.toLower == 's'
  | _ => false

/-- A name in plain form. The name `isc` is not the name `c` with something in front. -/
def plainName (name : Text) : Text :=
  let body := if startsWithIs name then name.drop 2 else name
  let plain := (body.filter fun c => c.toNat < 0x80 && c != ' ' && c != '_' && c != '-').map
    Char.toLower
  if startsWithIs name && plain == ['c'] then "isc".toList else plain

/-- Whether a name in plain form is one of the listed names. -/
def isNamed (names : String) (name : Text) : Bool :=
  (Text.words names.toList).any fun n => plainName n == name

end Abridge.CharSet
