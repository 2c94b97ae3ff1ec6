import Abridge.Text.Search

/-!
Blank characters: those with the Unicode property White_Space. Trimming, words and single lines all
go by this one class.
-/
namespace Abridge.Text

/-- The characters with the Unicode property White_Space. -/
def isBlank (c : Char) : Bool :=
  let n := c.toNat
  (9 ≤ n && n ≤ 13) || n == 0x20 || n == 0x85 || n == 0xA0 || n == 0x1680 ||
    (0x2000 ≤ n && n ≤ 0x200A) || n == 0x2028 || n == 0x2029 || n == 0x202F || n == 0x205F ||
    n == 0x3000

/-- Whether a text holds nothing but blanks. -/
def isBlankText (t : Text) : Bool :=
  t.all isBlank

/-- The text without leading blanks. -/
def trimStart (t : Text) : Text :=
  t.dropWhile isBlank

/-- The text without trailing blanks. -/
def trimEnd (t : Text) : Text :=
  dropEndWhile isBlank t

/-- The text without leading and trailing blanks. -/
def trim (t : Text) : Text :=
  trimEnd (trimStart t)

/-- The maximal stretches without blanks, in order. -/
def words (t : Text) : List Text :=
  (splitAt isBlank t).filter (!·.isEmpty)

/-- The words on one line, one space apart. -/
def singleLine (t : Text) : Text :=
  join [' '] (words t)

end Abridge.Text
