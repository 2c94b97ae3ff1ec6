import Abridge.Text.Basic
import Abridge.Text.CharClass

/-!
Quoted text as it stands in messages: between double quotes, with a backslash before quotes and
backslashes, short names for the common controls and the code point of whatever shows no shape.
-/
namespace Abridge.Text

/-- A character as it is written inside quotes. -/
def quoteChar (c : Char) : Text :=
  if c == '"' || c == '\\' then ['\\', c]
  else if c == '\n' then ['\\', 'n']
  else if c == '\r' then ['\\', 'r']
  else if c == '\t' then ['\\', 't']
  else if c == '\x00' then ['\\', '0']
  else if isHidden c then ['\\', 'u', '\x7b'] ++ Nat.toDigits 16 c.toNat ++ ['\x7d']
  else [c]

/-- A text between double quotes. -/
def quoted (t : Text) : Text :=
  ['"'] ++ t.flatMap quoteChar ++ ['"']

end Abridge.Text
