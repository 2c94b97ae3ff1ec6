import Abridge.Text.Blank

/-!
Counters: how many tokens a text counts as. Everything that counts tokens takes the counter as a
parameter.
-/
namespace Abridge

/-- A way to count the tokens of a text. -/
abbrev Counter := Text → Nat

namespace Counter

/-- Four bytes to a token, as English text has on average. -/
def quarterBytes : Counter :=
  fun t => t.size / 4

/-- A token for each byte. -/
def bytes : Counter :=
  Text.size

/-- A token for each word. -/
def words : Counter :=
  fun t => (Text.words t).length

end Counter

end Abridge
