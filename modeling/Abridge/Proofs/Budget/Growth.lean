import Abridge.Proofs.Budget.Smallest
import Abridge.Proofs.Text.SingleLine

/-!
Counters and longer texts.

More text behind a text counts for more tokens, if anything (`Counter.Grows`), and so does more text
between two others (`Counter.GrowsInside`). The built-in counters all have this property, although
the one that counts words sees two words become one where a text is put between them
(`Counter.growsInside_of_builtIn`). None of them counts more tokens on one line
(`Counter.count_singleLine_le`).
-/
namespace Abridge.Counter

/-- Whether a text never counts for fewer tokens when something is put behind it. -/
def Grows (count : Counter) : Prop :=
  ∀ s t : Text, count s ≤ count (s ++ t)

/-- Whether a text never counts for fewer tokens when something is put into it. -/
def GrowsInside (count : Counter) : Prop :=
  ∀ s t u : Text, count (s ++ u) ≤ count (s ++ t ++ u)

variable {count : Counter}

theorem Grows.le_of_isPrefix (h : count.Grows) {s t : Text} (hst : s <+: t) :
    count s ≤ count t := by
  obtain ⟨rest, rfl⟩ := hst
  exact h s rest

theorem GrowsInside.grows (h : count.GrowsInside) : count.Grows := by
  intro s t
  simpa using h s t []

theorem FollowsSize.growsInside (h : count.FollowsSize) : count.GrowsInside := by
  intro s t u
  refine h _ _ ?_
  simp only [Text.size_append]
  omega

section
variable (hcount : count = .quarterBytes ∨ count = .bytes ∨ count = .words)
include hcount

theorem growsInside_of_builtIn : count.GrowsInside := by
  rcases hcount with rfl | rfl | rfl
  · exact followsSize_quarterBytes.growsInside
  · exact followsSize_bytes.growsInside
  · exact Text.length_words_insert_le

theorem count_singleLine_le (t : Text) : count t.singleLine ≤ count t := by
  rcases hcount with rfl | rfl | rfl
  · exact followsSize_quarterBytes _ _ (Text.size_singleLine_le t)
  · exact Text.size_singleLine_le t
  · exact Nat.le_of_eq (Text.length_words_singleLine t)

end

end Abridge.Counter
