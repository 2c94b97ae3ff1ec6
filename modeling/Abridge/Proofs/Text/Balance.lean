import Abridge.Text.Blank

/-!
Brackets in a text.

A text is balanced if it has as many opening as closing brackets of each pair. What one text has too
many of, its `excess`, adds up over appended texts, so that cutting a balanced stretch out of a
balanced text leaves one, and a balanced stretch may stand in its place.
-/
namespace Abridge.Text

/-- The pairs of brackets. -/
def brackets : List (Char × Char) :=
  [('(', ')'), ('[', ']'), ('\x7b', '\x7d')]

def isBracket (c : Char) : Bool :=
  brackets.any fun b => c == b.1 || c == b.2

/-- Whether a text has as many opening as closing brackets of each pair. -/
def IsBalanced (t : Text) : Prop :=
  ∀ b ∈ brackets, t.count b.1 = t.count b.2

instance (t : Text) : Decidable t.IsBalanced :=
  inferInstanceAs (Decidable (∀ b ∈ brackets, t.count b.1 = t.count b.2))

/-- How many more opening than closing brackets of a pair a text has. -/
def excess (b : Char × Char) (t : Text) : Int :=
  t.count b.1 - t.count b.2

@[simp] theorem excess_append (b : Char × Char) (s t : Text) :
    excess b (s ++ t) = excess b s + excess b t := by
  simp only [excess, List.count_append]
  omega

theorem isBalanced_iff {t : Text} : t.IsBalanced ↔ ∀ b ∈ brackets, excess b t = 0 := by
  refine forall₂_congr fun b _ => ?_
  unfold excess
  omega

theorem IsBalanced.excess_eq {t : Text} (h : t.IsBalanced) {b : Char × Char} (hb : b ∈ brackets) :
    excess b t = 0 :=
  isBalanced_iff.mp h b hb

theorem IsBalanced.append {s t : Text} (hs : s.IsBalanced) (ht : t.IsBalanced) :
    IsBalanced (s ++ t) :=
  fun b hb => by rw [List.count_append, List.count_append, hs b hb, ht b hb]

/-- Where there are no brackets, none is too many. -/
theorem isBalanced_of_forall {t : Text} (h : ∀ c ∈ t, isBracket c = false) : t.IsBalanced := by
  intro b hb
  have hnot : ∀ c, isBracket c = true → c ∉ t := by
    intro c hc hmem
    rw [h c hmem] at hc
    cases hc
  rw [List.count_eq_zero_of_not_mem (hnot b.1 (List.any_eq_true.mpr ⟨b, hb, by simp⟩)),
    List.count_eq_zero_of_not_mem (hnot b.2 (List.any_eq_true.mpr ⟨b, hb, by simp⟩))]

/-- What picks none of the brackets picks only what is none. -/
theorem isBracket_eq_false {p : Char → Bool} (hp : brackets.all fun b => !p b.1 && !p b.2)
    {c : Char} (h : p c = true) : isBracket c = false := by
  refine Bool.eq_false_iff.mpr fun hc => ?_
  obtain ⟨b, hb, hc⟩ := List.any_eq_true.mp hc
  have hnot := List.all_eq_true.mp hp b hb
  simp only [Bool.or_eq_true, beq_iff_eq] at hc
  rcases hc with rfl | rfl <;> simp [h] at hnot

theorem isBracket_of_isBlank {c : Char} (h : isBlank c = true) : isBracket c = false :=
  isBracket_eq_false (by decide) h

theorem isBracket_of_isDigit {c : Char} (h : c.isDigit = true) : isBracket c = false :=
  isBracket_eq_false (by decide) h

end Abridge.Text
