import Abridge.Budget.Counter
import Abridge.Proofs.Text.Chars

/-!
How many words a text has.

A word begins at a character that is no blank and has none of its kind in front of it
(`wordStarts`), so the number of words can be read off from the left (`length_words`). A blank
separates (`length_words_append_blank`), joining two texts can join the words at the seam, but no
others (`length_words_append_le`), and what is put between two texts takes no word away
(`length_words_insert_le`).
-/
namespace Abridge.Text

/-- How many words begin in a text, of which one may begin at the first character if `free`. -/
def wordStarts : Bool → Text → Nat
  | _, [] => 0
  | free, c :: t => (if free && !isBlank c then 1 else 0) + wordStarts (isBlank c) t

/-- Whether a word may begin behind a text. -/
def endsFree (free : Bool) (t : Text) : Bool :=
  (t.getLast?.map isBlank).getD free

theorem wordStarts_append (free : Bool) (s t : Text) :
    wordStarts free (s ++ t) = wordStarts free s + wordStarts (endsFree free s) t := by
  induction s generalizing free with
  | nil => exact (Nat.zero_add _).symm
  | cons c s ih =>
    have hends : endsFree free (c :: s) = endsFree (isBlank c) s := by
      unfold endsFree
      cases s with
      | nil => rfl
      | cons d s => rw [List.getLast?_cons_cons, List.getLast?_cons]; rfl
    rw [List.cons_append, wordStarts, wordStarts, ih, hends, Nat.add_assoc]

theorem wordStarts_false_le (free : Bool) (t : Text) : wordStarts false t ≤ wordStarts free t := by
  cases t with
  | nil => exact Nat.le_refl _
  | cons c t => exact Nat.add_le_add_right (Nat.zero_le _) _

theorem wordStarts_le_true (free : Bool) (t : Text) : wordStarts free t ≤ wordStarts true t := by
  cases free with
  | false => exact wordStarts_false_le true t
  | true => exact Nat.le_refl _

/-- Words begin where pieces do that are not empty. The first piece begins in front of the text, so
it counts only where a word may begin there. -/
theorem length_filter_splitAt (t : Text) :
    ((splitAt isBlank t).filter (!·.isEmpty)).length = wordStarts true t ∧
      ((splitAt isBlank t).tail.filter (!·.isEmpty)).length = wordStarts false t := by
  induction t with
  | nil => exact ⟨rfl, rfl⟩
  | cons c t ih =>
    cases hc : isBlank c with
    | true =>
      simp [splitAt_cons_of_break hc, wordStarts, hc, ih.1]
    | false =>
      obtain ⟨piece, rest, hsplit, hcons⟩ := splitAt_cons_of_not hc t
      have htail := ih.2
      rw [hsplit, List.tail_cons] at htail
      simp [hcons, wordStarts, hc, htail, Nat.add_comm]

theorem length_words (t : Text) : (words t).length = wordStarts true t :=
  (length_filter_splitAt t).1

/-- A blank separates words. -/
theorem length_words_append_blank (s : Text) {c : Char} (hc : isBlank c = true) (t : Text) :
    (words (s ++ c :: t)).length = (words s).length + (words t).length := by
  rw [length_words, length_words, length_words, wordStarts_append, wordStarts, hc]
  simp

/-- A word at the seam may be counted twice. -/
theorem length_words_append_le (s t : Text) :
    (words (s ++ t)).length ≤ (words s).length + (words t).length := by
  rw [length_words, length_words, length_words, wordStarts_append]
  exact Nat.add_le_add_left (wordStarts_le_true _ t) _

theorem length_words_le_append (s t : Text) : (words s).length ≤ (words (s ++ t)).length := by
  rw [length_words, length_words, wordStarts_append]
  exact Nat.le_add_right _ _

/-- A word may begin at the first character, and at no other that is not free anyway. -/
theorem wordStarts_true_le (t : Text) : wordStarts true t ≤ 1 + wordStarts false t := by
  cases t with
  | nil => exact Nat.zero_le _
  | cons c t =>
    simp only [wordStarts, Bool.false_and]
    split <;> simp

/-- Where no word may begin behind a text, but one may at its front, it ends in no blank. -/
theorem exists_of_endsFree_eq_false {t : Text} (h : endsFree true t = false) :
    ∃ c ∈ t.getLast?, isBlank c = false := by
  unfold endsFree at h
  cases hlast : t.getLast? with
  | none => rw [hlast] at h; cases h
  | some c => rw [hlast] at h; exact ⟨c, rfl, h⟩

/-- A word begins in a text that does not hold blanks alone. -/
theorem wordStarts_pos {t : Text} (h : ∃ c ∈ t, isBlank c = false) : 0 < wordStarts true t := by
  induction t with
  | nil => obtain ⟨c, hc, -⟩ := h; cases hc
  | cons d t ih =>
    rw [wordStarts]
    cases hd : isBlank d with
    | false => exact Nat.lt_add_right _ Nat.zero_lt_one
    | true =>
      obtain ⟨c, hc, hblank⟩ := h
      have hne : c ≠ d := by rintro rfl; rw [hd] at hblank; cases hblank
      exact Nat.add_pos_right _ (ih ⟨c, List.mem_of_ne_of_mem hne hc, hblank⟩)

/-- What comes between two texts takes no word away: where it makes two words one, it is a part of
this word. -/
theorem length_words_insert_le (s t u : Text) :
    (words (s ++ u)).length ≤ (words (s ++ t ++ u)).length := by
  rw [length_words, length_words, List.append_assoc, wordStarts_append, wordStarts_append,
    wordStarts_append]
  refine Nat.add_le_add_left ?_ _
  generalize endsFree true s = free
  cases hfree : endsFree free t with
  | true =>
    exact Nat.le_add_left_of_le (wordStarts_le_true free u)
  | false =>
    cases free with
    | false => exact Nat.le_add_left _ _
    | true =>
      obtain ⟨c, hlast, hc⟩ := exists_of_endsFree_eq_false hfree
      have hpos := wordStarts_pos ⟨c, List.mem_of_mem_getLast? hlast, hc⟩
      have hone := wordStarts_true_le u
      omega

/-- A text without blanks is one word. -/
theorem length_words_of_forall {t : Text} (hne : t ≠ []) (h : ∀ c ∈ t, isBlank c = false) :
    (words t).length = 1 := by
  have hnone : ∀ t : Text, (∀ c ∈ t, isBlank c = false) → wordStarts false t = 0 := by
    intro t ht
    induction t with
    | nil => rfl
    | cons c t ih =>
      obtain ⟨hc, ht⟩ := List.forall_mem_cons.mp ht
      rw [wordStarts, hc, ih ht]
      rfl
  obtain ⟨c, t, rfl⟩ := List.exists_cons_of_ne_nil hne
  obtain ⟨hc, ht⟩ := List.forall_mem_cons.mp h
  rw [length_words, wordStarts, hc, hnone t ht]
  rfl

end Abridge.Text
