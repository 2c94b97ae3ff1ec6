import Abridge.Text.Blank
import Mathlib.Data.List.DropRight

/-!
Trimming.

What is dropped at the end of a text is what `List.rdropWhile` drops, so the lemmas about it apply.
A trimmed text is the front of the text with nothing but blanks behind it
(`exists_eq_trimEnd_append`); one that begins and ends with other characters is trimmed already
(`trim_eq_self`).
-/
namespace Abridge.Text
variable {c : Char} {t : Text}

/-! ### The end of a text -/

theorem dropEndWhile_isPrefix (p : Char → Bool) (t : Text) : t.dropEndWhile p <+: t :=
  List.rdropWhile_prefix p t

/-- What is left does not end in a character of the sort that was dropped. -/
theorem not_of_mem_getLast?_dropEndWhile {p : Char → Bool}
    (h : c ∈ (t.dropEndWhile p).getLast?) : p c = false := by
  obtain ⟨hne, rfl⟩ := List.mem_getLast?_eq_getLast h
  exact Bool.eq_false_iff.mpr (List.rdropWhile_last_not p t hne)

theorem trimEnd_isPrefix (t : Text) : t.trimEnd <+: t :=
  dropEndWhile_isPrefix isBlank t

theorem trimEnd_eq_self (h : ∀ c ∈ t.getLast?, isBlank c = false) : t.trimEnd = t :=
  List.rdropWhile_eq_self_iff.mpr fun hne =>
    Bool.eq_false_iff.mp (h _ (List.getLast?_eq_some_getLast hne))

/-- Trimming leaves something of a text that begins with a character that is no blank. -/
theorem trimEnd_ne_nil (h : (t.head?.any fun c => !isBlank c) = true) : t.trimEnd ≠ [] := by
  intro hnil
  obtain ⟨c, hc, hblank⟩ := (Option.any_eq_true _ _).mp h
  rw [List.rdropWhile_eq_nil_iff.mp hnil c (List.mem_of_mem_head? hc)] at hblank
  cases hblank

/-- Trimming takes blanks away, and nothing else. -/
theorem exists_eq_trimEnd_append (t : Text) :
    ∃ blanks : Text, t = t.trimEnd ++ blanks ∧ blanks.isBlankText = true :=
  ⟨t.rtakeWhile isBlank, List.rdropWhile_append_rtakeWhile.symm,
    List.all_eq_true.mpr fun _ => List.mem_rtakeWhile_imp⟩

/-- Trimming takes all blanks at the end away. -/
theorem trimEnd_append {blanks : Text} (h : blanks.isBlankText = true) (t : Text) :
    (t ++ blanks).trimEnd = t.trimEnd := by
  unfold trimEnd dropEndWhile
  rw [List.reverse_append, List.dropWhile_append_of_pos]
  exact fun c hc => List.all_eq_true.mp h c (List.mem_reverse.mp hc)

theorem trimEnd_append_isPrefix {blanks : Text} (h : blanks.isBlankText = true) (t : Text) :
    (t ++ blanks).trimEnd <+: t :=
  trimEnd_append h t ▸ trimEnd_isPrefix t

/-! ### Its start -/

theorem trimStart_cons_of_isBlank (hc : isBlank c = true) (t : Text) :
    trimStart (c :: t) = trimStart t :=
  List.dropWhile_cons_of_pos hc

theorem trimStart_cons_of_not (hc : isBlank c = false) (t : Text) : trimStart (c :: t) = c :: t :=
  List.dropWhile_cons_of_neg (Bool.eq_false_iff.mp hc)

theorem trimStart_eq_self (h : ∀ c ∈ t.head?, isBlank c = false) : t.trimStart = t := by
  cases t with
  | nil => rfl
  | cons c t => exact trimStart_cons_of_not (h c rfl) t

theorem not_isBlank_head?_trimStart (h : c ∈ t.trimStart.head?) : isBlank c = false := by
  have hnot := List.head?_dropWhile_not isBlank t
  rw [show (t.dropWhile isBlank).head? = some c from h] at hnot
  simpa using hnot

/-- A text without blanks in front is empty or begins with another character. -/
theorem trimStart_eq_nil_or (t : Text) :
    trimStart t = [] ∨ ∃ c rest, trimStart t = c :: rest ∧ isBlank c = false := by
  cases h : trimStart t with
  | nil => exact .inl rfl
  | cons c rest => exact .inr ⟨c, rest, rfl, not_isBlank_head?_trimStart (t := t) (by rw [h]; rfl)⟩

theorem exists_eq_append_trimStart (t : Text) :
    ∃ blanks : Text, t = blanks ++ t.trimStart ∧ blanks.isBlankText = true :=
  ⟨t.takeWhile isBlank, List.takeWhile_append_dropWhile.symm,
    List.all_eq_true.mpr fun _ => List.mem_takeWhile_imp⟩

/-! ### Both ends -/

theorem trim_eq_self (hstart : t.trimStart = t) (hend : ∀ c ∈ t.getLast?, isBlank c = false) :
    t.trim = t := by
  rw [trim, hstart, trimEnd_eq_self hend]

/-- What begins and ends with characters that are no blanks is trimmed. -/
theorem trim_eq_self_of_ends (hhead : ∀ c ∈ t.head?, isBlank c = false)
    (hlast : ∀ c ∈ t.getLast?, isBlank c = false) : t.trim = t :=
  trim_eq_self (trimStart_eq_self hhead) hlast

theorem not_isBlank_getLast?_trim (h : c ∈ t.trim.getLast?) : isBlank c = false :=
  not_of_mem_getLast?_dropEndWhile h

theorem not_isBlank_head?_trim (h : c ∈ t.trim.head?) : isBlank c = false := by
  obtain ⟨back, hback⟩ := trimEnd_isPrefix t.trimStart
  refine not_isBlank_head?_trimStart (t := t) ?_
  rw [← hback, List.head?_append, ← trim, Option.mem_def.mp h]
  rfl

@[simp] theorem trim_trim (t : Text) : t.trim.trim = t.trim :=
  trim_eq_self_of_ends (fun _ => not_isBlank_head?_trim) fun _ => not_isBlank_getLast?_trim

theorem trimStart_of_trim (h : t.trim = t) : t.trimStart = t :=
  trimStart_eq_self fun _ hc => not_isBlank_head?_trim (h.symm ▸ hc)

/-- Blanks around a trimmed text are trimmed away. -/
theorem trim_append_append {front back : Text} (hfront : front.isBlankText = true)
    (hback : back.isBlankText = true) (h : t.trim = t) : (front ++ t ++ back).trim = t := by
  have hdrop : (front ++ t ++ back).trimStart = (t ++ back).trimStart := by
    rw [List.append_assoc]
    exact List.dropWhile_append_of_pos (List.all_eq_true.mp hfront)
  rw [trim, hdrop]
  cases t with
  | nil =>
    have hnil : back.trimStart = [] := List.dropWhile_eq_nil_iff.mpr (List.all_eq_true.mp hback)
    rw [List.nil_append, hnil]
    rfl
  | cons c t =>
    have hhead : isBlank c = false := not_isBlank_head?_trim (t := c :: t) (by rw [h]; rfl)
    rw [List.cons_append, trimStart_cons_of_not hhead, ← List.cons_append, trimEnd_append hback]
    exact trimEnd_eq_self fun d hd => not_isBlank_getLast?_trim (t := c :: t) (h.symm ▸ hd)

end Abridge.Text
