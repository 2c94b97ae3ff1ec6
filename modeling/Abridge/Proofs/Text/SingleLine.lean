import Abridge.Proofs.Text.Trim
import Abridge.Proofs.Text.Words

/-!
A text on one line.

The words of a text one space apart are the text itself with each stretch of blanks as one space and
none at its ends (`singleLine_eq_collapse`). Read so, from the left and one character at a time, a
text can be followed into its single line: it gets no longer (`size_singleLine_le`), keeps its words
(`length_words_singleLine`), and is not changed a second time (`singleLine_singleLine`).
-/
namespace Abridge.Text

/-- A text with each stretch of blanks as one space and none at its end; it begins with a space
itself if `spaced` and there is something to begin. -/
def collapse : Bool → Text → Text
  | _, [] => []
  | spaced, c :: t =>
    if isBlank c then collapse true t
    else if spaced then ' ' :: c :: collapse false t
    else c :: collapse false t

theorem isBlank_space : isBlank ' ' = true := by decide

section
variable {c : Char} {t : Text}

theorem collapse_of_isBlank (spaced : Bool) (hc : isBlank c = true) (t : Text) :
    collapse spaced (c :: t) = collapse true t :=
  if_pos hc

theorem collapse_false_cons (hc : isBlank c = false) (t : Text) :
    collapse false (c :: t) = c :: collapse false t := by
  simp [collapse, hc]

theorem collapse_true_cons (hc : isBlank c = false) (t : Text) :
    collapse true (c :: t) = ' ' :: collapse false (c :: t) := by
  simp [collapse, hc]

theorem head?_collapse_true (h : (collapse true t).head? = some c) : c = ' ' := by
  induction t with
  | nil => cases h
  | cons d t ih =>
    cases hd : isBlank d with
    | true =>
      rw [collapse_of_isBlank _ hd] at h
      exact ih h
    | false =>
      rw [collapse_true_cons hd] at h
      exact (Option.some.inj h).symm

/-! ### The words of a text -/

theorem join_cons (sep w : Text) (ws : List Text) :
    join sep (w :: ws) = w ++ ws.flatMap (sep ++ ·) := by
  induction ws generalizing w with
  | nil => exact (List.append_nil w).symm
  | cons v ws ih => rw [join, ih, List.flatMap_cons, List.append_assoc, List.append_assoc]; simp

/-- What is collapsed are the pieces between blanks that are not empty. The first piece has no space
in front of it unless there is one. -/
theorem collapse_eq (t : Text) :
    (∀ piece rest, splitAt isBlank t = piece :: rest → collapse false t =
      piece ++ (rest.filter (!·.isEmpty)).flatMap ([' '] ++ ·)) ∧
    collapse true t = (words t).flatMap ([' '] ++ ·) := by
  induction t with
  | nil => exact ⟨by rintro _ _ ⟨⟩; rfl, rfl⟩
  | cons c t ih =>
    cases hc : isBlank c with
    | true =>
      have hsplit := splitAt_cons_of_break hc t
      refine ⟨fun piece rest h => ?_, ?_⟩
      · obtain ⟨rfl, rfl⟩ := List.cons.inj (hsplit.symm.trans h)
        rw [collapse_of_isBlank _ hc, ih.2]
        rfl
      · rw [collapse_of_isBlank _ hc, ih.2, words, words, hsplit]
        rfl
    | false =>
      obtain ⟨piece, rest, hsplit, hcons⟩ := splitAt_cons_of_not hc t
      have hfalse : collapse false (c :: t) =
          (c :: piece) ++ (rest.filter (!·.isEmpty)).flatMap ([' '] ++ ·) := by
        rw [collapse_false_cons hc, ih.1 piece rest hsplit]
        rfl
      refine ⟨fun first others h => ?_, ?_⟩
      · obtain ⟨rfl, rfl⟩ := List.cons.inj (hcons.symm.trans h)
        exact hfalse
      · rw [collapse_true_cons hc, hfalse, words, hcons]
        rfl

theorem words_cons_of_isBlank (hc : isBlank c = true) (t : Text) : words (c :: t) = words t := by
  rw [words, splitAt_cons_of_break hc]
  rfl

/-- A text on one line is the text without blanks in front, collapsed. -/
theorem singleLine_eq_collapse (t : Text) : singleLine t = collapse false (trimStart t) := by
  induction t with
  | nil => rfl
  | cons c t ih =>
    cases hc : isBlank c with
    | true =>
      rw [trimStart_cons_of_isBlank hc, singleLine, words_cons_of_isBlank hc]
      exact ih
    | false =>
      obtain ⟨piece, rest, -, hcons⟩ := splitAt_cons_of_not hc t
      rw [trimStart_cons_of_not hc, (collapse_eq _).1 _ _ hcons, singleLine, words, hcons]
      exact join_cons [' '] (c :: piece) _

/-! ### Size and words -/

theorem size_collapse_le (t : Text) :
    size (collapse false t) ≤ size t ∧ size (collapse true t) ≤ size t + 1 := by
  induction t with
  | nil => exact ⟨Nat.le_refl 0, Nat.zero_le 1⟩
  | cons c t ih =>
    have hpos := c.utf8Size_pos
    cases hc : isBlank c with
    | true =>
      simp only [collapse_of_isBlank _ hc, size_cons]
      omega
    | false =>
      have hspace : Char.utf8Size ' ' = 1 := rfl
      simp only [collapse_true_cons hc, collapse_false_cons hc, size_cons]
      omega

theorem size_trimStart_le (t : Text) : size (trimStart t) ≤ size t := by
  induction t with
  | nil => exact Nat.le_refl 0
  | cons c t ih =>
    cases hc : isBlank c with
    | true =>
      rw [trimStart_cons_of_isBlank hc, size_cons]
      exact Nat.le_add_left_of_le ih
    | false => exact Nat.le_of_eq (congrArg size (trimStart_cons_of_not hc t))

theorem size_singleLine_le (t : Text) : size (singleLine t) ≤ size t := by
  rw [singleLine_eq_collapse]
  exact Nat.le_trans (size_collapse_le _).1 (size_trimStart_le t)

/-- Words begin where they did; a space in front makes one begin. -/
theorem wordStarts_collapse (free : Bool) (t : Text) :
    wordStarts free (collapse false t) = wordStarts free t ∧
      wordStarts free (collapse true t) = wordStarts true t := by
  induction t generalizing free with
  | nil => exact ⟨rfl, rfl⟩
  | cons c t ih =>
    cases hc : isBlank c with
    | true => simp [collapse_of_isBlank _ hc, wordStarts, hc, ih]
    | false =>
      simp [collapse_true_cons hc, collapse_false_cons hc, wordStarts, hc, ih, isBlank_space]

theorem length_words_singleLine (t : Text) : (words (singleLine t)).length = (words t).length := by
  rw [singleLine_eq_collapse, length_words, length_words, (wordStarts_collapse true _).1]
  induction t with
  | nil => rfl
  | cons c t ih =>
    cases hc : isBlank c with
    | true => rw [trimStart_cons_of_isBlank hc, ih, wordStarts, hc]; simp
    | false => rw [trimStart_cons_of_not hc]

/-! ### Blanks -/

/-- The only blanks left are spaces. -/
theorem eq_space_of_mem_collapse {spaced : Bool} (h : c ∈ collapse spaced t)
    (hc : isBlank c = true) : c = ' ' := by
  induction t generalizing spaced with
  | nil => cases h
  | cons d t ih =>
    cases hd : isBlank d with
    | true =>
      rw [collapse_of_isBlank _ hd] at h
      exact ih h
    | false =>
      have hne : c ≠ d := by
        rintro rfl
        rw [hd] at hc
        cases hc
      have hfalse : c ∈ collapse false (d :: t) → c = ' ' := by
        rw [collapse_false_cons hd]
        exact fun h => ih (List.mem_of_ne_of_mem hne h)
      cases spaced with
      | false => exact hfalse h
      | true =>
        rw [collapse_true_cons hd] at h
        exact (List.mem_cons.mp h).elim id hfalse

theorem eq_space_of_mem_singleLine (h : c ∈ singleLine t) (hc : isBlank c = true) : c = ' ' :=
  eq_space_of_mem_collapse (singleLine_eq_collapse t ▸ h) hc

/-- No blank is left at the end. -/
theorem isBlank_of_mem_getLast?_collapse {spaced : Bool}
    (h : c ∈ (collapse spaced t).getLast?) : isBlank c = false := by
  induction t generalizing spaced with
  | nil => cases h
  | cons d t ih =>
    cases hd : isBlank d with
    | true =>
      rw [collapse_of_isBlank _ hd] at h
      exact ih h
    | false =>
      have hfalse : c ∈ (collapse false (d :: t)).getLast? → isBlank c = false := by
        rw [collapse_false_cons hd, List.getLast?_cons]
        cases hlast : (collapse false t).getLast? with
        | none =>
          rintro ⟨⟩
          exact hd
        | some e =>
          rintro ⟨⟩
          exact ih hlast
      cases spaced with
      | false => exact hfalse h
      | true =>
        rw [collapse_true_cons hd, collapse_false_cons hd, List.getLast?_cons_cons,
          ← collapse_false_cons hd] at h
        exact hfalse h

/-- Collapsing goes on behind a blank as if it began there. -/
theorem collapse_append_of_isBlank (spaced : Bool) (s : Text) (hc : isBlank c = true) (t : Text) :
    collapse spaced (s ++ c :: t) = collapse spaced s ++ collapse true t := by
  induction s generalizing spaced with
  | nil => exact collapse_of_isBlank spaced hc t
  | cons d s ih =>
    cases hd : isBlank d with
    | true => simp only [List.cons_append, collapse_of_isBlank _ hd, ih]
    | false =>
      cases spaced <;>
        simp only [List.cons_append, collapse_true_cons hd, collapse_false_cons hd, ih]

/-! ### Nothing left to do -/

theorem collapse_collapse (t : Text) :
    collapse false (collapse false t) = collapse false t ∧
      collapse false (collapse true t) = collapse true t := by
  induction t with
  | nil => exact ⟨rfl, rfl⟩
  | cons c t ih =>
    cases hc : isBlank c with
    | true => simp only [collapse_of_isBlank _ hc, ih, and_self]
    | false =>
      simp only [collapse_true_cons hc, collapse_false_cons hc, ih,
        collapse_of_isBlank _ isBlank_space, and_self]

theorem trimStart_singleLine (t : Text) : trimStart (singleLine t) = singleLine t := by
  rw [singleLine_eq_collapse]
  rcases trimStart_eq_nil_or t with h | ⟨c, rest, h, hc⟩
  · rw [h]; rfl
  · rw [h, collapse_false_cons hc, trimStart_cons_of_not hc]

@[simp] theorem singleLine_singleLine (t : Text) : singleLine (singleLine t) = singleLine t := by
  rw [singleLine_eq_collapse, trimStart_singleLine, singleLine_eq_collapse, (collapse_collapse _).1]

theorem trim_singleLine (t : Text) : (singleLine t).trim = singleLine t := by
  refine trim_eq_self (trimStart_singleLine t) fun c hc => ?_
  rw [singleLine_eq_collapse] at hc
  exact isBlank_of_mem_getLast?_collapse hc

end

end Abridge.Text
