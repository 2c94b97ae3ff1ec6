import Abridge.Budget.Amount
import Abridge.Proofs.Comment.Elision
import Abridge.Proofs.Text.Trim

/-!
Which texts are amounts.

`IsNumeral` and `IsSuffix` say what an amount looks like: digits, perhaps with a plus in front, and
perhaps a letter for a factor behind them. `amount` reads just the texts that, but for blanks around
them, look so and of which the digits and the product both fit in 64 bits (`amount_exact`).
-/
namespace Abridge.Budget

/-- Whether a text is one or more ASCII digits that write `d` in base ten. -/
structure IsDecimal (t : Text) (d : Nat) : Prop where
  ne_nil : t ≠ []
  isDigit : ∀ c ∈ t, c.isDigit = true
  value_eq : Nat.ofDigitChars 10 t 0 = d

/-- Whether a text writes `d` in digits, perhaps with a plus in front. -/
def IsNumeral (t : Text) (d : Nat) : Prop :=
  IsDecimal t d ∨ ∃ digits, t = '+' :: digits ∧ IsDecimal digits d

/-- What may stand behind the digits of an amount, with the factor it stands for. -/
inductive IsSuffix : Text → Nat → Prop
  | none : IsSuffix [] 1
  | thousands {gap : Text} {c : Char} (hgap : gap.isBlankText = true) (hc : c = 'k' ∨ c = 'K') :
    IsSuffix (gap ++ [c]) 1000
  | millions {gap : Text} {c : Char} (hgap : gap.isBlankText = true) (hc : c = 'm' ∨ c = 'M') :
    IsSuffix (gap ++ [c]) 1000000

/-- Whether a text writes `d` down, with a suffix for the factor `f`. -/
def Writes (t : Text) (d f : Nat) : Prop :=
  ∃ numeral suffix, t = numeral ++ suffix ∧ IsNumeral numeral d ∧ IsSuffix suffix f

/-! ### Numerals -/

section
variable {t : Text} {d n : Nat}

theorem not_isDecimal_plus (digits : Text) (d : Nat) : ¬ IsDecimal ('+' :: digits) d :=
  fun h => absurd (h.isDigit '+' List.mem_cons_self) (by decide)

theorem natural?_eq_some_iff : natural? t = some n ↔ IsNumeral t n ∧ n < countLimit := by
  have hread : ∀ digits : Text,
      (if digits.isEmpty || !digits.all Char.isDigit then none
        else if Text.number digits < countLimit then some (Text.number digits) else none) = some n ↔
      IsDecimal digits n ∧ n < countLimit := by
    intro digits
    have hvalue := Placeholder.number_eq_ofDigitChars digits
    split
    next hbad =>
      refine iff_of_false nofun fun ⟨h, _⟩ => ?_
      simp [h.ne_nil, List.all_eq_true.mpr h.isDigit] at hbad
    next hgood =>
      obtain ⟨hne, hall⟩ : digits ≠ [] ∧ ∀ c ∈ digits, c.isDigit = true := by simpa using hgood
      split
      next hlt =>
        constructor
        · intro h
          obtain rfl := Option.some.inj h
          exact ⟨⟨hne, hall, hvalue.symm⟩, hlt⟩
        · intro ⟨h, _⟩
          rw [hvalue, h.value_eq]
      next hge =>
        refine iff_of_false nofun fun ⟨h, hlt⟩ => hge ?_
        rwa [hvalue, h.value_eq]
  unfold natural?
  split
  next digits =>
    refine (hread digits).trans (and_congr_left' ⟨fun h => .inr ⟨digits, rfl, h⟩, ?_⟩)
    rintro (h | ⟨digits', heq, h⟩)
    · exact absurd h (not_isDecimal_plus digits n)
    · exact (List.cons.inj heq).2 ▸ h
  next hplus =>
    refine (hread t).trans (and_congr_left' ⟨.inl, fun h => h.resolve_right ?_⟩)
    rintro ⟨digits, rfl, -⟩
    exact hplus digits rfl

theorem isBlank_eq_false_of_isDigit {c : Char} (h : c.isDigit = true) : Text.isBlank c = false := by
  have hrange : 48 ≤ c.toNat ∧ c.toNat ≤ 57 := by
    simpa [Char.isDigit, UInt32.le_iff_toNat_le] using h
  simp only [Text.isBlank, Bool.or_eq_false_iff, Bool.and_eq_false_iff, decide_eq_false_iff_not,
    beq_eq_false_iff_ne]
  omega

theorem IsNumeral.not_isBlank (h : IsNumeral t d) : ∀ c ∈ t, Text.isBlank c = false := by
  rcases h with h | ⟨digits, rfl, h⟩
  · exact fun c hc => isBlank_eq_false_of_isDigit (h.isDigit c hc)
  · intro c hc
    rcases List.mem_cons.mp hc with rfl | hc
    · rfl
    · exact isBlank_eq_false_of_isDigit (h.isDigit c hc)

/-- A numeral ends in a digit. -/
theorem IsNumeral.exists_concat (h : IsNumeral t d) :
    ∃ front c, t = front ++ [c] ∧ c.isDigit = true := by
  rcases h with h | ⟨digits, rfl, h⟩
  · obtain ⟨front, c, rfl⟩ := (List.eq_nil_or_concat' t).resolve_left h.ne_nil
    exact ⟨front, c, rfl, h.isDigit c (by simp)⟩
  · obtain ⟨front, c, rfl⟩ := (List.eq_nil_or_concat' digits).resolve_left h.ne_nil
    exact ⟨'+' :: front, c, rfl, h.isDigit c (by simp)⟩

/-- Blanks behind a numeral are trimmed away, and nothing else. -/
theorem IsNumeral.trim_append (h : IsNumeral t d) {gap : Text} (hgap : gap.isBlankText = true) :
    (t ++ gap).trim = t := by
  have hself : t.trim = t := Text.trim_eq_self_of_ends
    (fun c hc => h.not_isBlank c (List.mem_of_mem_head? hc))
    fun c hc => h.not_isBlank c (List.mem_of_getLast? hc)
  have hempty : Text.isBlankText [] = true := rfl
  exact Text.trim_append_append hempty hgap hself

end

/-! ### Suffixes -/

section
variable {t : Text} {d f : Nat}

theorem factored_concat (front : Text) (c : Char) :
    factored (front ++ [c]) =
      if c == 'k' || c == 'K' then (front, 1000)
      else if c == 'm' || c == 'M' then (front, 1000000)
      else (front ++ [c], 1) := by
  simp [factored]

/-- The last letter tells the factor, and what is in front of it is the numeral, but for blanks. -/
theorem factored_append {numeral suffix : Text} (h : IsNumeral numeral d)
    (hsuffix : IsSuffix suffix f) :
    ∃ gap, gap.isBlankText = true ∧ factored (numeral ++ suffix) = (numeral ++ gap, f) := by
  cases hsuffix with
  | none =>
    obtain ⟨front, c, rfl, hc⟩ := h.exists_concat
    have hletter : ∀ x : Char, x.isDigit = false → (c == x) = false := by
      intro x hx
      refine beq_false_of_ne fun heq => ?_
      rw [heq, hx] at hc
      cases hc
    refine ⟨[], rfl, ?_⟩
    rw [List.append_nil, factored_concat]
    simp [hletter 'k' rfl, hletter 'K' rfl, hletter 'm' rfl, hletter 'M' rfl]
  | @thousands gap c hgap hc =>
    refine ⟨gap, hgap, ?_⟩
    rw [← List.append_assoc, factored_concat, if_pos (by simpa using hc)]
  | @millions gap c hgap hc =>
    refine ⟨gap, hgap, ?_⟩
    rw [← List.append_assoc, factored_concat]
    rcases hc with rfl | rfl <;> rfl

/-- A trimmed text is what is read as its numeral, with a suffix for the factor behind it. -/
theorem exists_suffix (ht : t.trim = t) :
    ∃ suffix, t = (factored t).1.trim ++ suffix ∧ IsSuffix suffix (factored t).2 := by
  rcases List.eq_nil_or_concat' t with rfl | ⟨front, c, rfl⟩
  · exact ⟨[], rfl, .none⟩
  have hfront : ∃ gap, front = Text.trim front ++ gap ∧ Text.isBlankText gap = true := by
    have hstart : Text.trimStart front = front := Text.trimStart_eq_self fun b hb => by
      refine Text.not_isBlank_head?_trim (t := front ++ [c]) ?_
      rw [ht, List.head?_append, Option.mem_def.mp hb]
      rfl
    rw [Text.trim, hstart]
    exact Text.exists_eq_trimEnd_append front
  obtain ⟨gap, heq, hgap⟩ := hfront
  have hsplit : front ++ [c] = Text.trim front ++ (gap ++ [c]) := by
    rw [← List.append_assoc, ← heq]
  rw [factored_concat]
  split
  next hc => exact ⟨gap ++ [c], hsplit, .thousands hgap (by simpa using hc)⟩
  next =>
    split
    next hc => exact ⟨gap ++ [c], hsplit, .millions hgap (by simpa using hc)⟩
    next => exact ⟨[], by rw [ht, List.append_nil], .none⟩

end

/-! ### Amounts -/

section
variable {text : Text} {n : Nat}

/-- What is read of a text: no number at all, a product that fits, or none that does. -/
theorem amount_cases (text : Text) :
    text.trim = [] ∧ amount text = .error .empty ∨
    text.trim ≠ [] ∧
      ((∃ d, natural? (factored text.trim).1.trim = some d ∧
          d * (factored text.trim).2 < countLimit ∧
          amount text = .ok (d * (factored text.trim).2)) ∨
        (∀ d, natural? (factored text.trim).1.trim = some d →
          ¬ d * (factored text.trim).2 < countLimit) ∧
          amount text = .error (.invalid text.trim)) := by
  unfold amount
  by_cases hnil : text.trim = []
  · exact .inl ⟨hnil, by simp [hnil]⟩
  · simp only [List.isEmpty_iff, hnil, if_false]
    refine .inr ⟨hnil, ?_⟩
    cases natural? (factored text.trim).1.trim with
    | none => exact .inr ⟨nofun, rfl⟩
    | some d =>
      by_cases hlt : d * (factored text.trim).2 < countLimit
      · exact .inl ⟨d, rfl, hlt, if_pos hlt⟩
      · exact .inr ⟨fun _ h => Option.some.inj h ▸ hlt, if_neg hlt⟩

/-- A text that is read as an amount writes it, with digits and a product below the limit. -/
theorem exists_of_amount_eq_ok (h : amount text = .ok n) :
    ∃ d f, Writes text.trim d f ∧ d < countLimit ∧ d * f < countLimit ∧ n = d * f := by
  rcases amount_cases text with ⟨-, herror⟩ | ⟨-, ⟨d, hnumber, hlt, hok⟩ | ⟨-, herror⟩⟩
  · rw [h] at herror
    cases herror
  · obtain ⟨hnumeral, hd⟩ := natural?_eq_some_iff.mp hnumber
    obtain ⟨suffix, heq, hsuffix⟩ := exists_suffix (Text.trim_trim text)
    exact ⟨d, _, ⟨_, suffix, heq, hnumeral, hsuffix⟩, hd, hlt, Except.ok.inj (h.symm.trans hok)⟩
  · rw [h] at herror
    cases herror

theorem amount_eq_ok_of_writes {d f : Nat} (h : Writes text.trim d f) (hd : d < countLimit)
    (hlt : d * f < countLimit) : amount text = .ok (d * f) := by
  obtain ⟨numeral, suffix, heq, hnumeral, hsuffix⟩ := h
  obtain ⟨gap, hgap, hfactored⟩ := factored_append hnumeral hsuffix
  have hread : natural? (factored text.trim).1.trim = some d := by
    rw [heq, hfactored, hnumeral.trim_append hgap]
    exact natural?_eq_some_iff.mpr ⟨hnumeral, hd⟩
  have hfactor : (factored text.trim).2 = f := by rw [heq, hfactored]
  rcases amount_cases text with ⟨hnil, -⟩ | ⟨-, ⟨d', hread', -, hok⟩ | ⟨hnone, -⟩⟩
  · obtain ⟨front, c, rfl, -⟩ := hnumeral.exists_concat
    rw [heq] at hnil
    simp at hnil
  · obtain rfl := Option.some.inj (hread'.symm.trans hread)
    rw [hok, hfactor]
  · exact absurd (hfactor.symm ▸ hlt) (hnone d hread)

end

/-- **Amounts are read exactly.** A text is read as `n` just if, but for blanks around it, it writes
digits for a number `d` below 2⁶⁴ with a suffix for a factor `f`, where their product is below 2⁶⁴
too, and `n` is that product. Every other text is refused, as empty or by what it says. -/
theorem amount_exact (text : Text) :
    (∀ n, amount text = .ok n ↔
      ∃ d f, Writes text.trim d f ∧ d < UInt64.size ∧ d * f < UInt64.size ∧ n = d * f) ∧
    ((∃ n, amount text = .ok n) ∨
      amount text = .error (if text.trim = [] then .empty else .invalid text.trim)) := by
  refine ⟨fun n => ⟨exists_of_amount_eq_ok, ?_⟩, ?_⟩
  · rintro ⟨d, f, h, hd, hlt, rfl⟩
    exact amount_eq_ok_of_writes h hd hlt
  · rcases amount_cases text with ⟨hnil, herror⟩ | ⟨hne, ⟨d, -, -, hok⟩ | ⟨-, herror⟩⟩
    · exact .inr (by rw [herror, if_pos hnil])
    · exact .inl ⟨_, hok⟩
    · exact .inr (by rw [herror, if_neg hne])

end Abridge.Budget
