import Abridge.Comment.Placeholder
import Abridge.Declaration.Standing
import Mathlib.Data.List.Basic

/-!
Reading placeholders back out of a text.

A text is `IsClosed` if whatever stands behind it is read as if nothing stood in front. Texts
without a marker are closed, so are placeholders (`isClosed_omitted`), and so is what closed texts
make up. A marker that is no placeholder is harmless if what follows it stops the reading
(`Halts`). A placeholder reports its count under its own noun (`countElisions_omitted_self`) and
nothing under any other (`countElisions_omitted_other`), provided the nouns cannot be confused.
-/
namespace Abridge.Placeholder

/-- The placeholders of a text from left to right. -/
def elisions (t : Text) : List Elision :=
  elisionsFrom 0 t

/-- Whether the reading of a text goes on behind it with whatever follows. -/
def IsClosed (p : Text) : Prop :=
  ∀ r, elisions (p ++ r) = elisions p ++ elisions r

/-- Whether a character can stand in a placeholder behind its marker. -/
def isReadable (c : Char) : Bool :=
  isNounChar c || CharSet.digit.contains c

/-- Whether a text has nothing but spaces in front of its first character that cannot stand in a
placeholder, if it has one. -/
def Halts : Text → Prop
  | [] => True
  | c :: t => isReadable c = false ∨ c = ' ' ∧ Halts t

/-- Whether a text begins as the end of a placeholder does. -/
def beginsEnding : Text → Bool
  | ' ' :: c :: _ => c == 'o' || c == 'm'
  | _ => false

/-- Whether a text is read as a noun as a whole, and not only a part of it. -/
def isPlain : Text → Bool
  | [] => true
  | c :: t => isNounChar c && !beginsEnding t && isPlain t

/-! ### Texts one behind the other -/

theorem stripStart?_append (a b : Text) : (a ++ b).stripStart? a = some b :=
  List.isPrefixOf?_eq_some_iff_append_eq.mpr rfl

theorem elisionsFrom_length_append (u r : Text) : elisionsFrom u.length (u ++ r) = elisions r := by
  induction u with
  | nil => rfl
  | cons c u ih => exact ih

theorem elision?_cons_of_ne {c : Char} (hc : c ≠ marker) (t : Text) : elision? (c :: t) = none := by
  have hbeq : (marker == c) = false := beq_false_of_ne (Ne.symm hc)
  simp [elision?, Text.stripStart?, List.isPrefixOf?, hbeq]

theorem elisions_cons_of_none {c : Char} {t : Text} (h : elision? (c :: t) = none) :
    elisions (c :: t) = elisions t := by
  rw [elisions, elisionsFrom, h]
  rfl

/-- What is read at the start of a text is passed over. -/
theorem elisions_append_of_elision? {p r : Text} {e : Elision} (hne : p ≠ [])
    (h : elision? (p ++ r) = some (e, r)) : elisions (p ++ r) = e :: elisions r := by
  obtain ⟨c, t, rfl⟩ := List.exists_cons_of_ne_nil hne
  rw [List.cons_append] at h ⊢
  rw [elisions, elisionsFrom, h]
  have hskip : (t ++ r).length - r.length = t.length := by
    rw [List.length_append, Nat.add_sub_cancel]
  show e :: elisionsFrom ((t ++ r).length - r.length) (t ++ r) = e :: elisions r
  rw [hskip, elisionsFrom_length_append]

theorem elisions_append_of_not_mem {u : Text} (h : marker ∉ u) (r : Text) :
    elisions (u ++ r) = elisions r := by
  induction u with
  | nil => rfl
  | cons c u ih =>
    have hc : c ≠ marker := fun heq => h (heq ▸ List.mem_cons_self)
    have hu : marker ∉ u := fun hmem => h (List.mem_cons_of_mem c hmem)
    rw [List.cons_append, elisions_cons_of_none (elision?_cons_of_ne hc _), ih hu]

theorem elisions_of_not_mem {u : Text} (h : marker ∉ u) : elisions u = [] := by
  have := elisions_append_of_not_mem h []
  rwa [List.append_nil] at this

theorem isClosed_of_not_mem {u : Text} (h : marker ∉ u) : IsClosed u := by
  intro r
  rw [elisions_append_of_not_mem h, elisions_of_not_mem h, List.nil_append]

/-- The marker is no blank. -/
theorem not_mem_of_isBlankText {t : Text} (h : t.isBlankText = true) : marker ∉ t :=
  fun hmem => absurd (List.all_eq_true.mp h marker hmem) (by decide)

theorem IsClosed.append {p q : Text} (hp : IsClosed p) (hq : IsClosed q) : IsClosed (p ++ q) := by
  intro r
  rw [List.append_assoc, hp, hq, hp q, List.append_assoc]

/-- What is read as one placeholder, whatever follows, is closed. -/
theorem isClosed_of_elision? {p : Text} {e : Elision} (hne : p ≠ [])
    (h : ∀ r, elision? (p ++ r) = some (e, r)) : IsClosed p ∧ elisions p = [e] := by
  have hp : elisions p = [e] := by
    have hnil := elisions_append_of_elision? hne (h [])
    rwa [List.append_nil] at hnil
  refine ⟨fun r => ?_, hp⟩
  rw [elisions_append_of_elision? hne (h r), hp]
  rfl

/-! ### Markers that are no placeholders -/

theorem ending?_eq_none {t : Text} (h : t.head? ≠ some ' ') : ending? t = none := by
  cases t with
  | nil => rfl
  | cons c t =>
    have hc : ' ' ≠ c := fun heq => h (congrArg some heq.symm)
    simp [ending?, Text.stripStart?, List.isPrefixOf?, hc]

theorem ending?_space_eq_none {t : Text} (ho : t.head? ≠ some 'o') (hm : t.head? ≠ some 'm') :
    ending? (' ' :: t) = none := by
  cases t with
  | nil => rfl
  | cons c t =>
    have ho' : 'o' ≠ c := fun heq => ho (congrArg some heq.symm)
    have hm' : 'm' ≠ c := fun heq => hm (congrArg some heq.symm)
    simp [ending?, Text.stripStart?, List.isPrefixOf?, ho', hm']

/-- Where the reading stops, no letter comes next. -/
theorem Halts.head?_ne {t : Text} (h : Halts t) {c : Char} (hc : isReadable c = true)
    (hspace : c ≠ ' ') : t.head? ≠ some c := by
  cases t with
  | nil => simp
  | cons d t =>
    rintro heq
    obtain rfl : d = c := Option.some.inj heq
    rcases h with h | ⟨rfl, -⟩
    · rw [hc] at h
      cases h
    · exact hspace rfl

theorem ending?_of_halts {t : Text} (h : Halts t) : ending? t = none := by
  cases t with
  | nil => rfl
  | cons c t =>
    rcases h with h | ⟨rfl, h⟩
    · refine ending?_eq_none fun heq => ?_
      obtain rfl : c = ' ' := Option.some.inj heq
      exact absurd h (by decide)
    · exact ending?_space_eq_none (h.head?_ne (by decide) (by decide))
        (h.head?_ne (by decide) (by decide))

theorem noun?_of_halts {t : Text} (h : Halts t) : noun? t = none := by
  induction t with
  | nil => rfl
  | cons c t ih =>
    rcases h with h | ⟨rfl, h⟩
    · have hc : isNounChar c = false := (Bool.or_eq_false_iff.mp h).1
      simp [noun?, hc]
    · simp [noun?, ending?_of_halts h, ih h]

/-- A marker in front of a text that stops the reading is no placeholder. -/
theorem elision?_marker_of_halts {t : Text} (h : Halts t) : elision? (marker :: t) = none := by
  cases t with
  | nil => rfl
  | cons c t =>
    by_cases hc : c = ' '
    · subst hc
      have ht : Halts t := by
        rcases h with h | ⟨-, h⟩
        · exact absurd h (by decide)
        · exact h
      have hdigits : t.takeWhile CharSet.digit.contains = [] := by
        cases t with
        | nil => rfl
        | cons d t =>
          refine List.takeWhile_cons_of_neg ?_
          rcases ht with ht | ⟨rfl, -⟩
          · rw [(Bool.or_eq_false_iff.mp ht).2]
            exact Bool.false_ne_true
          · decide
      have hstrip : Text.stripStart? (marker :: ' ' :: t) [marker, ' '] = some t :=
        stripStart?_append [marker, ' '] t
      simp only [elision?, hstrip, Option.bind_some, hdigits, List.isEmpty_nil, if_true,
        Option.none_or, noun?_of_halts ht, Option.map_none]
    · have hbeq : (' ' == c) = false := beq_false_of_ne (Ne.symm hc)
      simp [elision?, Text.stripStart?, List.isPrefixOf?, hbeq]

theorem elisions_marker_of_halts {t : Text} (h : Halts t) : elisions (marker :: t) = elisions t :=
  elisions_cons_of_none (elision?_marker_of_halts h)

/-! ### Nouns and numbers -/

theorem beginsEnding_append_omitted {t : Text} (hne : t ≠ []) (r : Text) :
    beginsEnding (t ++ " omitted".toList ++ r) = beginsEnding t := by
  match t, hne with
  | [c], _ => unfold beginsEnding; grind
  | c :: d :: t, _ => unfold beginsEnding; grind

theorem ending?_of_beginsEnding {t : Text} (h : beginsEnding t = false) : ending? t = none := by
  by_cases hhead : t.head? = some ' '
  · cases t with
    | nil => rfl
    | cons c t =>
      obtain rfl : c = ' ' := Option.some.inj hhead
      cases t with
      | nil => rfl
      | cons d t =>
        have hd : (d == 'o' || d == 'm') = false := h
        apply ending?_space_eq_none <;> grind
  · exact ending?_eq_none hhead

/-- A plain noun is read as a whole. -/
theorem noun?_of_isPlain {noun : Text} (hplain : isPlain noun = true) (hne : noun ≠ []) (r : Text) :
    noun? (noun ++ " omitted".toList ++ r) = some (noun, r) := by
  induction noun with
  | nil => exact absurd rfl hne
  | cons c t ih =>
    rw [isPlain, Bool.and_eq_true, Bool.and_eq_true, Bool.not_eq_true'] at hplain
    obtain ⟨⟨hc, hending⟩, ht⟩ := hplain
    rw [List.cons_append, List.cons_append, noun?, if_pos hc]
    by_cases hnil : t = []
    · subst hnil
      have hstrip : ending? ([] ++ " omitted".toList ++ r) = some r := by
        rw [ending?, List.nil_append, stripStart?_append, Option.some_or]
      rw [hstrip]
    · have hnone : ending? (t ++ " omitted".toList ++ r) = none := by
        refine ending?_of_beginsEnding ?_
        rw [beginsEnding_append_omitted hnil, hending]
      rw [hnone, ih ht hnil]
      rfl

/-- Below the Arabic ones, the digits are those of ASCII. -/
theorem digit_contains_of_lt {c : Char} (h : c.toNat < 1632) :
    CharSet.digit.contains c = (decide (48 ≤ c.toNat) && decide (c.toNat < 58)) := by
  show CharSet.member false (48 :: 58 :: 1632 :: CharSet.sums 1632 _) c.toNat = _
  simp only [CharSet.member, h, if_true]
  grind

theorem digit_contains_of_isDigit {c : Char} (h : c.isDigit = true) :
    CharSet.digit.contains c = true := by
  have hrange : 48 ≤ c.toNat ∧ c.toNat ≤ 57 := by
    simpa [Char.isDigit, UInt32.le_iff_toNat_le] using h
  rw [digit_contains_of_lt (by omega)]
  simp only [Bool.and_eq_true, decide_eq_true_eq]
  omega

theorem digit_contains_of_isNounChar {c : Char} (h : isNounChar c = true) :
    CharSet.digit.contains c = false := by
  have hrange : 97 ≤ c.toNat ∧ c.toNat ≤ 122 ∨ c = '_' ∨ c = ' ' := by
    simpa [isNounChar, Char.le_def, UInt32.le_iff_toNat_le, or_assoc] using h
  rcases hrange with hrange | rfl | rfl
  · rw [digit_contains_of_lt (by omega)]
    simp only [Bool.and_eq_false_iff, decide_eq_false_iff_not]
    omega
  · decide
  · decide

theorem isDigit_decimal (n : Nat) : (decimal n).all Char.isDigit = true := by
  rw [List.all_eq_true]
  intro c hc
  exact Nat.isDigit_of_mem_toDigits (by decide) (by decide) hc

theorem not_mem_decimal (n : Nat) : marker ∉ decimal n :=
  fun hmem => absurd (List.all_eq_true.mp (isDigit_decimal n) marker hmem) (by decide)

theorem number_eq_ofDigitChars (digits : Text) :
    Text.number digits = Nat.ofDigitChars 10 digits 0 := by
  rw [Nat.ofDigitChars_eq_foldl]
  refine congrArg (fun f => List.foldl f 0 digits) ?_
  funext n c
  show n * 10 + _ = 10 * n + _
  rw [Nat.mul_comm]
  rfl

theorem number_decimal (n : Nat) : Text.number (decimal n) = n := by
  rw [number_eq_ofDigitChars]
  exact Nat.ofDigitChars_toDigits (by decide) (by decide)

/-- The digits of a number below the limit are read as that number. -/
theorem natural?_decimal {n : Nat} (h : n < Budget.countLimit) :
    Budget.natural? (decimal n) = some n := by
  have hne : (decimal n).isEmpty = false := by
    simp [decimal, Nat.toDigits_ne_nil]
  have hplus : decimal n ≠ '+' :: (decimal n).tail := by
    intro heq
    have hall := isDigit_decimal n
    rw [heq, List.all_cons, Bool.and_eq_true] at hall
    exact absurd hall.1 (by decide)
  unfold Budget.natural?
  extract_lets digits value
  have hdigits : digits = decimal n := by
    simp only [digits]
    split
    next rest heq => exact absurd (by rw [heq]; rfl) hplus
    · rfl
  have hvalue : value = n := by
    simp only [value, hdigits, number_decimal]
  rw [hvalue, hdigits]
  simp [hne, isDigit_decimal, h]

/-! ### Placeholders -/

/-- Whether a placeholder for things of a sort is read as such, for one of them and for more. -/
structure IsNoun (noun : Text) : Prop where
  ne_nil : noun ≠ []
  plural_ne_nil : plural noun ≠ []
  plain : isPlain noun = true
  plain_plural : isPlain (plural noun) = true

/-- A plain text that holds something begins with no digit. -/
theorem takeWhile_digit_of_isPlain {noun : Text} (hplain : isPlain noun = true) (hne : noun ≠ [])
    (r : Text) : (noun ++ r).takeWhile CharSet.digit.contains = [] := by
  obtain ⟨c, t, rfl⟩ := List.exists_cons_of_ne_nil hne
  rw [isPlain, Bool.and_eq_true, Bool.and_eq_true] at hplain
  refine List.takeWhile_cons_of_neg ?_
  rw [digit_contains_of_isNounChar hplain.1.1]
  exact Bool.false_ne_true

/-- A marker with a noun is read as a placeholder without a number. -/
theorem elision?_noun {noun : Text} (hplain : isPlain noun = true) (hne : noun ≠ []) (r : Text) :
    elision? ([marker, ' '] ++ noun ++ " omitted".toList ++ r) = some (⟨none, noun⟩, r) := by
  have hstrip : Text.stripStart? ([marker, ' '] ++ noun ++ " omitted".toList ++ r) [marker, ' '] =
      some (noun ++ " omitted".toList ++ r) := by
    rw [List.append_assoc, List.append_assoc, List.append_assoc]
    exact stripStart?_append _ _
  have hdigits : (noun ++ " omitted".toList ++ r).takeWhile CharSet.digit.contains = [] := by
    rw [List.append_assoc]
    exact takeWhile_digit_of_isPlain hplain hne _
  rw [elision?, hstrip]
  simp only [Option.bind_some, hdigits, List.isEmpty_nil, if_true, Option.none_or,
    noun?_of_isPlain hplain hne, Option.map_some]

/-- The digits of a number end in front of a space. -/
theorem takeWhile_digits {digits : Text} (hdigits : digits.all Char.isDigit = true) (r : Text) :
    (digits ++ ' ' :: r).takeWhile CharSet.digit.contains = digits ∧
      (digits ++ ' ' :: r).dropWhile CharSet.digit.contains = ' ' :: r := by
  have hall : ∀ c ∈ digits, CharSet.digit.contains c = true :=
    fun c hc => digit_contains_of_isDigit (List.all_eq_true.mp hdigits c hc)
  have hspace : ¬ CharSet.digit.contains ' ' = true := by decide
  constructor
  · rw [List.takeWhile_append_of_pos hall, List.takeWhile_cons_of_neg hspace, List.append_nil]
  · rw [List.dropWhile_append_of_pos hall, List.dropWhile_cons_of_neg hspace]

/-- A marker with digits and a noun is read as a placeholder with that number. -/
theorem elision?_numbered {digits noun : Text} (hdigits : digits.all Char.isDigit = true)
    (hdne : digits ≠ []) (hplain : isPlain noun = true) (hne : noun ≠ []) (r : Text) :
    elision? ([marker, ' '] ++ digits ++ [' '] ++ noun ++ " omitted".toList ++ r) =
      some (⟨some digits, noun⟩, r) := by
  have hstrip :
      Text.stripStart? ([marker, ' '] ++ digits ++ [' '] ++ noun ++ " omitted".toList ++ r)
        [marker, ' '] = some (digits ++ ' ' :: (noun ++ " omitted".toList ++ r)) := by
    simp only [List.append_assoc]
    exact stripStart?_append _ _
  obtain ⟨htake, hdrop⟩ := takeWhile_digits hdigits (noun ++ " omitted".toList ++ r)
  have hrest : Text.stripStart? (' ' :: (noun ++ " omitted".toList ++ r)) [' '] =
      some (noun ++ " omitted".toList ++ r) := stripStart?_append [' '] _
  have hempty : digits.isEmpty = false := by
    simpa using hdne
  rw [elision?, hstrip]
  simp only [Option.bind_some, htake, hdrop, hrest, hempty, noun?_of_isPlain hplain hne,
    Option.map_some]
  rfl

/-- What the placeholder for some things of a sort is read as. -/
def elisionOf (count : Nat) (noun : Text) : Elision :=
  if count = 1 then ⟨none, noun⟩ else ⟨some (decimal count), plural noun⟩

/-- A placeholder is read as such, whatever follows. -/
theorem isClosed_omitted {noun : Text} (h : IsNoun noun) (count : Nat) :
    IsClosed (omitted count noun) ∧ elisions (omitted count noun) = [elisionOf count noun] := by
  unfold omitted elisionOf
  split
  · exact isClosed_of_elision? (by simp) (elision?_noun h.plain h.ne_nil)
  · exact isClosed_of_elision? (by simp)
      (elision?_numbered (isDigit_decimal count) Nat.toDigits_ne_nil h.plain_plural
        h.plural_ne_nil)

/-! ### Counting -/

theorem countElisions_eq (t noun : Text) :
    countElisions t noun =
      total (((elisions t).filter fun e => e.noun == noun || e.noun == plural noun).map
        Elision.amount) := rfl

theorem countElisions_of_not_mem {u : Text} (h : marker ∉ u) (noun : Text) :
    countElisions u noun = 0 := by
  rw [countElisions_eq, elisions_of_not_mem h]
  rfl

theorem IsClosed.countElisions_append {p : Text} (h : IsClosed p) (r noun : Text) :
    countElisions (p ++ r) noun = countElisions p noun + countElisions r noun := by
  simp only [countElisions_eq, h r, List.filter_append, List.map_append, total_append]

/-- Whether no placeholder for the one noun is taken for one of the other. -/
def Distinct (noun other : Text) : Prop :=
  noun ≠ other ∧ noun ≠ plural other ∧ plural noun ≠ other ∧ plural noun ≠ plural other

instance (noun other : Text) : Decidable (Distinct noun other) :=
  inferInstanceAs (Decidable (_ ∧ _))

theorem amount_elisionOf {count : Nat} (h : count < Budget.countLimit) (noun : Text) :
    (elisionOf count noun).amount = count := by
  unfold elisionOf Elision.amount
  split
  next heq => exact heq.symm
  · simp [natural?_decimal h]

/-- A placeholder reports its count under its own noun. -/
theorem countElisions_omitted_self {noun : Text} (h : IsNoun noun) {count : Nat}
    (hcount : count < Budget.countLimit) : countElisions (omitted count noun) noun = count := by
  have hkept : ((elisionOf count noun).noun == noun || (elisionOf count noun).noun == plural noun) =
      true := by
    unfold elisionOf
    split <;> simp
  rw [countElisions_eq, (isClosed_omitted h count).2]
  simp [hkept, amount_elisionOf hcount]

/-- A placeholder reports nothing under a noun that it cannot be confused with. -/
theorem countElisions_omitted_other {noun other : Text} (h : IsNoun noun)
    (hdistinct : Distinct noun other) (count : Nat) :
    countElisions (omitted count noun) other = 0 := by
  have hdropped : ((elisionOf count noun).noun == other ||
      (elisionOf count noun).noun == plural other) = false := by
    obtain ⟨h1, h2, h3, h4⟩ := hdistinct
    unfold elisionOf
    split <;> simp [h1, h2, h3, h4]
  rw [countElisions_eq, (isClosed_omitted h count).2]
  simp [hdropped]

/-! ### The nouns in use -/

/-- The nouns by which things are counted. -/
def nouns : List String :=
  ["import", "comment", "function body", "method body", "statement", "function", "method", "class",
    "struct", "interface", "trait", "type", "enum", "namespace", "variable", "field", "macro"]

theorem noun_mem_nouns (kind : DeclarationKind) : kind.noun ∈ nouns := by
  cases kind <;> decide

theorem isNoun_of_mem_nouns {noun : String} (h : noun ∈ nouns) : IsNoun noun.toList := by
  have hall : ∀ noun ∈ nouns, noun.toList ≠ [] ∧ plural noun.toList ≠ [] ∧
      isPlain noun.toList = true ∧ isPlain (plural noun.toList) = true := by decide
  obtain ⟨h1, h2, h3, h4⟩ := hall noun h
  exact ⟨h1, h2, h3, h4⟩

theorem distinct_of_mem_nouns {noun other : String} (h : noun ∈ nouns) (h' : other ∈ nouns)
    (hne : noun ≠ other) : Distinct noun.toList other.toList := by
  have hall : ∀ noun ∈ nouns, ∀ other ∈ nouns, noun ≠ other →
      Distinct noun.toList other.toList := by decide
  exact hall noun h other h' hne

end Abridge.Placeholder
