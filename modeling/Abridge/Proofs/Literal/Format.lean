import Abridge.Proofs.Literal.Units

/-!
Format strings and where they are cut.

In a format string, braces stand in pairs: a value has one at each end, and two of a sort stand for
one that is meant as it is (`IsFormatUnit`). The scanner knows two opening braces for one unit but
takes closing braces one by one, so that it offers every end of a unit and, beyond that, the place
between two closing braces (`pieces`). Cut there, what is left ends in a brace that nothing opens,
and only there (`cutPoints_part_closing_braces`).
-/
namespace Abridge.Literal

/-! ### Format strings -/

/-- A unit of a format string, and the text behind it: an escape sequence, a value in braces, two
braces of a sort, or a character that is none of these. -/
inductive IsFormatUnit : Text → Text → Prop
  | escape {sequence rest : Text} (h : IsEscape sequence rest) :
      IsFormatUnit ('\\' :: sequence) rest
  | field {t : Text} (h : IsBraced ('\x7b' :: t)) (hsingle : t.head? ≠ some '\x7b')
      (rest : Text) : IsFormatUnit ('\x7b' :: t) rest
  | opening (rest : Text) : IsFormatUnit ['\x7b', '\x7b'] rest
  | closing (rest : Text) : IsFormatUnit ['\x7d', '\x7d'] rest
  | character {c : Char} (hc : c ∉ ['\\', '\x7b', '\x7d']) (rest : Text) : IsFormatUnit [c] rest

/-- Whether a text is a format string. -/
def IsFormat (t : Text) : Prop :=
  ∃ us, t = us.flatten ∧ IsRow IsFormatUnit [] us

/-- But for two closing braces, these are units of a string; a closing brace alone is none of
them. -/
theorem IsFormatUnit.eq_or_isUnit {unit rest : Text} (h : IsFormatUnit unit rest) :
    unit = ['\x7d', '\x7d'] ∨ IsUnit .brace unit rest ∧ unit ≠ ['\x7d'] := by
  cases h with
  | escape h => exact .inr ⟨.escape h, by simp⟩
  | field h hsingle => exact .inr ⟨.field h hsingle rest, by simp⟩
  | opening => exact .inr ⟨.doubled rest, by simp⟩
  | closing => exact .inl rfl
  | character hc =>
    simp only [List.mem_cons, List.not_mem_nil, or_false, not_or] at hc
    exact .inr ⟨.character hc.1 (by simpa [opens] using hc.2.1), by simpa using hc.2.2⟩

theorem IsFormatUnit.ne_nil {unit rest : Text} (h : IsFormatUnit unit rest) : unit ≠ [] := by
  cases h <;> exact List.cons_ne_nil _ _

theorem IsRun.of_append {p : Char → Bool} {n : Nat} {front rest tail : Text}
    (h : IsRun p n front (rest ++ tail)) : IsRun p n front rest := by
  refine ⟨h.picked, h.length_le, h.longest.imp_right fun hlongest c hc => hlongest c ?_⟩
  exact List.mem_head?_append_of_mem_head? hc

/-- An escape sequence stays one when the string is cut somewhere behind it. -/
theorem IsEscape.of_append {sequence rest tail : Text} (h : IsEscape sequence (rest ++ tail)) :
    IsEscape sequence rest := by
  have hhead : ∀ front : Text, (front ++ rest).head? = some '\x7b' →
      (front ++ (rest ++ tail)).head? = some '\x7b' := fun front hfront => by
    rw [← List.append_assoc]
    exact List.mem_head?_append_of_mem_head? hfront
  generalize htext : rest ++ tail = text at h
  cases h with
  | missing =>
    obtain ⟨rfl, -⟩ := List.append_eq_nil_iff.mp htext
    exact .missing
  | braced hkind hinside => exact .braced hkind hinside rest
  | unclosed hkind hinside =>
    obtain ⟨rfl, -⟩ := List.append_eq_nil_iff.mp htext
    exact .unclosed hkind hinside
  | hexadecimal hkind hopen hrun =>
    subst htext
    exact .hexadecimal hkind (fun h => hopen (hhead _ h)) hrun.of_append
  | octal hkind hrun =>
    subst htext
    exact .octal hkind hrun.of_append
  | character hkind hopen hdigit =>
    subst htext
    exact .character hkind (fun hc h => hopen hc (hhead [] h)) hdigit

theorem IsFormatUnit.of_append {unit rest tail : Text} (h : IsFormatUnit unit (rest ++ tail)) :
    IsFormatUnit unit rest := by
  cases h with
  | escape h => exact .escape h.of_append
  | field h hsingle => exact .field h hsingle rest
  | opening => exact .opening rest
  | closing => exact .closing rest
  | character hc => exact .character hc rest

theorem IsRow.mono {front rest : Text} {us : List Text} (h : IsRow IsFormatUnit rest us)
    (hfront : front <+: rest) : IsRow IsFormatUnit front us := by
  obtain ⟨tail, rfl⟩ := hfront
  induction us with
  | nil => trivial
  | cons unit us ih =>
    obtain ⟨hunit, hus⟩ := h
    rw [← List.append_assoc] at hunit
    exact ⟨hunit.of_append, ih hus⟩

/-- A text begins with one unit only. -/
theorem IsFormatUnit.eq_of_append_eq {unit rest unit' rest' : Text} (h : IsFormatUnit unit rest)
    (h' : IsFormatUnit unit' rest') (heq : unit ++ rest = unit' ++ rest') :
    unit = unit' ∧ rest = rest' := by
  -- Two closing braces are not read as one unit, but no other unit begins with one of them.
  have hclosing : ∀ {unit rest tail : Text}, IsUnit .brace unit rest → unit ≠ ['\x7d'] →
      ['\x7d', '\x7d'] ++ tail ≠ unit ++ rest := fun {unit rest tail} hunit hne heq => by
    have hread : unit? .brace (['\x7d', '\x7d'] ++ tail) = some (['\x7d'], '\x7d' :: tail) := rfl
    rw [heq, unit?_append hunit, Option.some.injEq, Prod.mk.injEq] at hread
    exact hne hread.1
  rcases h.eq_or_isUnit with rfl | ⟨hunit, hne⟩ <;>
    rcases h'.eq_or_isUnit with rfl | ⟨hunit', hne'⟩
  · exact ⟨rfl, List.append_cancel_left heq⟩
  · exact absurd heq (hclosing hunit' hne')
  · exact absurd heq.symm (hclosing hunit hne)
  · have hread := unit?_append hunit
    rw [heq, unit?_append hunit', Option.some.injEq, Prod.mk.injEq] at hread
    exact ⟨hread.1.symm, hread.2.symm⟩

/-- A format string does not end in one closing brace behind its units. -/
theorem not_isFormat_append_closing {us : List Text} (h : IsRow IsFormatUnit ['\x7d'] us) :
    ¬ IsFormat (us.flatten ++ ['\x7d']) := by
  rintro ⟨others, heq, hothers⟩
  induction us generalizing others with
  | nil =>
    cases others with
    | nil => cases heq
    | cons unit others =>
      obtain ⟨hunit, -⟩ := hothers
      rcases List.append_eq_singleton_iff.mp heq.symm with ⟨rfl, -⟩ | ⟨rfl, -⟩
      · exact hunit.ne_nil rfl
      · cases hunit with
        | character hc => simp at hc
  | cons unit us ih =>
    cases others with
    | nil => simp at heq
    | cons unit' others =>
      rw [List.flatten_cons, List.flatten_cons, List.append_assoc] at heq
      have hsame := h.1.eq_of_append_eq hothers.1 (by rwa [List.append_nil])
      exact ih h.2 others (by simpa using hsame.2) hothers.2

/-! ### The cuts -/

/-- What the scanner takes a unit for. -/
def pieces (unit : Text) : List Text :=
  if unit = ['\x7d', '\x7d'] then [['\x7d'], ['\x7d']] else [unit]

theorem pieces_of_isUnit {unit rest : Text} (h : IsUnit .brace unit rest) :
    pieces unit = [unit] := by
  refine if_neg ?_
  rintro rfl
  cases h

theorem flatten_flatMap_pieces (us : List Text) : (us.flatMap pieces).flatten = us.flatten := by
  have hpieces : ∀ unit, (pieces unit).flatten = unit := fun unit => by
    unfold pieces
    split
    next hunit => rw [hunit]; rfl
    · exact List.flatten_singleton
  induction us with
  | nil => rfl
  | cons unit us ih =>
    rw [List.flatMap_cons, List.flatten_append, ih, hpieces, List.flatten_cons]

/-- The scanner reads a format string to its end. -/
theorem isRow_pieces {rest : Text} {us : List Text} (h : IsRow IsFormatUnit rest us) :
    IsRow (IsUnit .brace) rest (us.flatMap pieces) := by
  induction us with
  | nil => trivial
  | cons unit us ih =>
    obtain ⟨hunit, hus⟩ := h
    rw [List.flatMap_cons, isRow_append, flatten_flatMap_pieces]
    refine ⟨?_, ih hus⟩
    rcases hunit.eq_or_isUnit with rfl | ⟨hunit, -⟩
    · exact ⟨.character (by decide) rfl, .character (by decide) rfl, trivial⟩
    · rw [pieces_of_isUnit hunit]
      exact ⟨hunit, trivial⟩

theorem units_of_isRow {us : List Text} (h : IsRow IsFormatUnit [] us) :
    units .brace us.flatten = us.flatMap pieces := by
  have hunits := units_append (isRow_pieces h)
  rwa [flatten_flatMap_pieces, List.append_nil, units_of_isStuck (.inl rfl),
    List.append_nil] at hunits

/-- An offset between two closing braces that stand for one. -/
def PartsClosing (us : List Text) (p : Nat) : Prop :=
  ∃ front back, us = front ++ ['\x7d', '\x7d'] :: back ∧ p = Text.size front.flatten + 1

theorem size_append_closing (t : Text) : Text.size (t ++ ['\x7d']) = t.size + 1 :=
  Text.size_append t ['\x7d']

/-- The scanner stops behind each unit, and between two closing braces. -/
theorem exists_of_flatMap_pieces {us front back : List Text}
    (h : us.flatMap pieces = front ++ back) :
    (∃ first last, us = first ++ last ∧ front.flatten = first.flatten) ∨
      ∃ first last, us = first ++ ['\x7d', '\x7d'] :: last ∧
        front.flatten = first.flatten ++ ['\x7d'] := by
  induction us generalizing front with
  | nil =>
    obtain ⟨rfl, -⟩ := List.append_eq_nil_iff.mp h.symm
    exact .inl ⟨[], [], rfl, rfl⟩
  | cons unit us ih =>
    have hstep : ∀ {front : List Text}, us.flatMap pieces = front ++ back →
        (∃ first last, unit :: us = first ++ last ∧
          unit ++ front.flatten = first.flatten) ∨
        ∃ first last, unit :: us = first ++ ['\x7d', '\x7d'] :: last ∧
          unit ++ front.flatten = first.flatten ++ ['\x7d'] := fun hfront => by
      rcases ih hfront with ⟨first, last, rfl, hflat⟩ | ⟨first, last, rfl, hflat⟩
      · exact .inl ⟨unit :: first, last, rfl, by rw [hflat, List.flatten_cons]⟩
      · exact .inr ⟨unit :: first, last, rfl, by
          rw [hflat, List.flatten_cons, List.append_assoc]⟩
    cases front with
    | nil => exact .inl ⟨[], unit :: us, rfl, rfl⟩
    | cons piece front =>
      rw [List.flatMap_cons, List.cons_append] at h
      by_cases hunit : unit = ['\x7d', '\x7d']
      · subst hunit
        obtain ⟨rfl, hrest⟩ : ['\x7d'] = piece ∧ ['\x7d'] :: us.flatMap pieces = front ++ back :=
          List.cons.inj h
        cases front with
        | nil => exact .inr ⟨[], us, rfl, rfl⟩
        | cons piece front =>
          obtain ⟨rfl, hlast⟩ : ['\x7d'] = piece ∧ us.flatMap pieces = front ++ back :=
            List.cons.inj hrest
          exact hstep hlast
      · rw [pieces, if_neg hunit] at h
        obtain ⟨rfl, hrest⟩ : unit = piece ∧ us.flatMap pieces = front ++ back := List.cons.inj h
        exact hstep hrest

/-- A format string may be cut behind each of its units and between two closing braces. -/
theorem mem_cutPoints_of_isRow {us : List Text} (h : IsRow IsFormatUnit [] us) {p : Nat} :
    p ∈ cutPoints .brace us.flatten ↔
      (∃ front back, us = front ++ back ∧ p = Text.size front.flatten) ∨ PartsClosing us p := by
  rw [mem_cutPoints, units_of_isRow h]
  constructor
  · rintro ⟨front, back, hus, rfl⟩
    rcases exists_of_flatMap_pieces hus with ⟨first, last, rfl, hflat⟩ | ⟨first, last, rfl, hflat⟩
    · exact .inl ⟨first, last, rfl, by rw [hflat]⟩
    · exact .inr ⟨first, last, rfl, by rw [hflat, size_append_closing]⟩
  · rintro (⟨front, back, rfl, rfl⟩ | ⟨front, back, rfl, rfl⟩)
    · refine ⟨front.flatMap pieces, back.flatMap pieces, List.flatMap_append, ?_⟩
      rw [flatten_flatMap_pieces]
    · refine ⟨front.flatMap pieces ++ [['\x7d']], ['\x7d'] :: back.flatMap pieces, ?_, ?_⟩
      · simp [pieces]
      · rw [List.flatten_append, flatten_flatMap_pieces, List.flatten_singleton,
          size_append_closing]

/-- A format string may be cut behind each of its units, and between two closing braces that stand
for one. What stands before a cut is a format string in the first case, and in the second it is
none. -/
theorem cutPoints_part_closing_braces {us : List Text} (h : IsRow IsFormatUnit [] us) (p : Nat) :
    (p ∈ cutPoints .brace us.flatten ↔
      (∃ front back, us = front ++ back ∧ p = Text.size front.flatten) ∨ PartsClosing us p) ∧
    (p ∈ cutPoints .brace us.flatten →
      (IsFormat (Text.before us.flatten p) ↔ ¬ PartsClosing us p)) := by
  refine ⟨mem_cutPoints_of_isRow h, fun hp => ⟨?_, fun hnot => ?_⟩⟩
  · rintro hformat ⟨front, back, rfl, rfl⟩
    obtain ⟨hfront, -⟩ := isRow_append.mp h
    have hbefore : Text.before (front ++ ['\x7d', '\x7d'] :: back).flatten
        (Text.size front.flatten + 1) = front.flatten ++ ['\x7d'] := by
      have hsplit : (front ++ ['\x7d', '\x7d'] :: back).flatten =
          (front.flatten ++ ['\x7d']) ++ ('\x7d' :: back.flatten) := by simp
      rw [← size_append_closing, hsplit, Text.before_append_size]
    rw [hbefore] at hformat
    exact not_isFormat_append_closing (hfront.mono ⟨'\x7d' :: back.flatten, by simp⟩) hformat
  · rcases (mem_cutPoints_of_isRow h).mp hp with ⟨front, back, rfl, rfl⟩ | hparts
    · rw [List.flatten_append, Text.before_append_size]
      exact ⟨front, rfl, (isRow_append.mp h).1.mono List.nil_prefix⟩
    · exact absurd hparts hnot

/-- `a}}{b}` may be cut behind each unit and between the closing braces. -/
theorem cutPoints_part_closing_braces_mixed :
    IsRow IsFormatUnit [] [['a'], ['\x7d', '\x7d'], ['\x7b', 'b', '\x7d']] ∧
      cutPoints .brace ['a', '\x7d', '\x7d', '\x7b', 'b', '\x7d'] = [0, 1, 2, 3, 6] ∧
      IsFormat (Text.before ['a', '\x7d', '\x7d', '\x7b', 'b', '\x7d'] 3) ∧
      ¬ IsFormat (Text.before ['a', '\x7d', '\x7d', '\x7b', 'b', '\x7d'] 2) := by
  have hfield : IsBraced ['\x7b', 'b', '\x7d'] := ⟨['\x7b', 'b'], rfl, by decide, by decide⟩
  have hrow : IsRow IsFormatUnit [] [['a'], ['\x7d', '\x7d'], ['\x7b', 'b', '\x7d']] :=
    ⟨.character (by decide) _, .closing _, .field hfield (by decide) [], trivial⟩
  have hparts : ¬ PartsClosing [['a'], ['\x7d', '\x7d'], ['\x7b', 'b', '\x7d']] 3 := by
    rintro ⟨_ | ⟨first, _ | ⟨second, _ | ⟨third, front⟩⟩⟩, back, heq, hp⟩
    · cases heq
    · obtain ⟨rfl, -⟩ := List.cons.inj heq
      cases hp
    · cases heq
    · simp at heq
  exact ⟨hrow, by decide +kernel,
    ((cutPoints_part_closing_braces hrow 3).2 (by decide +kernel)).mpr hparts,
    fun hformat => ((cutPoints_part_closing_braces hrow 2).2 (by decide +kernel)).mp hformat
      ⟨[['a']], _, rfl, rfl⟩⟩

/-- `}}` is a format string and may be cut between its braces, which leaves none. -/
theorem cutPoints_leave_closing_brace :
    ¬ ∀ content, IsFormat content →
      ∀ p ∈ cutPoints .brace content, IsFormat (content.before p) := by
  intro hkeeps
  have hformat : IsFormat ['\x7d', '\x7d'] := ⟨[['\x7d', '\x7d']], rfl, .closing [], trivial⟩
  have hcut : 1 ∈ cutPoints .brace ['\x7d', '\x7d'] := by decide +kernel
  exact @not_isFormat_append_closing [] trivial (hkeeps _ hformat 1 hcut)

end Abridge.Literal
