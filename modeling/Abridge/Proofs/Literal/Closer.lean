import Abridge.Literal.Trim
import Abridge.Proofs.Literal.Units

/-!
Where a string ends.

A string is read from its opener on until its closer is met, and a backslash hides the character
behind it (`untilCloser?`). A string ends itself if that is behind its content
(`StringShape.EndsItself`). Cut between two units, a string that is closed by one quote ends itself
again. One that is closed by three does so unless what is kept ends in a quote that is not hidden:
this quote and two of the three are met first (`cut_endsItself_iff`).
-/
namespace Abridge

namespace Literal

/-! ### Hidden characters -/

/-- Whether a text hides the character behind it; `hidden` says whether its own first character is
hidden. -/
def hides : Bool → Text → Bool
  | hidden, [] => hidden
  | hidden, c :: t => hides (!hidden && c == '\\') t

/-- A text after another one begins hidden if the other one hides what comes. -/
theorem hides_append (hidden : Bool) (s t : Text) :
    hides hidden (s ++ t) = hides (hides hidden s) t := by
  induction s generalizing hidden with
  | nil => rfl
  | cons c s ih => exact ih _

theorem hides_append_singleton (hidden : Bool) (t : Text) {c : Char} (hc : c ≠ '\\') :
    hides hidden (t ++ [c]) = false := by
  rw [hides_append, hides, beq_false_of_ne hc, Bool.and_false]
  rfl

theorem hides_of_not_mem {t : Text} (h : '\\' ∉ t) : hides false t = false := by
  induction t with
  | nil => rfl
  | cons c t ih =>
    have hc : (c == '\\') = false := beq_false_of_ne (List.ne_of_not_mem_cons h).symm
    rw [hides, hc]
    exact ih (List.not_mem_of_not_mem_cons h)

theorem hides_of_isRun {p : Char → Bool} (hp : p '\\' = false) {n : Nat} {front rest : Text}
    (h : IsRun p n front rest) : hides false front = false := by
  refine hides_of_not_mem fun hmem => ?_
  rw [h.picked _ hmem] at hp
  cases hp

/-- An escape sequence that is not cut short by the end of the text hides nothing behind it. -/
theorem hides_of_isEscape {sequence rest : Text} (h : IsEscape sequence rest) (hrest : rest ≠ []) :
    hides true sequence = false := by
  cases h with
  | missing => exact absurd rfl hrest
  | @braced kind inside => exact hides_append_singleton true (kind :: '\x7b' :: inside) (by decide)
  | unclosed => exact absurd rfl hrest
  | hexadecimal _ _ hrun => exact hides_of_isRun (by decide) hrun
  | octal _ hrun => exact hides_of_isRun (by decide) hrun
  | character => rfl

theorem hides_of_isUnit {unit rest : Text} (h : IsUnit .none unit rest) (hrest : rest ≠ []) :
    hides false unit = false := by
  cases h with
  | escape h => exact hides_of_isEscape h hrest
  | character hc => exact beq_false_of_ne hc

/-- Units with something behind them hide nothing of it. -/
theorem hides_of_isRow {us : List Text} {rest : Text} (h : IsRow (IsUnit .none) rest us)
    (hrest : rest ≠ []) : hides false us.flatten = false := by
  induction us with
  | nil => rfl
  | cons unit us ih =>
    rw [List.flatten_cons, hides_append, hides_of_isUnit h.1 (by simp [hrest])]
    exact ih h.2

/-! ### The closer -/

/-- The text in front of the first place where a closer is met, if it is; `hidden` says whether the
first character is hidden by a backslash. -/
def untilCloser? (closer : Text) : Bool → Text → Option Text
  | _, [] => none
  | hidden, c :: t =>
    if !hidden && Text.startsWith (c :: t) closer then some []
    else (untilCloser? closer (!hidden && c == '\\') t).map (c :: ·)

theorem untilCloser?_of_met {closer : Text} {c : Char} {t : Text} (h : closer <+: c :: t) :
    untilCloser? closer false (c :: t) = some [] :=
  if_pos (List.isPrefixOf_iff_prefix.mpr h)

theorem untilCloser?_of_not_met {closer : Text} {hidden : Bool} {c : Char} {t : Text}
    (h : ¬ (hidden = false ∧ closer <+: c :: t)) :
    untilCloser? closer hidden (c :: t) =
      (untilCloser? closer (!hidden && c == '\\') t).map (c :: ·) := by
  refine if_neg fun hmet => h ?_
  obtain ⟨hhidden, hmet⟩ := Bool.and_eq_true_iff.mp hmet
  exact ⟨by simpa using hhidden, List.isPrefixOf_iff_prefix.mp hmet⟩

/-- What stands in front of a closer does not hide it. -/
theorem hides_of_untilCloser? {closer : Text} {hidden : Bool} {t front : Text}
    (h : untilCloser? closer hidden t = some front) : hides hidden front = false := by
  induction t generalizing hidden front with
  | nil => cases h
  | cons c t ih =>
    by_cases hmet : hidden = false ∧ closer <+: c :: t
    · obtain ⟨rfl, hmet⟩ := hmet
      obtain rfl := Option.some.inj ((untilCloser?_of_met hmet).symm.trans h)
      rfl
    · rw [untilCloser?_of_not_met hmet] at h
      obtain ⟨rest, hrest, rfl⟩ := Option.map_eq_some_iff.mp h
      exact @ih _ rest hrest

/-- Whether the last character of a text is `q` and not hidden. -/
def EndsBare (hidden : Bool) (q : Char) (t : Text) : Prop :=
  ∃ front, t = front ++ [q] ∧ hides hidden front = false

end Literal

/-- Whether a string with other content between its delimiters is over behind this content. -/
def StringShape.EndsItself (shape : StringShape) (content : Text) : Prop :=
  Literal.untilCloser? shape.closer false ((shape.rebuild content).drop shape.opener.length) =
    some content

instance (shape : StringShape) (content : Text) : Decidable (shape.EndsItself content) :=
  inferInstanceAs (Decidable (_ = _))

theorem StringShape.endsItself_iff {shape : StringShape} {content : Text} :
    shape.EndsItself content ↔
      Literal.untilCloser? shape.closer false (content ++ shape.closer) = some content := by
  rw [EndsItself, rebuild, List.append_assoc, List.drop_left]

namespace Literal

theorem endsBare_cons {hidden : Bool} {q c : Char} {t : Text} :
    EndsBare hidden q (c :: t) ↔
      (hidden = false ∧ c = q ∧ t = []) ∨ EndsBare (!hidden && c == '\\') q t := by
  constructor
  · rintro ⟨front, heq, hfront⟩
    cases front with
    | nil =>
      obtain ⟨rfl, rfl⟩ := List.cons.inj heq
      exact .inl ⟨hfront, rfl, rfl⟩
    | cons d front =>
      obtain ⟨rfl, rfl⟩ := List.cons.inj heq
      exact .inr ⟨front, rfl, hfront⟩
  · rintro (⟨rfl, rfl, rfl⟩ | ⟨front, rfl, hfront⟩)
    · exact ⟨[], rfl, rfl⟩
    · exact ⟨c :: front, rfl, hfront⟩

section Quotes
variable {q : Char} {n : Nat} (hq : q ≠ '\\') (hn : 0 < n)
include hq

/-- Where quotes are met that were not there before others were put behind a text, the text is all
quotes and fewer than these. -/
theorem endsBare_of_met {t r : Text} (hne : t ≠ [])
    (hmet : List.replicate n q <+: t ++ List.replicate n q)
    (hnot : ¬ List.replicate n q <+: t ++ r) : 1 < n ∧ EndsBare false q t := by
  have hlt : t.length < n := by
    by_contra hle
    refine hnot ((List.prefix_of_prefix_length_le hmet (List.prefix_append _ _) ?_).trans
      (List.prefix_append _ _))
    rw [List.length_replicate]
    exact Nat.le_of_not_lt hle
  have hquotes : t <+: List.replicate n q := by
    refine List.prefix_of_prefix_length_le (List.prefix_append _ _) hmet ?_
    rw [List.length_replicate]
    exact Nat.le_of_lt hlt
  obtain ⟨m, hm⟩ := Nat.exists_eq_add_one_of_ne_zero (List.length_pos_iff.mpr hne).ne'
  have ht : t = List.replicate m q ++ [q] := by
    rw [← List.replicate_succ', ← hm]
    exact List.eq_replicate_of_mem fun c hc => List.eq_of_mem_replicate (hquotes.subset hc)
  refine ⟨by omega, List.replicate m q, ht, hides_of_not_mem fun hmem => ?_⟩
  exact hq (List.eq_of_mem_replicate hmem).symm

include hn

/-- A part of a string that hides nothing is read up to its end, unless a quote there is met with
the first of the closer. -/
theorem untilCloser?_append_iff {hidden : Bool} {s r : Text}
    (h : untilCloser? (List.replicate n q) hidden (s ++ (r ++ List.replicate n q)) = some (s ++ r))
    (hs : hides hidden s = false) :
    untilCloser? (List.replicate n q) hidden (s ++ List.replicate n q) = some s ↔
      ¬ (1 < n ∧ EndsBare hidden q s) := by
  induction s generalizing hidden with
  | nil =>
    obtain rfl : hidden = false := hs
    obtain ⟨m, rfl⟩ := Nat.exists_eq_add_one_of_ne_zero (Nat.ne_of_gt hn)
    have hread : untilCloser? (List.replicate (m + 1) q) false (List.replicate (m + 1) q) =
        some [] := untilCloser?_of_met (List.prefix_refl _)
    simp [hread, EndsBare]
  | cons c s ih =>
    have hnot : ¬ (hidden = false ∧
        List.replicate n q <+: c :: (s ++ (r ++ List.replicate n q))) := by
      rintro ⟨rfl, hmet⟩
      cases (untilCloser?_of_met hmet).symm.trans h
    rw [List.cons_append] at h ⊢
    by_cases hmet : hidden = false ∧ List.replicate n q <+: c :: (s ++ List.replicate n q)
    · obtain ⟨rfl, hmet⟩ := hmet
      have hbare := endsBare_of_met hq (List.cons_ne_nil c s) hmet fun hmet => hnot ⟨rfl, hmet⟩
      rw [untilCloser?_of_met hmet]
      exact iff_of_false (fun h => by cases h) (not_not_intro hbare)
    · have hbare : ¬ (hidden = false ∧ c = q ∧ s = []) := by
        rintro ⟨rfl, rfl, rfl⟩
        exact hmet ⟨rfl, [c], List.replicate_succ'.symm.trans List.replicate_succ⟩
      rw [untilCloser?_of_not_met hnot] at h
      rw [untilCloser?_of_not_met hmet, endsBare_cons, or_iff_right hbare]
      simp only [List.cons_append, Option.map_eq_some_iff, List.cons.injEq, true_and,
        exists_eq_right] at h ⊢
      exact ih h hs

end Quotes

/-- A string that quotes close ends itself when it is cut between two of its units, unless more than
one of them closes it and what is kept ends in such a quote that no backslash hides. -/
theorem cut_endsItself_iff {shape : StringShape} {q : Char} {n : Nat}
    (hi : shape.interpolation = .none) (hq : StringShape.isQuote q = true) (hn : 0 < n)
    (hcloser : shape.closer = List.replicate n q) {content : Text}
    (hends : shape.EndsItself content) {p : Nat} (hp : p ∈ cutPoints shape.interpolation content) :
    shape.EndsItself (content.before p) ↔ ¬ (1 < n ∧ EndsBare false q (content.before p)) := by
  have hbackslash : q ≠ '\\' := by
    rintro rfl
    cases hq
  rw [StringShape.endsItself_iff] at hends ⊢
  rw [hi] at hp
  rw [hcloser] at hends ⊢
  obtain ⟨rest, hcontent, hrow, hrest⟩ := isRow_units .none content
  obtain ⟨front, back, hus, rfl⟩ := mem_cutPoints.mp hp
  rw [hus] at hcontent hrow
  obtain rfl : rest = [] := by
    rcases hrest with rfl | ⟨value, hvalue, -⟩
    · rfl
    · cases hvalue
  rw [List.flatten_append, List.append_nil] at hcontent
  rw [hcontent] at hends
  rw [hcontent, Text.before_append_size]
  have hfront : hides false front.flatten = false := by
    by_cases hback : back.flatten = []
    · rw [hback, List.append_nil] at hends
      exact hides_of_untilCloser? hends
    · exact hides_of_isRow (isRow_append.mp hrow).1 (by rwa [List.append_nil])
  exact untilCloser?_append_iff hbackslash hn (by rwa [← List.append_assoc]) hfront

/-- The shape of a string of three characters in three quotes. -/
def tripleQuoted : StringShape where
  opener := ['"', '"', '"']
  closer := ['"', '"', '"']
  content := .between 3 6
  interpolation := .none

/-- `a"b` in three quotes ends itself when it is cut behind `a`, and does not when it is cut behind
the quote. -/
theorem cut_endsItself_iff_triple :
    StringShape.ofText? ['"', '"', '"', 'a', '"', 'b', '"', '"', '"'] 0 = some tripleQuoted ∧
      tripleQuoted.EndsItself ['a', '"', 'b'] ∧ cutPoints .none ['a', '"', 'b'] = [0, 1, 2, 3] ∧
      tripleQuoted.EndsItself ['a'] ∧ ¬ tripleQuoted.EndsItself ['a', '"'] := by
  have hends : tripleQuoted.EndsItself ['a', '"', 'b'] := by decide
  have hcuts : cutPoints .none ['a', '"', 'b'] = [0, 1, 2, 3] := by decide +kernel
  have hiff : ∀ p ∈ [0, 1, 2, 3], tripleQuoted.EndsItself (Text.before ['a', '"', 'b'] p) ↔
      ¬ (1 < 3 ∧ EndsBare false '"' (Text.before ['a', '"', 'b'] p)) := fun p hp =>
    cut_endsItself_iff rfl (by decide) (by decide) rfl hends (hcuts ▸ hp)
  refine ⟨by decide +kernel, hends, hcuts, (hiff 1 (by decide)).mpr ?_, fun hcut => ?_⟩
  · rintro ⟨-, front, heq, -⟩
    have hlast : ['a'].getLast? = (front ++ ['"']).getLast? := congrArg List.getLast? heq
    simp at hlast
  · exact (hiff 2 (by decide)).mp hcut ⟨by decide, ['a'], rfl, rfl⟩

/-- A string in three quotes may be cut behind a quote of its own, and then it does not end
itself. -/
theorem cut_ends_too_early :
    ¬ ∀ (shape : StringShape) (content : Text), shape.interpolation = .none →
      (∃ q, StringShape.isQuote q = true ∧ (shape.closer = [q] ∨ shape.closer = [q, q, q])) →
      shape.EndsItself content →
      ∀ p ∈ cutPoints .none content, shape.EndsItself (content.before p) := by
  intro hends
  have hcut := hends tripleQuoted ['a', '"', 'b'] rfl ⟨'"', by decide, .inr rfl⟩ (by decide) 2
    (by decide +kernel)
  exact absurd hcut (by decide)

end Literal

end Abridge
