import Abridge.Proofs.Comment.Account
import Abridge.Proofs.Comment.Delimiter
import Abridge.Proofs.Comment.Stable
import Abridge.Proofs.Literal.Closer

/-!
Docstrings that are cut short.

A closer that is met nowhere within a text (`Literal.Avoids`) is met nowhere in a front of it, nor
after something else was put behind it, nor when the text is written on one line: of the blanks
between two words one is left, and behind a blank nothing is hidden. So the short form of a
docstring does not meet its closer (`avoids_shorten`). Where it is put between the quotes again, no
backslash at its end hides them and no quote at its end adds to them (`fitBefore_endsPlain`), so
that the docstring ends at its own quotes (`shortened_docstring_endsItself`).
-/
namespace Abridge

/-! ### Texts that do not meet a closer -/

namespace Literal
variable {closer : Text} {hidden : Bool} {c : Char} {t : Text}

/-- Whether a closer is met nowhere within a text. -/
def Avoids (closer : Text) (hidden : Bool) (t : Text) : Prop :=
  untilCloser? closer hidden t = none

theorem avoids_nil (closer : Text) (hidden : Bool) : Avoids closer hidden [] := rfl

theorem avoids_cons : Avoids closer hidden (c :: t) ↔
    ¬ (hidden = false ∧ closer <+: c :: t) ∧ Avoids closer (!hidden && c == '\\') t := by
  unfold Avoids
  by_cases hmet : hidden = false ∧ closer <+: c :: t
  · obtain ⟨rfl, hmet⟩ := hmet
    simp [untilCloser?_of_met hmet, hmet]
  · rw [untilCloser?_of_not_met hmet, Option.map_eq_none_iff, and_iff_right hmet]

/-- A text in front of the first place where a closer is met does not meet it. -/
theorem avoids_of_untilCloser? {r : Text} (h : untilCloser? closer hidden (t ++ r) = some t) :
    Avoids closer hidden t := by
  induction t generalizing hidden with
  | nil => exact avoids_nil closer hidden
  | cons c t ih =>
    rw [List.cons_append] at h
    have hnot : ¬ (hidden = false ∧ closer <+: c :: (t ++ r)) := by
      rintro ⟨rfl, hmet⟩
      rw [untilCloser?_of_met hmet] at h
      cases h
    rw [untilCloser?_of_not_met hnot] at h
    obtain ⟨front, hfront, heq⟩ := Option.map_eq_some_iff.mp h
    obtain rfl := (List.cons.inj heq).2
    exact avoids_cons.mpr
      ⟨fun hmet => hnot ⟨hmet.1, hmet.2.trans (List.prefix_append (c :: front) r)⟩, ih hfront⟩

theorem Avoids.of_isPrefix (h : Avoids closer hidden t) {u : Text} (hu : u <+: t) :
    Avoids closer hidden u := by
  induction u generalizing hidden t with
  | nil => exact avoids_nil closer hidden
  | cons c u ih =>
    obtain ⟨v, rfl⟩ := hu
    obtain ⟨hnot, hrest⟩ := avoids_cons.mp h
    exact avoids_cons.mpr ⟨fun hmet => hnot ⟨hmet.1, hmet.2.trans (List.prefix_append (c :: u) v)⟩,
      ih hrest (List.prefix_append u v)⟩

/-- What is put behind a text does not bring the closer about if it begins with a character that the
closer has not. -/
theorem Avoids.append_cons (h : Avoids closer hidden t) (hne : closer ≠ []) (hc : c ∉ closer)
    {s : Text} (hs : ∀ hidden, Avoids closer hidden s) : Avoids closer hidden (t ++ c :: s) := by
  induction t generalizing hidden with
  | nil =>
    refine avoids_cons.mpr ⟨fun ⟨_, hmet⟩ => hne ?_, hs _⟩
    exact List.prefix_nil.mp ((Text.prefix_append_cons_iff (s := []) hc s).mp hmet)
  | cons d t ih =>
    obtain ⟨hnot, hrest⟩ := avoids_cons.mp h
    refine avoids_cons.mpr ⟨fun ⟨hhidden, hmet⟩ => hnot ⟨hhidden, ?_⟩, ih hrest⟩
    exact (Text.prefix_append_cons_iff (s := d :: t) hc s).mp hmet

/-! ### On one line -/

theorem isBackslash_of_isBlank (hc : Text.isBlank c = true) : (c == '\\') = false := by
  refine beq_false_of_ne ?_
  rintro rfl
  exact absurd hc (by decide)

section
variable (hblank : ∀ c ∈ closer, Text.isBlank c = false)
include hblank

/-- No part of a text without blanks comes about where it is collapsed. -/
theorem isPrefix_of_isPrefix_collapse (h : closer <+: Text.collapse false t) : closer <+: t := by
  induction closer generalizing t with
  | nil => exact List.nil_prefix
  | cons q closer ih =>
    obtain ⟨hq, hblank⟩ := List.forall_mem_cons.mp hblank
    cases t with
    | nil => exact h
    | cons c t =>
      cases hc : Text.isBlank c with
      | true =>
        rw [Text.collapse_of_isBlank _ hc] at h
        obtain ⟨rest, heq⟩ := h
        have hspace : q = ' ' := Text.head?_collapse_true (t := t) (by rw [← heq]; rfl)
        rw [hspace, Text.isBlank_space] at hq
        cases hq
      | false =>
        rw [Text.collapse_false_cons hc] at h
        obtain ⟨hhead, hrest⟩ := List.cons_prefix_cons.mp h
        exact List.cons_prefix_cons.mpr ⟨hhead, ih hblank hrest⟩

theorem avoids_collapse (hne : closer ≠ []) (t : Text) :
    (∀ hidden, Avoids closer hidden t → Avoids closer hidden (Text.collapse false t)) ∧
      (Avoids closer false t → ∀ hidden, Avoids closer hidden (Text.collapse true t)) := by
  induction t with
  | nil => exact ⟨fun _ => id, fun _ => avoids_nil closer⟩
  | cons c t ih =>
    cases hc : Text.isBlank c with
    | true =>
      have hbackslash := isBackslash_of_isBlank hc
      have hrest : ∀ hidden, Avoids closer hidden (c :: t) → Avoids closer false t := by
        intro hidden h
        have := (avoids_cons.mp h).2
        rwa [hbackslash, Bool.and_false] at this
      rw [Text.collapse_of_isBlank _ hc, Text.collapse_of_isBlank _ hc]
      exact ⟨fun hidden h => ih.2 (hrest hidden h) hidden, fun h => ih.2 (hrest false h)⟩
    | false =>
      have hfalse : ∀ hidden, Avoids closer hidden (c :: t) →
          Avoids closer hidden (Text.collapse false (c :: t)) := by
        intro hidden h
        obtain ⟨hnot, hrest⟩ := avoids_cons.mp h
        rw [Text.collapse_false_cons hc]
        refine avoids_cons.mpr ⟨fun ⟨hhidden, hmet⟩ => hnot ⟨hhidden, ?_⟩, ih.1 _ hrest⟩
        rw [← Text.collapse_false_cons hc] at hmet
        exact isPrefix_of_isPrefix_collapse hblank hmet
      refine ⟨hfalse, fun h hidden => ?_⟩
      rw [Text.collapse_true_cons hc]
      have hspace : ' ' ∉ closer := fun hmem => absurd (hblank ' ' hmem) (by decide)
      refine avoids_cons.mpr ⟨fun ⟨_, hmet⟩ => hne ?_, ?_⟩
      · exact List.prefix_nil.mp ((Text.prefix_append_cons_iff (s := []) hspace _).mp hmet)
      · rw [show (' ' == '\\') = false by decide, Bool.and_false]
        exact hfalse false h

omit hblank in
/-- Blanks hide nothing. -/
theorem Avoids.trimStart (h : Avoids closer false t) : Avoids closer false t.trimStart := by
  induction t with
  | nil => exact h
  | cons c t ih =>
    cases hc : Text.isBlank c with
    | true =>
      rw [Text.trimStart_cons_of_isBlank hc]
      have hrest := (avoids_cons.mp h).2
      rw [isBackslash_of_isBlank hc, Bool.and_false] at hrest
      exact ih hrest
    | false =>
      rw [Text.trimStart_cons_of_not hc]
      exact h

theorem Avoids.singleLine (hne : closer ≠ []) (h : Avoids closer false t) :
    Avoids closer false t.singleLine := by
  rw [Text.singleLine_eq_collapse]
  exact (avoids_collapse hblank hne _).1 false h.trimStart

end

/-! ### At the end of a string -/

/-- Quotes behind a text that does not meet them, hides nothing behind it and does not end in one of
them are met behind it. -/
theorem untilCloser?_append_of_avoids {q : Char} {n : Nat} (hq : q ≠ '\\') (hn : 0 < n)
    (h : Avoids (List.replicate n q) hidden t) (hhides : hides hidden t = false)
    (hlast : t.getLast? ≠ some q) :
    untilCloser? (List.replicate n q) hidden (t ++ List.replicate n q) = some t := by
  induction t generalizing hidden with
  | nil =>
    obtain rfl : hidden = false := hhides
    obtain ⟨m, rfl⟩ := Nat.exists_eq_add_one_of_ne_zero (Nat.ne_of_gt hn)
    exact untilCloser?_of_met (List.prefix_refl _)
  | cons c t ih =>
    obtain ⟨hnot, hrest⟩ := avoids_cons.mp h
    have hnot' : ¬ (hidden = false ∧
        List.replicate n q <+: c :: (t ++ List.replicate n q)) := by
      rintro ⟨hhidden, hmet⟩
      have hbare := endsBare_of_met (r := []) hq (List.cons_ne_nil c t) hmet fun hmet =>
        hnot ⟨hhidden, by rwa [List.append_nil] at hmet⟩
      obtain ⟨front, heq, -⟩ := hbare.2
      exact hlast (by rw [heq, List.getLast?_concat])
    rw [List.cons_append, untilCloser?_of_not_met hnot', ih hrest hhides fun hmem => hlast ?_]
    · rfl
    · rw [List.getLast?_cons, hmem, Option.getD_some]

end Literal

/-! ### Short forms -/

namespace Summary

theorem upToStop_isPrefix (t : Text) : upToStop t <+: t := by
  induction t with
  | nil => exact List.prefix_refl _
  | cons c t ih =>
    rw [upToStop]
    split
    · exact List.prefix_append [c] t
    · exact List.cons_prefix_cons.mpr ⟨rfl, ih⟩

theorem upTo_isPrefix (mark t : Text) : Text.upTo mark t <+: t := by
  induction t with
  | nil => exact List.prefix_refl _
  | cons c t ih =>
    rw [Text.upTo]
    split
    · exact List.nil_prefix
    · exact List.cons_prefix_cons.mpr ⟨rfl, ih⟩

end Summary

namespace Comment

open Literal
open Placeholder (marker)

/-- The policy leaves a front of a text without the blanks that it begins with. -/
theorem summary_isPrefix (rules : Rules) (body : Text) :
    rules.summary body <+: body.trimStart := by
  have htrim : body.trim <+: body.trimStart := Text.trimEnd_isPrefix _
  unfold Rules.summary
  split
  · exact ((Summary.upToStop_isPrefix _).trans (Summary.upTo_isPrefix _ _)).trans htrim
  · exact htrim

section
variable {rules : Rules} {closer body short : Text}
  (hblank : ∀ c ∈ closer, Text.isBlank c = false) (hne : closer ≠ []) (hmarker : marker ∉ closer)
include hblank hne hmarker

/-- The short form of a text does not meet a closer that the text does not meet. -/
theorem avoids_shorten (h : Avoids closer false body)
    (hshort : rules.shorten body = some short) : Avoids closer false short := by
  have hsummary : Avoids closer false (rules.summary body) :=
    h.trimStart.of_isPrefix (summary_isPrefix rules body)
  unfold Rules.shorten at hshort
  split at hshort
  · obtain rfl := Option.some.inj hshort
    exact avoids_nil closer false
  next capped hcapped =>
    split at hshort
    · cases hshort
    obtain rfl := Option.some.inj hshort
    refine Avoids.singleLine hblank hne ?_
    rcases capped?_cases hcapped with ⟨rfl, -⟩ | ⟨max, -, -, -, rfl⟩
    · exact hsummary
    · have hspace : ' ' ∉ closer := fun hmem => absurd (hblank ' ' hmem) (by decide)
      have hmark : ∀ hidden, Avoids closer hidden [marker] := fun hidden =>
        (avoids_nil closer hidden).append_cons hne hmarker (avoids_nil closer)
      exact (hsummary.of_isPrefix (Summary.truncate_isPrefix _ _ _)).append_cons hne hspace hmark

end

/-- A text loses the backslashes at its end, and gets a space if a quote is left there. -/
theorem fitBefore_cases (q : Char) {n : Nat} (hn : 0 < n) (body : Text) :
    let front := body.dropEndWhile (· == '\\')
    front.getLast? = some q ∧ fitBefore (List.replicate n q) body = front ++ [' '] ∨
      front.getLast? ≠ some q ∧ fitBefore (List.replicate n q) body = front := by
  intro front
  have hhead : (List.replicate n q).head? = some q := by
    rw [List.head?_replicate, if_neg (Nat.ne_of_gt hn)]
  have heq : fitBefore (List.replicate n q) body =
      if front.getLast? == some q then front ++ [' '] else front := by
    rw [fitBefore, hhead]
    rfl
  rw [heq]
  by_cases hquote : front.getLast? = some q
  · exact .inl ⟨hquote, if_pos (beq_iff_eq.mpr hquote)⟩
  · exact .inr ⟨hquote, if_neg (mt beq_iff_eq.mp hquote)⟩

/-- What can stand before a quote hides nothing behind it, does not end in the quote, and does not
meet it if the text did not. -/
theorem fitBefore_endsPlain {q : Char} {n : Nat} (hspace : q ≠ ' ') (hn : 0 < n) {body : Text}
    (h : Avoids (List.replicate n q) false body) :
    Avoids (List.replicate n q) false (fitBefore (List.replicate n q) body) ∧
      hides false (fitBefore (List.replicate n q) body) = false ∧
      (fitBefore (List.replicate n q) body).getLast? ≠ some q := by
  have hcut : Avoids (List.replicate n q) false (body.dropEndWhile (· == '\\')) :=
    h.of_isPrefix (Text.dropEndWhile_isPrefix _ body)
  have hlast : ∀ c ∈ (body.dropEndWhile (· == '\\')).getLast?, (c == '\\') = false :=
    fun _ => Text.not_of_mem_getLast?_dropEndWhile (p := (· == '\\'))
  rcases fitBefore_cases q hn body with ⟨-, heq⟩ | ⟨hquote, heq⟩ <;> rw [heq]
  · refine ⟨hcut.append_cons ?_ ?_ (avoids_nil _), ?_, ?_⟩
    · exact fun hnil => Nat.ne_of_gt hn ((List.replicate_eq_nil_iff q).mp hnil)
    · exact fun hmem => hspace (List.eq_of_mem_replicate hmem).symm
    · exact hides_append_singleton false _ (by decide)
    · rw [List.getLast?_concat]
      exact fun heq => hspace (Option.some.inj heq).symm
  · refine ⟨hcut, ?_, hquote⟩
    rcases List.eq_nil_or_concat (body.dropEndWhile (· == '\\')) with hnil | ⟨front, c, hfront⟩
    · rw [hnil]
      rfl
    · rw [List.concat_eq_append] at hfront
      rw [hfront, List.getLast?_concat] at hlast
      rw [hfront]
      exact hides_append_singleton false front (by simpa using hlast c rfl)

/-! ### Docstrings -/

/-- **A docstring that is cut short still ends at its own quotes.** If a docstring that `n` equal
quotes close meets them for the first time behind its content, so does the literal in which the
short form of the content stands between the quotes, whatever the policy, the number of tokens and
the counter. This literal is what the reduction writes. -/
theorem shortened_docstring_endsItself {rules : Rules} {shape : StringShape} {q : Char} {n : Nat}
    (hq : StringShape.isQuote q = true) (hn : 0 < n) (hcloser : shape.closer = List.replicate n q)
    {content short : Text} (hends : shape.EndsItself content)
    (hshort : rules.shorten content = some short) :
    shape.EndsItself (fitBefore shape.closer short) ∧
      ∀ (profile : Profile) (d : Document) (string : Node) (text : Text),
        profile.stringShape? d string = some shape → d.lines.textOf shape.content = content →
        judgeDocstring profile d rules string = .shorten text →
          text = shape.rebuild (fitBefore shape.closer short) := by
  constructor
  · rw [StringShape.endsItself_iff, hcloser] at hends
    rw [StringShape.endsItself_iff, hcloser]
    have hplain : q ≠ '\\' ∧ q ≠ ' ' ∧ q ≠ marker ∧ Text.isBlank q = false := by
      have hcases : q = '"' ∨ q = '\'' ∨ q = '\x60' := by
        simpa [StringShape.isQuote, or_assoc] using hq
      rcases hcases with rfl | rfl | rfl <;> decide
    obtain ⟨hbackslash, hspace, hmarker, hblank⟩ := hplain
    have havoids : Avoids (List.replicate n q) false short := by
      refine avoids_shorten (fun c hc => ?_) ?_ (fun hmem => ?_) (avoids_of_untilCloser? hends)
        hshort
      · rwa [List.eq_of_mem_replicate hc]
      · exact fun hnil => Nat.ne_of_gt hn ((List.replicate_eq_nil_iff q).mp hnil)
      · exact hmarker (List.eq_of_mem_replicate hmem).symm
    obtain ⟨hfit, hhides, hlast⟩ := fitBefore_endsPlain hspace hn havoids
    exact untilCloser?_append_of_avoids hbackslash hn hfit hhides hlast
  · intro profile d string text hshape hcontent hjudged
    obtain ⟨other, short', hother, hshort', rfl⟩ := exists_of_shorten hjudged
    obtain rfl : shape = other := Option.some.inj (hshape.symm.trans hother)
    obtain rfl : short = short' := by
      rw [hcontent, hshort] at hshort'
      exact Option.some.inj hshort'
    rfl

/-- A docstring in three quotes. -/
def tripleDocstring : StringShape where
  opener := ['"', '"', '"']
  closer := ['"', '"', '"']
  content := .between 3 13
  interpolation := .none

/-- Two paragraphs, of which the first ends in two quotes and a backslash that hides another. -/
def escapedEnd : Text :=
  ['a', ' ', '\n', '"', '"', '\\', '\\', '\n', '\n', 'b']

/-- The backslashes go, and a space comes behind the quotes. -/
theorem shortened_docstring_endsItself_escaped :
    StringShape.isQuote '"' = true ∧ 0 < 3 ∧ tripleDocstring.closer = List.replicate 3 '"' ∧
      tripleDocstring.EndsItself escapedEnd ∧
      twoWords.shorten escapedEnd = some ['a', ' ', '"', '"', '\\', '\\'] ∧
      fitBefore tripleDocstring.closer ['a', ' ', '"', '"', '\\', '\\'] =
        ['a', ' ', '"', '"', ' '] ∧
      tripleDocstring.EndsItself ['a', ' ', '"', '"', ' '] := by
  have hends : tripleDocstring.EndsItself escapedEnd := by decide
  have hshort : twoWords.shorten escapedEnd = some ['a', ' ', '"', '"', '\\', '\\'] := by
    decide +kernel
  have hfit : fitBefore tripleDocstring.closer ['a', ' ', '"', '"', '\\', '\\'] =
      ['a', ' ', '"', '"', ' '] := by decide
  have hagain := (shortened_docstring_endsItself (q := '"') (n := 3) (by decide) (by decide) rfl
    hends hshort).1
  exact ⟨by decide, by decide, rfl, hends, hshort, hfit, hfit ▸ hagain⟩

end Comment
end Abridge
