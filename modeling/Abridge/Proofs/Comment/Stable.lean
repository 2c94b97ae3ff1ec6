import Abridge.Proofs.Comment.Short
import Abridge.Proofs.Comment.Truncation
import Mathlib.Data.List.Chain

/-!
Short forms stay as they are.

What becomes of a text under the rules is on one line, has no stop in front of a blank if first
sentences are kept, and fits the number of tokens, or it fits without the mark at its end
(`isShortForm_of_shorten`). The rules do nothing to a text of this form: it is its own first
sentence, and where it does not fit it is cut in front of the mark, which is put back
(`shorten_eq_none_of_isShortForm`). So nothing is shortened a second time
(`shortening_is_final`).
-/
namespace Abridge

open Placeholder (marker)

/-! ### First sentences -/

namespace Summary
variable {c : Char} {t : Text}

/-- Whether no stop in a text has a blank behind it. -/
def IsSentence (t : Text) : Prop :=
  t.IsChain fun c d => isStop c = true → Text.isBlank d = false

theorem head?_upToStop (t : Text) : (upToStop t).head? = t.head? := by
  cases t with
  | nil => rfl
  | cons c t =>
    rw [upToStop]
    split <;> rfl

theorem isSentence_upToStop (t : Text) : IsSentence (upToStop t) := by
  induction t with
  | nil => exact .nil
  | cons c t ih =>
    rw [upToStop]
    split
    · exact .singleton c
    next hstop =>
      refine List.isChain_cons.mpr ⟨fun d hd hc => ?_, ih⟩
      rw [head?_upToStop, Option.mem_def] at hd
      simpa [hc, hd] using hstop

theorem upToStop_eq_self (h : IsSentence t) : upToStop t = t := by
  induction t with
  | nil => rfl
  | cons c t ih =>
    obtain ⟨hhead, ht⟩ := List.isChain_cons.mp h
    rw [upToStop, if_neg, ih ht]
    intro hstop
    obtain ⟨hc, hblank⟩ := Bool.and_eq_true_iff.mp hstop
    obtain ⟨d, hd, hblank⟩ := (Option.any_eq_true _ _).mp hblank
    rw [hhead d hd hc] at hblank
    cases hblank

/-- Behind a character that ends no sentence there, a text may be collapsed. -/
theorem isSentence_cons_collapse (t : Text) (c : Char) :
    (IsSentence (c :: t) → IsSentence (c :: Text.collapse false t)) ∧
      (isStop c = false → IsSentence t → IsSentence (c :: Text.collapse true t)) := by
  induction t generalizing c with
  | nil => exact ⟨id, fun _ _ => .singleton c⟩
  | cons d t ih =>
    cases hd : Text.isBlank d with
    | true =>
      rw [Text.collapse_of_isBlank _ hd, Text.collapse_of_isBlank _ hd]
      refine ⟨fun h => ?_, fun hc h => (ih c).2 hc h.tail⟩
      obtain ⟨hcd, h⟩ := List.isChain_cons_cons.mp h
      refine (ih c).2 (Bool.eq_false_iff.mpr fun hc => ?_) h.tail
      rw [hcd hc] at hd
      cases hd
    | false =>
      rw [Text.collapse_true_cons hd, Text.collapse_false_cons hd]
      refine ⟨fun h => ?_, fun hc h => ?_⟩
      · exact .cons_cons (fun _ => hd) ((ih d).1 (List.isChain_cons_cons.mp h).2)
      · have hspace : isStop ' ' = false := by decide
        refine .cons_cons (fun hstop => ?_) (.cons_cons (fun _ => hd) ((ih d).1 h))
        rw [hc] at hstop
        cases hstop

theorem IsSentence.singleLine (h : IsSentence t) : IsSentence t.singleLine := by
  rw [Text.singleLine_eq_collapse]
  obtain ⟨blanks, ht, -⟩ := Text.exists_eq_append_trimStart t
  have hstart : IsSentence t.trimStart := List.IsChain.suffix h ⟨blanks, ht.symm⟩
  rcases Text.trimStart_eq_nil_or t with hnil | ⟨c, rest, hcons, hc⟩
  · rw [hnil]
    exact .nil
  · rw [hcons] at hstart ⊢
    rw [Text.collapse_false_cons hc]
    exact (isSentence_cons_collapse rest c).1 hstart

/-- A front of a sentence that stops at a blank may have a mark put behind it. -/
theorem IsSentence.append_mark (h : IsSentence t) {front : Text} (hstops : StopsAtBlank t front) :
    IsSentence (front ++ [' ', marker]) := by
  obtain ⟨b, rest, rfl, hb⟩ := hstops
  obtain ⟨hfront, -, hlast⟩ := List.isChain_append.mp h
  refine List.isChain_append.mpr ⟨hfront, .cons_cons (fun _ => by decide) (.singleton _), ?_⟩
  intro x hx y hy hstop
  have hblank := hlast x hx b rfl hstop
  rw [hb] at hblank
  cases hblank

theorem upTo_eq_self {mark : Text} (hc : mark.head? = some c) (h : c ∉ t) :
    Text.upTo mark t = t := by
  obtain ⟨mark, rfl⟩ := List.head?_eq_some_iff.mp hc
  induction t with
  | nil => rfl
  | cons d t ih =>
    rw [Text.upTo, if_neg, ih (List.not_mem_of_not_mem_cons h)]
    intro hmark
    have hhead := (List.cons_prefix_cons.mp (List.isPrefixOf_iff_prefix.mp hmark)).1
    exact List.ne_of_not_mem_cons h hhead

/-- A sentence on one line is its own first sentence. -/
theorem firstSentence_eq_self (h : IsSentence t) (hline : t.singleLine = t) :
    firstSentence t = t := by
  have hfeed : '\n' ∉ t := by
    intro hmem
    rw [← hline] at hmem
    exact absurd (Text.eq_space_of_mem_singleLine hmem (by decide)) (by decide)
  have htrim : t.trim = t := by
    have := Text.trim_singleLine t
    rwa [hline] at this
  rw [firstSentence, htrim, upTo_eq_self rfl hfeed, upToStop_eq_self h]

/-! ### Marks -/

/-- A text with a mark behind it that fits without is cut in front of the mark. -/
theorem truncate_append_mark {count : Counter} (hcount : count.Grows) {max : Nat}
    (hfits : count t ≤ max) (hover : max < count (t ++ [' ', marker]))
    (hlast : ∀ c ∈ t.getLast?, Text.isBlank c = false) :
    truncate count max (t ++ [' ', marker]) = t := by
  have hstops : StopsAtBlank (t ++ [' ', marker]) t := ⟨' ', [marker], rfl, by decide⟩
  have hcuts := cuts hcount max (t ++ [' ', marker])
  generalize truncate count max (t ++ [' ', marker]) = short at hcuts ⊢
  cases hcuts with
  | whole hfits => exact absurd hfits (Nat.not_le_of_lt hover)
  | @front front _ hfront =>
    obtain ⟨b, rest, heq, hb⟩ := hfront.stops
    obtain ⟨u, rfl⟩ := hfront.longest t hstops hfits
    rw [List.append_assoc, List.append_cancel_left_eq] at heq
    -- The only blank behind the text is the one that parts it from the mark.
    rcases u with _ | ⟨c, _ | ⟨d, u⟩⟩
    · rw [List.append_nil, Text.trimEnd_eq_self hlast]
    · obtain rfl : marker = b := (List.cons.inj (List.cons.inj heq).2).1
      exact absurd hb (by decide)
    · simp at heq
  | nothing _ hnone => exact absurd hfits (Nat.not_le_of_lt (hnone t hstops))

end Summary

namespace Comment
open Summary

/-! ### Short forms -/

/-- Whether a text is as the rules leave one. -/
structure IsShortForm (rules : Rules) (short : Text) : Prop where
  oneLine : short.singleLine = short
  sentence : rules.options.policy = .keepFirstSentence → IsSentence short
  capped : ∀ max, rules.options.maxTokens = some max →
    rules.count short ≤ max ∨
      ∃ front, short = front ++ [' ', marker] ∧ front ≠ [] ∧ rules.count front ≤ max ∧
        ∀ c ∈ front.getLast?, Text.isBlank c = false

variable {rules : Rules} {t short : Text}

theorem isSentence_summary (hpolicy : rules.options.policy = .keepFirstSentence) (body : Text) :
    IsSentence (rules.summary body) := by
  rw [Rules.summary, hpolicy]
  exact isSentence_upToStop _

theorem summary_eq_self (h : IsShortForm rules short) : rules.summary short = short := by
  unfold Rules.summary
  split
  next hpolicy => exact firstSentence_eq_self (h.sentence hpolicy) h.oneLine
  · have := Text.trim_singleLine short
    rwa [h.oneLine] at this

theorem capped?_eq_self (hcount : rules.count.Grows) (h : IsShortForm rules short)
    (hne : short ≠ []) : rules.capped? short = some short := by
  unfold Rules.capped?
  simp only
  split
  · rfl
  next max hmax =>
    by_cases hfits : rules.count short ≤ max
    · simp [truncate_of_le hfits, hne]
    · obtain ⟨front, rfl, hfront, hle, hlast⟩ := (h.capped max hmax).resolve_left hfits
      rw [truncate_append_mark hcount hle (Nat.lt_of_not_le hfits) hlast]
      simp [hfront]

/-- A text of short form is not shortened. -/
theorem shorten_eq_none_of_isShortForm (hcount : rules.count.Grows) (h : IsShortForm rules short)
    (hne : short ≠ []) : rules.shorten short = none := by
  simp [Rules.shorten, summary_eq_self h, capped?_eq_self hcount h hne]

/-- A text with a mark behind it on one line. -/
theorem singleLine_append_mark {front : Text} (hne : front ≠ [])
    (hlast : ∀ c ∈ front.getLast?, Text.isBlank c = false) :
    (front ++ [' ', marker]).singleLine = front.singleLine ++ [' ', marker] ∧
      front.singleLine ≠ [] := by
  have hstart : ∃ c rest, front.trimStart = c :: rest ∧ Text.isBlank c = false := by
    refine (Text.trimStart_eq_nil_or front).resolve_left fun hnil => ?_
    have hblank := hlast _ (List.getLast?_eq_some_getLast hne)
    rw [List.dropWhile_eq_nil_iff.mp hnil _ (List.getLast_mem hne)] at hblank
    cases hblank
  obtain ⟨c, rest, hcons, hc⟩ := hstart
  have htrim : (front ++ [' ', marker]).trimStart = front.trimStart ++ [' ', marker] := by
    have hdrop : front.dropWhile Text.isBlank = c :: rest := hcons
    rw [Text.trimStart, Text.trimStart, List.dropWhile_append, hdrop]
    rfl
  constructor
  · rw [Text.singleLine_eq_collapse, htrim,
      Text.collapse_append_of_isBlank _ _ Text.isBlank_space, Text.singleLine_eq_collapse]
    rfl
  · rw [Text.singleLine_eq_collapse, hcons, Text.collapse_false_cons hc]
    exact List.cons_ne_nil _ _

/-- What is left of a text is of short form. -/
theorem isShortForm_of_shorten (hgrows : rules.count.Grows)
    (hline : ∀ t : Text, rules.count t.singleLine ≤ rules.count t) {body : Text}
    (h : rules.shorten body = some short) (hne : short ≠ []) : IsShortForm rules short := by
  unfold Rules.shorten at h
  split at h
  · exact absurd (Option.some.inj h).symm hne
  next capped hcapped =>
    split at h
    · cases h
    obtain rfl := Option.some.inj h
    refine ⟨Text.singleLine_singleLine capped, fun hpolicy => ?sentence, fun max hmax => ?capped⟩
    case sentence =>
      have hsentence := isSentence_summary hpolicy body
      rcases capped?_cases hcapped with ⟨rfl, -⟩ | ⟨max, -, hleft, hcut, rfl⟩
      · exact hsentence.singleLine
      · exact (hsentence.append_mark (stopsAtBlank_truncate hcut hleft).1).singleLine
    case capped =>
      rcases capped?_cases hcapped with ⟨rfl, hwhole⟩ | ⟨other, hother, hleft, hcut, rfl⟩
      · obtain ⟨heq, hleft⟩ := hwhole max hmax
        have hfits := count_truncate_le hgrows (heq.symm ▸ hleft)
        rw [heq] at hfits
        exact .inl ((hline _).trans hfits)
      · obtain rfl : max = other := Option.some.inj (hmax.symm.trans hother)
        have hlast := (stopsAtBlank_truncate hcut hleft).2
        obtain ⟨hmark, hfront⟩ := singleLine_append_mark hleft hlast
        refine .inr ⟨_, hmark, hfront, (hline _).trans (count_truncate_le hgrows hleft), ?_⟩
        intro c hc
        rw [Text.singleLine_eq_collapse] at hc
        exact Text.isBlank_of_mem_getLast?_collapse hc

/-- **Shortening is final.** With each of the built-in counters, and whatever the policy and the
number of tokens, the rules do nothing to what they left of a text, if anything is left. -/
theorem shortening_is_final
    (hcount : rules.count = .quarterBytes ∨ rules.count = .bytes ∨ rules.count = .words)
    {body : Text} (h : rules.shorten body = some short) (hne : short ≠ []) :
    rules.shorten short = none := by
  have hgrows : rules.count.Grows := (Counter.growsInside_of_builtIn hcount).grows
  have hform : IsShortForm rules short :=
    isShortForm_of_shorten hgrows (Counter.count_singleLine_le hcount) h hne
  exact shorten_eq_none_of_isShortForm hgrows hform hne

/-- The first sentence, in two words at most. -/
def twoWords : Rules where
  options := { policy := .keepFirstSentence, maxTokens := some 2 }
  keep := []
  strip := []
  count := Counter.words

/-- With its mark the short form has a word too many, and is left as it is. -/
theorem shortening_is_final_marked :
    (twoWords.count = .quarterBytes ∨ twoWords.count = .bytes ∨ twoWords.count = .words) ∧
      twoWords.shorten "one  two\nthree. Four".toList = some "one two …".toList ∧
      2 < Counter.words "one two …".toList ∧ twoWords.shorten "one two …".toList = none := by
  have hcount : twoWords.count = .quarterBytes ∨ twoWords.count = .bytes ∨
      twoWords.count = .words := .inr (.inr rfl)
  have hshort : twoWords.shorten "one  two\nthree. Four".toList = some "one two …".toList := by
    decide +kernel
  exact ⟨hcount, hshort, by decide, shortening_is_final hcount hshort (by decide)⟩

end Comment
end Abridge
