import Abridge.Language.Table
import Abridge.Proofs.Comment.Short
import Mathlib.Data.List.Infix

/-!
Where a short block comment closes.

The delimiter is erased from a short form before it is put into a block comment. Erasing goes from
left to right and once, so that what stood around a delimiter can become one. Such texts are known
beforehand: a `*` and a `/` with nothing but delimiters between them (`IsShell`). A comment closes
at its end and nowhere else unless its body holds a shell (`render_closesOnce_iff`).
-/
namespace Abridge

namespace Text
variable {part : Text}

/-! ### Occurrences -/

/-- How often a part stands in a text, also where the places overlap. -/
def occurrences (part t : Text) : Nat :=
  t.tails.countP part.isPrefixOf

theorem occurrences_cons (part : Text) (c : Char) (t : Text) :
    occurrences part (c :: t) = (if part <+: c :: t then 1 else 0) + occurrences part t := by
  rw [occurrences, List.tails_cons, List.countP_cons, Nat.add_comm]
  simp only [List.isPrefixOf_iff_prefix, occurrences]

theorem occurrences_eq_zero {t : Text} : occurrences part t = 0 ↔ ¬ part <:+: t := by
  simp only [occurrences, List.countP_eq_zero, List.mem_tails, List.isPrefixOf_iff_prefix]
  refine ⟨fun h hin => ?_, fun h s hs hp => h (hp.isInfix.trans hs.isInfix)⟩
  obtain ⟨s, hp, hs⟩ := List.infix_iff_prefix_suffix.mp hin
  exact h s hs hp

/-- A part reaches over none of the characters that it does not have. -/
theorem prefix_append_cons_iff {s : Text} {c : Char} (hc : c ∉ part) (t : Text) :
    part <+: s ++ c :: t ↔ part <+: s := by
  refine ⟨fun h => ?_, fun h => h.trans (List.prefix_append s _)⟩
  rcases List.prefix_or_prefix_of_prefix h (List.prefix_append s (c :: t)) with h' | ⟨u, rfl⟩
  · exact h'
  · rcases u with _ | ⟨d, u⟩
    · simp
    · obtain rfl := (List.cons_prefix_cons.mp ((List.prefix_append_right_inj s).mp h)).1
      exact absurd (List.mem_append_right s List.mem_cons_self) hc

theorem occurrences_append_cons (hne : part ≠ []) {c : Char} (hc : c ∉ part) (s t : Text) :
    occurrences part (s ++ c :: t) = occurrences part s + occurrences part t := by
  induction s with
  | nil =>
    have hpart : ¬ part <+: c :: t := fun h => by
      have := (prefix_append_cons_iff (s := []) hc t).mp h
      exact hne (List.prefix_nil.mp this)
    rw [List.nil_append, occurrences_cons, if_neg hpart]
    simp [occurrences, hne]
  | cons d s ih =>
    rw [List.cons_append, occurrences_cons, occurrences_cons, ih, ← List.cons_append]
    simp only [prefix_append_cons_iff hc, Nat.add_assoc]

/-! ### Erasing -/

theorem erase_append (hne : part ≠ []) (t : Text) : erase (part ++ t) part = erase t part := by
  obtain ⟨c, rest, rfl⟩ := List.exists_cons_of_ne_nil hne
  have hskip : ∀ s : Text, eraseFrom (c :: rest) s.length (s ++ t) = eraseFrom (c :: rest) 0 t := by
    intro s
    induction s with
    | nil => rfl
    | cons d s ih => exact ih
  have hmet : (c :: rest).isPrefixOf (c :: rest ++ t) = true :=
    List.isPrefixOf_iff_prefix.mpr (List.prefix_append _ t)
  simp only [erase, List.isEmpty_cons, Bool.false_eq_true, if_false]
  rw [List.cons_append, eraseFrom, ← List.cons_append, if_pos hmet]
  exact hskip rest

theorem erase_cons {c : Char} {t : Text} (h : ¬ part <+: c :: t) :
    erase (c :: t) part = c :: erase t part := by
  have hne : part.isEmpty = false := by
    cases part with
    | nil => exact absurd List.nil_prefix h
    | cons => rfl
  simp only [erase, hne, Bool.false_eq_true, if_false]
  rw [eraseFrom, if_neg (mt List.isPrefixOf_iff_prefix.mp h)]

/-- The way that erasing goes through a text: over a whole part, or on by one character. -/
theorem erase_induction {motive : Text → Prop} (part : Text) (hne : part ≠ []) (nil : motive [])
    (met : ∀ t, motive t → motive (part ++ t))
    (kept : ∀ c t, ¬ part <+: c :: t → motive t → motive (c :: t)) (t : Text) : motive t := by
  induction hn : t.length using Nat.strong_induction_on generalizing t with
  | h n ih =>
    by_cases hpart : part <+: t
    · obtain ⟨u, rfl⟩ := hpart
      have hlen : u.length < n := by
        have := List.length_pos_iff.mpr hne
        rw [List.length_append] at hn
        omega
      exact met u (ih u.length hlen u rfl)
    · cases t with
      | nil => exact nil
      | cons c t => exact kept c t hpart (ih t.length (by simp [← hn]) t rfl)

end Text

namespace Comment
open Text

/-! ### Shells -/

/-- What closes a block comment. -/
def closer : Text :=
  ['*', '/']

/-- The second half of a delimiter behind some whole ones. -/
def lateHalf (n : Nat) : Text :=
  (List.replicate n closer).flatten ++ ['/']

/-- Whether a text is the two halves of a delimiter with whole ones between them. -/
def IsShell (t : Text) : Prop :=
  ∃ n, t = '*' :: lateHalf (n + 1)

theorem lateHalf_succ (n : Nat) : lateHalf (n + 1) = closer ++ lateHalf n := by
  rw [lateHalf, List.replicate_succ, List.flatten_cons, List.append_assoc, lateHalf]

theorem lateHalf_prefix_closer_append {n : Nat} {t : Text} :
    lateHalf n <+: closer ++ t ↔ ∃ m, n = m + 1 ∧ lateHalf m <+: t := by
  cases n with
  | zero =>
    refine ⟨fun h => ?_, fun ⟨m, hm, _⟩ => by omega⟩
    exact absurd (List.cons_prefix_cons.mp h).1 (by decide)
  | succ n =>
    rw [lateHalf_succ, List.prefix_append_right_inj]
    exact ⟨fun h => ⟨n, rfl, h⟩, fun ⟨m, hm, h⟩ => Nat.succ.inj hm ▸ h⟩

/-- What is left of a text begins with a second half if one follows some delimiters. -/
theorem slash_prefix_erase_iff {t : Text} :
    ['/'] <+: t.erase closer ↔ ∃ n, lateHalf n <+: t := by
  induction t using erase_induction closer (by decide) with
  | nil =>
    refine ⟨fun h => absurd h (by decide), fun ⟨n, h⟩ => ?_⟩
    simp [lateHalf] at h
  | met t ih =>
    rw [erase_append (by decide), ih]
    constructor
    · rintro ⟨n, h⟩
      exact ⟨n + 1, lateHalf_prefix_closer_append.mpr ⟨n, rfl, h⟩⟩
    · rintro ⟨n, h⟩
      obtain ⟨m, -, hm⟩ := lateHalf_prefix_closer_append.mp h
      exact ⟨m, hm⟩
  | kept c t hc _ =>
    rw [erase_cons hc, List.cons_prefix_cons]
    constructor
    · rintro ⟨rfl, -⟩
      exact ⟨0, List.cons_prefix_cons.mpr ⟨rfl, List.nil_prefix⟩⟩
    · rintro ⟨n, h⟩
      cases n with
      | zero => exact ⟨(List.cons_prefix_cons.mp h).1, List.nil_prefix⟩
      | succ n =>
        rw [lateHalf_succ] at h
        exact absurd ((List.prefix_append closer _).trans h) hc

/-- A shell does not begin with a delimiter, nor within one. -/
theorem shell_infix_closer_append {s t : Text} (hs : IsShell s) :
    s <:+: closer ++ t ↔ s <:+: t := by
  obtain ⟨n, rfl⟩ := hs
  have htwo : ¬ '*' :: lateHalf (n + 1) <+: closer ++ t := fun h =>
    absurd (List.cons_prefix_cons.mp (List.cons_prefix_cons.mp h).2).1 (by decide)
  have hone : ¬ '*' :: lateHalf (n + 1) <+: '/' :: t := fun h =>
    absurd (List.cons_prefix_cons.mp h).1 (by decide)
  refine ⟨fun h => ?_, fun h => h.trans (List.suffix_append closer t).isInfix⟩
  have h' := (List.infix_cons_iff.mp h).resolve_left htwo
  exact (List.infix_cons_iff.mp h').resolve_left hone

/-- A delimiter is left in a text after all were erased just if the text holds a shell. -/
theorem closer_infix_erase_iff {t : Text} :
    closer <:+: t.erase closer ↔ ∃ s, IsShell s ∧ s <:+: t := by
  induction t using erase_induction closer (by decide) with
  | nil =>
    refine ⟨fun h => absurd h (by decide), ?_⟩
    rintro ⟨s, ⟨n, rfl⟩, h⟩
    exact absurd (List.infix_nil.mp h) (List.cons_ne_nil _ _)
  | met t ih =>
    rw [erase_append (by decide), ih]
    exact exists_congr fun s => and_congr_right fun hs => (shell_infix_closer_append hs).symm
  | kept c t hc ih =>
    rw [erase_cons hc, List.infix_cons_iff, ih, show closer = '*' :: ['/'] from rfl,
      List.cons_prefix_cons, show ['*', '/'] = closer from rfl, slash_prefix_erase_iff]
    constructor
    · rintro (⟨rfl, n, h⟩ | ⟨s, hs, h⟩)
      · cases n with
        | zero => exact absurd (List.cons_prefix_cons.mpr ⟨rfl, h⟩) hc
        | succ n =>
          exact ⟨_, ⟨n, rfl⟩, List.IsPrefix.isInfix (List.cons_prefix_cons.mpr ⟨rfl, h⟩)⟩
      · exact ⟨s, hs, h.trans (List.suffix_cons c t).isInfix⟩
    · rintro ⟨s, hs, h⟩
      rcases List.infix_cons_iff.mp h with h | h
      · obtain ⟨n, rfl⟩ := hs
        obtain ⟨hstar, h⟩ := List.cons_prefix_cons.mp h
        exact .inl ⟨hstar, n + 1, h⟩
      · exact .inr ⟨s, hs, h⟩

/-! ### Rendering -/

/-- Whether a comment closes at its end and nowhere before. -/
def ClosesOnce (closer t : Text) : Prop :=
  closer <:+ t ∧ occurrences closer t = 1

instance (closer t : Text) : Decidable (ClosesOnce closer t) :=
  inferInstanceAs (Decidable (_ ∧ _))

/-- Every language closes block comments alike, and none of its openers closes one. -/
theorem occurrences_opener {l : Language} {opener close : String}
    (h : l.grammar.comments.block = some (opener, close)) :
    close.toList = closer ∧ occurrences closer opener.toList = 0 ∧
      ∀ m ∈ l.grammar.comments.docMarkers, occurrences closer m.toList = 0 := by
  have htable : ∀ p ∈ l.grammar.comments.block, p.2.toList = closer ∧
      occurrences closer p.1.toList = 0 ∧
      ∀ m ∈ l.grammar.comments.docMarkers, occurrences closer m.toList = 0 := by
    cases l <;> decide
  exact htable _ h

/-- A comment that opens as a block is cut short to one that closes at its end and nowhere before,
unless the short form holds a shell. -/
theorem render_closesOnce_iff (l : Language) {opener close : String} {comment : Text}
    (hblock : l.grammar.comments.block = some (opener, close))
    (hopens : comment.trimStart.startsWith opener.toList = true) (body : Text) :
    ClosesOnce close.toList (render l.grammar.comments comment body) ↔
      ∀ s, IsShell s → ¬ s <:+: body := by
  obtain ⟨hclose, hopener, hmarkers⟩ := occurrences_opener hblock
  obtain ⟨first, hfirst, hrender⟩ := render_of_opens hblock hopens body
  have hzero : occurrences closer first.toList = 0 := by
    rcases List.mem_cons.mp hfirst with rfl | hmem
    · exact hopener
    · exact hmarkers first hmem
  have hcount : occurrences closer (render l.grammar.comments comment body) =
      occurrences closer (body.erase closer) + 1 := by
    have hshape : CommentStyle.enclose first close (body.erase close.toList) =
        first.toList ++ ' ' :: (body.erase closer ++ ' ' :: closer) := by
      simp [CommentStyle.enclose, hclose]
    rw [hrender, hshape, occurrences_append_cons (by decide) (by decide),
      occurrences_append_cons (by decide) (by decide), hzero, Nat.zero_add]
    rfl
  have hsuffix : closer <:+ render l.grammar.comments comment body := by
    rw [hrender, ← hclose]
    exact List.suffix_append _ _
  calc ClosesOnce close.toList (render l.grammar.comments comment body)
    _ ↔ occurrences closer (body.erase closer) = 0 := by
      rw [hclose, ClosesOnce, hcount]
      simp [hsuffix]
    _ ↔ ¬ ∃ s, IsShell s ∧ s <:+: body := by
      rw [occurrences_eq_zero, closer_infix_erase_iff]
    _ ↔ ∀ s, IsShell s → ¬ s <:+: body := by
      simp only [not_exists, not_and]

theorem render_closesOnce_iff_sentence :
    Grammar.rust.comments.block = some ("/*", "*/") ∧
      ClosesOnce "*/".toList (render Grammar.rust.comments
        "/** Adds two numbers. Returns the sum. */".toList "Adds two numbers.".toList) := by
  refine ⟨rfl, (render_closesOnce_iff .rust rfl (by decide) _).mpr ?_⟩
  rintro _ ⟨n, rfl⟩ h
  exact absurd (h.subset List.mem_cons_self) (by decide)

/-- What two comments say in one short form can close the comment in its middle. -/
theorem short_form_closes_early :
    ¬ ∀ (l : Language) (opener close : String) (rules : Rules) (comment text body : Text),
      l.grammar.comments.block = some (opener, close) →
        comment.startsWith opener.toList = true → rules.shorten text = some body →
          ClosesOnce close.toList (render l.grammar.comments comment body) := by
  intro h
  have hearly := h .c "/*" "*/"
    { options := { policy := .keepFirstSentence }, keep := [], strip := [], count := Text.size }
    "/** alpha */".toList "alpha\n**// beta. Gamma".toList "alpha **// beta.".toList
    rfl (by decide) (by decide)
  exact absurd hearly (by decide)

end Comment

end Abridge
