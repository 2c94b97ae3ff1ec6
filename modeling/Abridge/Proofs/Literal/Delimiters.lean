import Abridge.Literal.Trim
import Abridge.Proofs.Text.Cut
import Mathlib.Data.List.Infix
import Mathlib.Data.List.TakeWhile

/-!
A string literal and its delimiters.

What is read as a string is its opener, its content and its closer (`ofText?_eq_some_iff`). All that
is looked at to tell the delimiters is the lead, the quote and, behind an `R`, the tag up to the
bracket, which are all in the opener; a quote counts as three only where two more of it follow. So
less content between the same delimiters is a string of the same shape, unless a quote at the front
of the content comes to stand between two others (`delimiters?_rebuild`).
-/
namespace Abridge

/-- A text is what it begins with, what it ends with and something in between, if there is room for
both. -/
theorem Text.exists_between {t front back : Text} (hfront : front <+: t) (hback : back <:+ t)
    (hsize : front.size + back.size ≤ t.size) : ∃ middle, t = front ++ middle ++ back := by
  obtain ⟨rest, rfl⟩ := hfront
  have hrest : size back ≤ size rest := by
    rw [size_append] at hsize
    omega
  suffices hsuffix : back <:+ rest by
    obtain ⟨middle, rfl⟩ := hsuffix
    exact ⟨middle, (List.append_assoc front middle back).symm⟩
  rcases List.suffix_or_suffix_of_suffix hback (List.suffix_append front rest) with h | ⟨more, h⟩
  · exact h
  · obtain rfl : more = [] := by
      by_contra hne
      have hpos := size_pos hne
      rw [← h, size_append] at hrest
      omega
    exact ⟨[], h.symm⟩

namespace StringShape

/-! ### Quotes -/

theorem isQuote_iff {q : Char} : isQuote q = true ↔ q = '"' ∨ q = '\'' ∨ q = '\x60' := by
  simp [isQuote, or_assoc]

theorem isQuote_eq_false_of_isLeadChar {c : Char} (h : isLeadChar c = true) :
    isQuote c = false := by
  refine Bool.eq_false_iff.mpr fun hquote => ?_
  rcases isQuote_iff.mp hquote with rfl | rfl | rfl <;> cases h

/-- A double or single quote with two more of it behind is read as three, any other one alone. -/
theorem quoteOf_eq {q : Char} (hq : isQuote q = true) (t : Text) :
    quoteOf (q :: t) = if q ≠ '\x60' ∧ [q, q] <+: t then [q, q, q] else [q] := by
  have hstarts : ∀ c, Text.startsWith (q :: t) [c, c, c] = true ↔ c = q ∧ [q, q] <+: t := by
    intro c
    rw [Text.startsWith, List.isPrefixOf_iff_prefix, List.cons_prefix_cons]
    exact and_congr_right fun h => by rw [h]
  rcases isQuote_iff.mp hq with rfl | rfl | rfl <;> simp [quoteOf, hstarts]

theorem quoteOf_isPrefix (t : Text) : quoteOf t <+: t := by
  unfold quoteOf
  split
  next h => exact List.isPrefixOf_iff_prefix.mp h
  · split
    next h => exact List.isPrefixOf_iff_prefix.mp h
    · exact List.take_prefix 1 t

/-- The quote of a string is read again in front of other content, which may not begin with it. -/
theorem quoteOf_rebuild {q : Char} (hq : isQuote q = true) {rest content tail : Text}
    (hcontent : content.head? ≠ some q) (htail : tail.head? ≠ some q) :
    quoteOf (quoteOf (q :: rest) ++ (content ++ quoteOf (q :: rest) ++ tail)) =
      quoteOf (q :: rest) := by
  rw [quoteOf_eq hq rest]
  split
  next h =>
    rw [List.cons_append, quoteOf_eq hq, if_pos ⟨h.1, List.prefix_append [q, q] _⟩]
  · rw [List.singleton_append, quoteOf_eq hq, if_neg]
    rintro ⟨-, back, heq⟩
    -- The second quote would be the closing one, and the third would stand behind it.
    cases content with
    | nil =>
      obtain rfl : q :: back = tail := (List.cons.inj heq).2
      exact htail rfl
    | cons c content =>
      obtain rfl : q = c := (List.cons.inj heq).1
      exact hcontent rfl

/-! ### Delimiters -/

section
variable {lead rest opener closer : Text}

/-- The delimiters with a tag: those of a double quote behind an `R`, with a bracket after it. -/
theorem delimiters?_tagged (hraw : lead.getLast? = some 'R') {tag : Text} (htag : '(' ∉ tag)
    (back : Text) :
    delimiters? lead ('"' :: (tag ++ '(' :: back)) =
      some (lead ++ ('"' :: tag) ++ ['('], [')'] ++ tag ++ ['"']) := by
  have hfront : ('"' :: (tag ++ '(' :: back)).takeWhile (· != '(') = '"' :: tag := by
    rw [List.takeWhile_cons_of_pos (by decide), List.takeWhile_append_of_pos,
      List.takeWhile_cons_of_neg (by decide), List.append_nil]
    exact fun c hc => bne_iff_ne.mpr fun heq => htag (heq ▸ hc)
  rw [delimiters?, hraw, if_pos (by rfl)]
  dsimp only
  rw [hfront, if_pos (by simp)]
  rfl

theorem delimiters?_quoted (hraw : ¬ (lead.getLast? = some 'R' ∧ rest.head? = some '"')) :
    delimiters? lead rest =
      some (lead ++ quoteOf rest, quoteOf rest ++ List.replicate (lead.count '#') '#') := by
  rw [delimiters?, if_neg (by simpa using hraw)]

/-- Delimiters have a tag or are quotes. -/
theorem delimiters?_cases (h : delimiters? lead rest = some (opener, closer)) :
    (lead.getLast? = some 'R' ∧ ∃ tag back, '(' ∉ tag ∧ rest = '"' :: (tag ++ '(' :: back)) ∨
      ¬ (lead.getLast? = some 'R' ∧ rest.head? = some '"') := by
  by_cases hraw : lead.getLast? = some 'R' ∧ rest.head? = some '"'
  · obtain ⟨tail, rfl⟩ := List.head?_eq_some_iff.mp hraw.2
    have hbracket : '(' ∈ tail := by
      by_contra hnone
      have hall : ('"' :: tail).takeWhile (· != '(') = '"' :: tail := by
        refine List.takeWhile_eq_self_iff.mpr fun c hc => bne_iff_ne.mpr ?_
        rintro rfl
        exact hnone ((List.mem_cons.mp hc).resolve_left (by decide))
      rw [delimiters?, hraw.1, if_pos (by rfl)] at h
      simp [hall] at h
    obtain ⟨tag, back, rfl, htag⟩ := List.eq_append_cons_of_mem hbracket
    exact .inl ⟨hraw.1, tag, back, htag, rfl⟩
  · exact .inr hraw

/-- The opener is what a literal begins with. -/
theorem opener_isPrefix (h : delimiters? lead rest = some (opener, closer)) :
    opener <+: lead ++ rest := by
  rcases delimiters?_cases h with ⟨hraw, tag, back, htag, rfl⟩ | hraw
  · rw [delimiters?_tagged hraw htag] at h
    obtain ⟨rfl, -⟩ := Prod.mk.inj (Option.some.inj h)
    exact ⟨back, by simp⟩
  · rw [delimiters?_quoted hraw] at h
    obtain ⟨rfl, -⟩ := Prod.mk.inj (Option.some.inj h)
    exact List.prefix_append_right_inj lead |>.mpr (quoteOf_isPrefix rest)

/-- An opener begins with a quote or with what stands in front of one. -/
theorem head?_opener {q : Char} (hq : isQuote q = true)
    (h : delimiters? lead (q :: rest) = some (opener, closer)) :
    opener.head? = (lead ++ [q]).head? := by
  rcases delimiters?_cases h with ⟨hraw, tag, back, htag, heq⟩ | hraw
  · obtain ⟨rfl, rfl⟩ := List.cons.inj heq
    rw [delimiters?_tagged hraw htag] at h
    obtain ⟨rfl, -⟩ := Prod.mk.inj (Option.some.inj h)
    simp [List.head?_append]
  · rw [delimiters?_quoted hraw] at h
    obtain ⟨rfl, -⟩ := Prod.mk.inj (Option.some.inj h)
    rw [quoteOf_eq hq, List.head?_append, List.head?_append]
    split <;> rfl

/-- The delimiters of a string are read again around other content, which may not begin with its
quote. -/
theorem delimiters?_rebuild {q : Char} (hq : isQuote q = true)
    (h : delimiters? lead (q :: rest) = some (opener, closer)) {content : Text}
    (hcontent : content.head? ≠ some q) :
    ∃ rest', opener ++ content ++ closer = lead ++ q :: rest' ∧
      delimiters? lead (q :: rest') = some (opener, closer) := by
  rcases delimiters?_cases h with ⟨hraw, tag, back, htag, heq⟩ | hraw
  · obtain ⟨rfl, rfl⟩ := List.cons.inj heq
    rw [delimiters?_tagged hraw htag] at h
    obtain ⟨rfl, rfl⟩ := Prod.mk.inj (Option.some.inj h)
    refine ⟨tag ++ '(' :: (content ++ (')' :: (tag ++ ['"']))), by simp, ?_⟩
    rw [delimiters?_tagged hraw htag]
  · rw [delimiters?_quoted hraw] at h
    obtain ⟨rfl, rfl⟩ := Prod.mk.inj (Option.some.inj h)
    have hhashes : (List.replicate (lead.count '#') '#').head? ≠ some q := by
      intro hhead
      rw [List.eq_of_mem_replicate (List.mem_of_mem_head? hhead)] at hq
      cases hq
    have hquote := @quoteOf_rebuild q hq rest content _ hcontent hhashes
    obtain ⟨more, hmore⟩ : ∃ more, quoteOf (q :: rest) = q :: more := by
      rw [quoteOf_eq hq]
      split <;> exact ⟨_, rfl⟩
    refine ⟨more ++ (content ++ quoteOf (q :: rest) ++ List.replicate (lead.count '#') '#'), ?_, ?_⟩
    · simp [hmore]
    · rw [← List.cons_append, ← hmore, delimiters?_quoted, hquote]
      rwa [hmore, List.cons_append, List.head?_cons]

end

/-! ### Literals -/

/-- What is read as a string: a lead, a quote and what follows, which in all are the opener, the
content and the closer. -/
theorem ofText?_eq_some_iff {text : Text} {start : Nat} {shape : StringShape} :
    ofText? text start = some shape ↔
      ∃ lead q rest content, (∀ c ∈ lead, isLeadChar c = true) ∧ isQuote q = true ∧
        text = lead ++ q :: rest ∧
        delimiters? lead (q :: rest) = some (shape.opener, shape.closer) ∧
        text = shape.rebuild content ∧
        shape.content = .between (start + shape.opener.size)
          (start + shape.opener.size + content.size) ∧
        shape.interpolation = interpolationOf lead shape.opener := by
  constructor
  · intro h
    have hsplit : text.takeWhile (!isQuote ·) ++ text.dropWhile (!isQuote ·) = text :=
      List.takeWhile_append_dropWhile
    have hstop := List.head?_dropWhile_not (!isQuote ·) text
    unfold ofText? at h
    dsimp only at h
    generalize text.takeWhile (!isQuote ·) = lead at h hsplit
    cases hrest : text.dropWhile (!isQuote ·) with
    | nil => simp [hrest] at h
    | cons q rest =>
      rw [hrest] at h hsplit hstop
      split at h
      · cases h
      next hlead =>
        obtain ⟨⟨opener, closer⟩, hdelimiters, h⟩ := Option.bind_eq_some_iff.mp h
        dsimp only at h
        split at h
        · cases h
        next hfits =>
          obtain rfl := Option.some.inj h
          obtain ⟨hsize, hends⟩ : opener.size + closer.size ≤ text.size ∧
              text.endsWith closer = true := by simpa using hfits
          obtain ⟨content, hcontent⟩ := Text.exists_between
            (hsplit ▸ opener_isPrefix hdelimiters) (List.isSuffixOf_iff_suffix.mp hends) hsize
          refine ⟨lead, q, rest, content, by simpa using hlead, by simpa using hstop, hsplit.symm,
            hdelimiters, hcontent, ?_, rfl⟩
          have htotal : text.size = opener.size + content.size + closer.size := by
            rw [hcontent, Text.size_append, Text.size_append]
          dsimp only
          congr 1
          omega
  · rintro ⟨lead, q, rest, content, hlead, hq, htext, hdelimiters, hcontent, hspan, hinterp⟩
    have hpasses : ∀ c ∈ lead, (!isQuote c) = true := fun c hc => by
      rw [isQuote_eq_false_of_isLeadChar (hlead c hc)]
      rfl
    have hfront : text.takeWhile (!isQuote ·) = lead := by
      rw [htext, List.takeWhile_append_of_pos hpasses, List.takeWhile_cons_of_neg (by simp [hq]),
        List.append_nil]
    have hback : text.dropWhile (!isQuote ·) = q :: rest := by
      rw [htext, List.dropWhile_append_of_pos hpasses, List.dropWhile_cons_of_neg (by simp [hq])]
    have hends : text.endsWith shape.closer = true := by
      rw [hcontent]
      exact List.isSuffixOf_iff_suffix.mpr (List.suffix_append _ _)
    have hsize : text.size = shape.opener.size + content.size + shape.closer.size := by
      rw [hcontent, rebuild, Text.size_append, Text.size_append]
    have hstop : start + text.size - shape.closer.size =
        start + shape.opener.size + content.size := by omega
    unfold ofText?
    dsimp only
    rw [hfront, hback, if_neg (by simpa using hlead), hdelimiters, Option.bind_some]
    dsimp only
    rw [if_neg (by simp [hends, hsize]), hstop, ← hspan, ← hinterp]

/-- **A string is its delimiters around its content, and less content leaves it a string of the same
shape.** Its text is the opener, the slice at the span of the content and the closer. Any part from
the front of the content, put between the same delimiters, is read with these delimiters and the
same interpolation, and as all of the content, unless the content begins with the quote of the
string. -/
theorem ofText?_stable {text : Text} {start : Nat} {shape : StringShape}
    (h : ofText? text start = some shape) :
    ∃ content, text = shape.opener ++ content ++ shape.closer ∧
      start ≤ shape.content.start ∧
      text.slice? (shape.content.start - start) (shape.content.stop - start) = some content ∧
      (content.head? ≠ text.find? isQuote → ∀ front, front <+: content →
        ofText? (shape.opener ++ front ++ shape.closer) start =
          some { shape with
            content := .between (start + shape.opener.size)
              (start + shape.opener.size + Text.size front) }) := by
  obtain ⟨lead, q, rest, content, hlead, hq, htext, hdelimiters, hcontent, hspan, hinterp⟩ :=
    ofText?_eq_some_iff.mp h
  have hstart : shape.content.start = start + shape.opener.size := by rw [hspan]; rfl
  have hstop : shape.content.stop = start + shape.opener.size + content.size := by
    rw [hspan]
    exact Nat.max_eq_left (Nat.le_add_right _ _)
  have hfind : text.find? isQuote = some q := by
    rw [htext, List.find?_append, List.find?_eq_none.mpr fun c hc => by
      simp [isQuote_eq_false_of_isLeadChar (hlead c hc)]]
    simp [hq]
  refine ⟨content, hcontent, by omega, ?_, fun hfirst front hfront => ?_⟩
  · have hleft : shape.content.start - start = shape.opener.size := by omega
    have hright : shape.content.stop - start = shape.opener.size + content.size := by omega
    rw [hleft, hright, hcontent, rebuild, List.append_assoc, Text.slice?_append_append]
  · have hhead : front.head? ≠ some q := by
      rw [hfind] at hfirst
      obtain ⟨back, rfl⟩ := hfront
      cases front with
      | nil => exact fun h => by cases h
      | cons c front => exact hfirst
    obtain ⟨rest', heq, hdelimiters'⟩ := delimiters?_rebuild hq hdelimiters hhead
    exact ofText?_eq_some_iff.mpr ⟨lead, q, rest', front, hlead, hq, heq, hdelimiters', rfl, rfl,
      hinterp⟩

/-- The shape of a string behind an `f`, in three quotes. -/
def tripleFormat : StringShape where
  opener := ['f', '"', '"', '"']
  closer := ['"', '"', '"']
  content := .between 11 15
  interpolation := .brace

/-- A format string in three quotes, cut behind a quote in its content, and cut to nothing. -/
theorem ofText?_stable_triple :
    ofText? ['f', '"', '"', '"', 'a', '"', 'b', 'c', '"', '"', '"'] 7 = some tripleFormat ∧
      ofText? ['f', '"', '"', '"', 'a', '"', '"', '"', '"'] 7 =
        some { tripleFormat with content := .between 11 13 } ∧
      ofText? ['f', '"', '"', '"', '"', '"', '"'] 7 =
        some { tripleFormat with content := .between 11 11 } := by
  have hshape : ofText? ['f', '"', '"', '"', 'a', '"', 'b', 'c', '"', '"', '"'] 7 =
      some tripleFormat := by decide +kernel
  obtain ⟨content, -, -, hslice, hcuts⟩ := ofText?_stable hshape
  obtain rfl : ['a', '"', 'b', 'c'] = content := Option.some.inj (Eq.trans (by decide) hslice)
  have hcut := hcuts (by decide)
  exact ⟨hshape, hcut ['a', '"'] ⟨['b', 'c'], rfl⟩, hcut [] (List.nil_prefix)⟩

end StringShape

end Abridge
