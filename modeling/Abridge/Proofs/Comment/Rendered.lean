import Abridge.Comment.Placeholder
import Abridge.Language.Table
import Abridge.Proofs.Comment.Elision
import Abridge.Proofs.Text.Chars
import Abridge.Proofs.Text.Trim

/-!
Comments that were rendered are read back.

Where the delimiters of a language can be told apart (`CommentStyle.IsUnambiguous`), a text on one
line without blanks around it (`Text.IsLine`) comes out of a comment as it went in: what takes it
out takes none of it for more of the delimiter (`stripMarkers_lineComment`, `stripMarkers_enclose`).
The wordings of placeholders are such texts, so every placeholder is known again, and the end of a
list is told from what was left out (`Language.stripMarkers_rendered`).
-/
namespace Abridge

/-- A text on one line, without blanks around it. -/
structure Text.IsLine (t : Text) : Prop where
  single : '\n' ∉ t
  trimmed : t.trim = t

namespace CommentStyle
variable {style : CommentStyle} {opener closer : String} {t : Text}

/-! ### Delimiters -/

/-- Whether a delimiter is there to be seen: not empty, and without blanks. -/
def IsVisible (s : String) : Prop :=
  s.toList ≠ [] ∧ s.toList.all (fun c => !Text.isBlank c) = true

instance (s : String) : Decidable (IsVisible s) :=
  inferInstanceAs (Decidable (_ ∧ _))

/-- Whether neither of two delimiters begins with the other. -/
def AreDistinct (s s' : String) : Prop :=
  ¬ s.toList <+: s'.toList ∧ ¬ s'.toList <+: s.toList

instance (s s' : String) : Decidable (AreDistinct s s') :=
  inferInstanceAs (Decidable (_ ∧ _))

/-- Whether there are comments to the end of the line, and none of them can be taken for one that
closes itself. -/
structure IsUnambiguous (style : CommentStyle) : Prop where
  line : ∃ opener, style.line = some opener ∧ IsVisible opener ∧
    ∀ p ∈ style.block, AreDistinct p.1 opener
  block : ∀ p ∈ style.block, IsVisible p.1 ∧ IsVisible p.2

theorem IsVisible.not_isBlank (h : IsVisible opener) :
    ∀ c ∈ opener.toList, Text.isBlank c = false := by
  simpa using h.2

theorem IsVisible.head? (h : IsVisible opener) (t : Text) :
    ∀ c ∈ (opener.toList ++ t).head?, Text.isBlank c = false := by
  intro c hc
  rw [List.head?_append_of_ne_nil _ h.1] at hc
  exact h.not_isBlank c (List.mem_of_mem_head? hc)

theorem IsVisible.getLast? (h : IsVisible closer) (t : Text) :
    ∀ c ∈ (t ++ closer.toList).getLast?, Text.isBlank c = false := by
  intro c hc
  rw [List.getLast?_append_of_ne_nil t h.1] at hc
  exact h.not_isBlank c (List.mem_of_getLast? hc)

theorem IsVisible.newline_not_mem (h : IsVisible opener) : '\n' ∉ opener.toList :=
  fun hmem => absurd (h.not_isBlank _ hmem) (by decide)

theorem AreDistinct.not_isPrefix_append {s s' : String} (h : AreDistinct s s') (t : Text) :
    ¬ s.toList <+: s'.toList ++ t :=
  fun hpre => (List.prefix_or_prefix_of_prefix hpre (List.prefix_append _ t)).elim h.1 h.2

/-! ### Comments to the end of the line -/

theorem mapLines_of_not_mem (f : Text → Text) (h : '\n' ∉ t) : mapLines f t = (f t).trim := by
  rw [mapLines, Text.split_of_not_mem h]
  rfl

/-- The blank behind an opener goes with the text that it stands before. -/
theorem trim_opener (ho : IsVisible opener) (ht : t.trim = t) :
    Text.trim (opener.toList ++ [' '] ++ t) = opener.toList ++ if t = [] then [] else ' ' :: t := by
  split
  next hnil =>
    have hopener : Text.trim opener.toList = opener.toList :=
      Text.trim_eq_self_of_ends (by simpa using ho.head? []) (ho.getLast? [])
    subst hnil
    simpa using @Text.trim_append_append opener.toList [] [' '] rfl (by decide) hopener
  next hne =>
    rw [List.append_assoc]
    refine Text.trim_eq_self_of_ends (ho.head? _) fun c hc => ?_
    rw [← List.append_assoc, List.getLast?_append_of_ne_nil _ hne, ← ht] at hc
    exact Text.not_isBlank_getLast?_trim hc

/-- The blank behind an opener keeps the marks of documentation apart from the text. -/
theorem stripOpener_opener (ho : IsVisible opener) (ht : t.trim = t) :
    stripOpener opener (opener.toList ++ [' '] ++ t) = t := by
  rw [stripOpener, trim_opener ho ht, Placeholder.stripStart?_append]
  show Text.trimStart ((if t = [] then [] else ' ' :: t).dropWhile _) = t
  split
  next hnil =>
    subst hnil
    rfl
  next hne =>
    rw [List.dropWhile_cons_of_neg (by decide), Text.trimStart_cons_of_isBlank (by decide),
      Text.trimStart_of_trim ht]

theorem stripOpener_trim (opener : String) (t : Text) :
    stripOpener opener t.trim = stripOpener opener t := by
  rw [stripOpener, stripOpener, Text.trim_trim]

theorem inside?_eq_none (h : ¬ opener.toList <+: t) : inside? opener closer t = none := by
  have hstarts : Text.startsWith t opener.toList = false :=
    Bool.eq_false_iff.mpr fun htrue => h (List.isPrefixOf_iff_prefix.mp htrue)
  rw [inside?, hstarts]
  rfl

/-- A comment to the end of the line says what was put into it. -/
theorem stripMarkers_lineComment (hs : style.IsUnambiguous) (ht : t.IsLine) :
    style.stripMarkers (style.lineComment t) = t := by
  obtain ⟨opener, hline, ho, hdistinct⟩ := hs.line
  have hcomment : style.lineComment t = opener.toList ++ [' '] ++ t := by
    rw [lineComment, hline]
  have hblock : (style.block.bind fun p => inside? p.1 p.2 (style.lineComment t).trim) = none := by
    rw [Option.bind_eq_none_iff]
    intro p hp
    rw [hcomment, trim_opener ho ht.trimmed]
    exact inside?_eq_none ((hdistinct p hp).not_isPrefix_append _)
  have hmem : '\n' ∉ (style.lineComment t).trim := by
    intro h
    rw [hcomment] at h
    simpa [ho.newline_not_mem, ht.single] using Text.mem_of_mem_trim h
  calc style.stripMarkers (style.lineComment t)
      = mapLines (stripOpener opener) (style.lineComment t).trim := by
        rw [stripMarkers, hblock, hline]
    _ = (stripOpener opener (style.lineComment t)).trim := by
        rw [mapLines_of_not_mem _ hmem, stripOpener_trim]
    _ = t := by rw [hcomment, stripOpener_opener ho ht.trimmed, ht.trimmed]

/-! ### Comments that close themselves -/

theorem inside?_enclose (opener closer : String) (t : Text) :
    inside? opener closer (enclose opener closer t) = some ([' '] ++ t ++ [' ']) := by
  have heq : enclose opener closer t = opener.toList ++ ([' '] ++ t ++ [' '] ++ closer.toList) := by
    simp [enclose]
  have hstarts : (enclose opener closer t).startsWith opener.toList = true :=
    List.isPrefixOf_iff_prefix.mpr (heq ▸ List.prefix_append _ _)
  have hends : (enclose opener closer t).endsWith closer.toList = true :=
    List.isSuffixOf_iff_suffix.mpr (List.suffix_append _ _)
  have hlen : (enclose opener closer t).length =
      opener.toList.length + ([' '] ++ t ++ [' ']).length + closer.toList.length := by
    rw [heq, List.length_append, List.length_append]
    omega
  have htake : (enclose opener closer t).length - opener.toList.length - closer.toList.length =
      ([' '] ++ t ++ [' ']).length := by omega
  have hlong : opener.toList.length + closer.toList.length ≤ (enclose opener closer t).length := by
    omega
  simp only [inside?, hstarts, hends, hlong, htake, decide_true, Bool.and_true, if_true]
  rw [heq, List.drop_left, List.take_left]

/-- Blanks at the edge of a line are none of its text, nor is a star there. -/
theorem stripGutter_blanks (ht : t.trim = t) (hstar : t.head? ≠ some '*') :
    stripGutter ([' '] ++ t ++ [' ']) = t := by
  have hstrip : t.stripStart? ['*'] = none := by
    cases t with
    | nil => rfl
    | cons c t =>
      have hc : ('*' == c) = false := beq_false_of_ne fun heq => hstar (congrArg some heq.symm)
      simp [Text.stripStart?, List.isPrefixOf?, hc]
  rw [stripGutter, Text.trim_append_append (by decide) (by decide) ht, hstrip]

/-- A comment that closes itself says what was put into it, unless that begins with a star. -/
theorem stripMarkers_enclose (hblock : style.block = some (opener, closer)) (ho : IsVisible opener)
    (hc : IsVisible closer) (ht : t.IsLine) (hstar : t.head? ≠ some '*') :
    style.stripMarkers (enclose opener closer t) = t := by
  have htrim : (enclose opener closer t).trim = enclose opener closer t := by
    refine Text.trim_eq_self_of_ends ?_ (hc.getLast? _)
    simpa [enclose] using ho.head? ([' '] ++ t ++ [' '] ++ closer.toList)
  have hinside : (style.block.bind fun p => inside? p.1 p.2 (enclose opener closer t).trim) =
      some ([' '] ++ t ++ [' ']) := by
    rw [htrim, hblock]
    exact inside?_enclose opener closer t
  have hmem : '\n' ∉ [' '] ++ t ++ [' '] := by simpa using ht.single
  calc style.stripMarkers (enclose opener closer t)
      = mapLines stripGutter ([' '] ++ t ++ [' ']) := by
        rw [stripMarkers, hinside]
        rfl
    _ = t := by
        rw [mapLines_of_not_mem _ hmem, stripGutter_blanks ht.trimmed hstar, ht.trimmed]

/-- Whether a comment is one of the renderings of a text. -/
def Renders (style : CommentStyle) (t comment : Text) : Prop :=
  comment = style.lineComment t ∨ style.blockComment? t = some comment

/-- A text that does not begin with a star comes out of its renderings as it went in. -/
theorem Renders.stripMarkers {comment : Text} (hr : style.Renders t comment)
    (hs : style.IsUnambiguous) (ht : t.IsLine) (hstar : t.head? ≠ some '*') :
    style.stripMarkers comment = t := by
  rcases hr with rfl | hblock
  · exact stripMarkers_lineComment hs ht
  · obtain ⟨⟨opener, closer⟩, hsome, rfl⟩ := Option.map_eq_some_iff.mp hblock
    obtain ⟨ho, hc⟩ := hs.block _ hsome
    exact stripMarkers_enclose hsome ho hc ht hstar

theorem stripMarkers_blockComment? (hs : style.IsUnambiguous) (hblock : style.hasBlock = true)
    (ht : t.IsLine) (hstar : t.head? ≠ some '*') :
    (style.blockComment? t).map style.stripMarkers = some t := by
  obtain ⟨comment, hcomment⟩ : ∃ comment, style.blockComment? t = some comment :=
    Option.isSome_iff_exists.mp (by simpa [blockComment?, hasBlock] using hblock)
  rw [hcomment]
  exact congrArg some (Renders.stripMarkers (.inr hcomment) hs ht hstar)

end CommentStyle

/-! ### The wording of placeholders -/

namespace Placeholder
variable {t noun : Text}

/-- What begins with the marker fits on a line if its end does and is to be seen. -/
theorem isLine_of_ending {s ending : Text} (hs : '\n' ∉ s) (hending : '\n' ∉ ending)
    (hlast : (ending.getLast?.any fun c => !Text.isBlank c) = true) :
    Text.IsLine (marker :: (s ++ ending)) := by
  have hne : ending ≠ [] := fun hnil => by simp [hnil] at hlast
  refine ⟨?_, Text.trim_eq_self_of_ends ?_ ?_⟩
  · simp [hs, hending, marker]
  · intro c hc
    obtain rfl : marker = c := Option.some.inj hc
    decide
  · intro c hc
    rw [← List.cons_append, List.getLast?_append_of_ne_nil _ hne] at hc
    simpa [Option.mem_def.mp hc] using hlast

theorem newline_not_mem_decimal (n : Nat) : '\n' ∉ decimal n :=
  fun hmem => absurd (List.all_eq_true.mp (isDigit_decimal n) _ hmem) (by decide)

theorem newline_not_mem_plural (h : '\n' ∉ noun) : '\n' ∉ plural noun := by
  unfold plural
  split
  · simp [h]
  · split
    · have hinit : '\n' ∉ noun.dropLast := fun hmem => h ((List.dropLast_sublist noun).subset hmem)
      simp [hinit]
    · simp [h]

theorem exists_eq_omitted (count : Nat) (h : '\n' ∉ noun) :
    ∃ s : Text, '\n' ∉ s ∧ omitted count noun = marker :: (s ++ " omitted".toList) := by
  unfold omitted
  split
  · exact ⟨' ' :: noun, by simp [h], rfl⟩
  · refine ⟨[' '] ++ decimal count ++ [' '] ++ plural noun, ?_, by simp⟩
    simp [newline_not_mem_decimal, newline_not_mem_plural h]

theorem isLine_omitted (count : Nat) (h : '\n' ∉ noun) : (omitted count noun).IsLine := by
  obtain ⟨s, hs, heq⟩ := exists_eq_omitted count h
  exact heq ▸ isLine_of_ending hs (by decide) (by decide)

theorem isLine_more (count : Nat) : (more count).IsLine :=
  isLine_of_ending (s := ' ' :: decimal count) (by simp [newline_not_mem_decimal]) (by decide)
    (by decide)

theorem isLine_literalString (saved : Nat) : (literalString saved).IsLine := by
  have hs : '\n' ∉ " literal string (−".toList ++ decimal saved := fun hmem =>
    (List.mem_append.mp hmem).elim (by decide) (newline_not_mem_decimal saved)
  exact isLine_of_ending hs (by decide) (by decide)

/-! ### Placeholders known again -/

theorem isMore_more (count : Nat) : isMore (more count) = true := by
  have hstrip : (more count).stripStart? [marker, ' '] =
      some (decimal count ++ ' ' :: "more".toList) := by
    rw [more, List.append_assoc]
    exact stripStart?_append _ _
  obtain ⟨htake, hdrop⟩ := takeWhile_digits (isDigit_decimal count) "more".toList
  have hne : (decimal count).isEmpty = false := by simp [decimal, Nat.toDigits_ne_nil]
  simp only [isMore, hstrip, htake, hdrop, hne]
  rfl

/-- What says that a list goes on ends with the word for it. -/
theorem isSuffix_of_isMore (h : isMore t = true) : " more".toList <:+ t := by
  unfold isMore at h
  split at h
  · cases h
  next rest hrest =>
    have heq : [marker, ' '] ++ rest = t := List.isPrefixOf?_eq_some_iff_append_eq.mp hrest
    have hdrop : rest.dropWhile CharSet.digit.contains = " more".toList :=
      eq_of_beq (Bool.and_eq_true_iff.mp h).2
    rw [← heq, ← hdrop]
    exact (List.dropWhile_suffix _).trans (List.suffix_append _ _)

theorem isMore_omitted (count : Nat) (h : '\n' ∉ noun) : isMore (omitted count noun) = false := by
  refine Bool.eq_false_iff.mpr fun hmore => ?_
  obtain ⟨s, -, heq⟩ := exists_eq_omitted count h
  obtain ⟨u, hu⟩ := isSuffix_of_isMore hmore
  have hlast := congrArg List.getLast? (hu.trans heq)
  rw [← List.cons_append, List.getLast?_append_of_ne_nil _ (by decide),
    List.getLast?_append_of_ne_nil _ (by decide)] at hlast
  exact absurd hlast (by decide)

section
variable {style : CommentStyle} (hs : style.IsUnambiguous) {comment : Text}
include hs

theorem isPlaceholder_of_renders (ht : t.IsLine) (hhead : t.head? = some marker)
    (hr : style.Renders t comment) : isPlaceholder style comment = true := by
  rw [isPlaceholder, hr.stripMarkers hs ht (by rw [hhead]; decide), hhead, beq_self_eq_true]

theorem isMoreMarker_of_renders (ht : t.IsLine) (hhead : t.head? = some marker)
    (hr : style.Renders t comment) : isMoreMarker style comment = isMore t := by
  rw [isMoreMarker, hr.stripMarkers hs ht (by rw [hhead]; decide)]

end

theorem head?_omitted (count : Nat) (noun : Text) : (omitted count noun).head? = some marker := by
  unfold omitted
  split <;> rfl

end Placeholder

/-! ### The languages -/

/-- No language has a comment to the end of the line that could be taken for another one. -/
theorem Language.isUnambiguous (l : Language) : l.grammar.comments.IsUnambiguous := by
  have hslash : ∀ markers, (Grammar.slashComments markers).IsUnambiguous := by
    intro markers
    refine ⟨⟨"//", rfl, by decide, fun p hp => ?_⟩, fun p hp => ?_⟩ <;>
    · obtain rfl := Option.some.inj hp
      decide
  cases l
  case python => exact ⟨⟨"#", rfl, by decide, fun p hp => nomatch hp⟩, fun p hp => nomatch hp⟩
  all_goals exact hslash _

/-- In every language a text comes out of its renderings as it went in, and placeholders are known
again: all of them as placeholders, and of those what says that a list goes on from what says what
was left out. -/
theorem Language.stripMarkers_rendered (l : Language) :
    (∀ t : Text, t.IsLine →
      l.grammar.comments.stripMarkers (l.grammar.comments.lineComment t) = t ∧
      (l.grammar.comments.hasBlock = true → t.head? ≠ some '*' →
        (l.grammar.comments.blockComment? t).map l.grammar.comments.stripMarkers = some t)) ∧
    (∀ (count : Nat) (noun : Text), noun.IsLine →
      ∀ comment, l.grammar.comments.Renders (Placeholder.omitted count noun) comment →
        Placeholder.isPlaceholder l.grammar.comments comment = true ∧
        Placeholder.isMoreMarker l.grammar.comments comment = false) ∧
    (∀ (saved : Nat) (comment : Text),
      l.grammar.comments.Renders (Placeholder.literalString saved) comment →
        Placeholder.isPlaceholder l.grammar.comments comment = true) ∧
    (∀ (count : Nat) (comment : Text),
      l.grammar.comments.Renders (Placeholder.more count) comment →
        Placeholder.isPlaceholder l.grammar.comments comment = true ∧
        Placeholder.isMoreMarker l.grammar.comments comment = true) := by
  have hs := l.isUnambiguous
  refine ⟨fun t ht => ?_, fun count noun hnoun comment hr => ?_, fun saved comment hr => ?_,
    fun count comment hr => ?_⟩
  · exact ⟨CommentStyle.stripMarkers_lineComment hs ht,
      fun hblock => CommentStyle.stripMarkers_blockComment? hs hblock ht⟩
  · have hline := Placeholder.isLine_omitted count hnoun.single
    have hhead := Placeholder.head?_omitted count noun
    refine ⟨Placeholder.isPlaceholder_of_renders hs hline hhead hr, ?_⟩
    rw [Placeholder.isMoreMarker_of_renders hs hline hhead hr,
      Placeholder.isMore_omitted count hnoun.single]
  · exact Placeholder.isPlaceholder_of_renders hs (Placeholder.isLine_literalString saved) rfl hr
  · have hline := Placeholder.isLine_more count
    refine ⟨Placeholder.isPlaceholder_of_renders hs hline rfl hr, ?_⟩
    rw [Placeholder.isMoreMarker_of_renders hs hline rfl hr, Placeholder.isMore_more]

/-- A text that looks like more of the delimiters, and a noun with a plural of its own. -/
theorem Language.stripMarkers_rendered_rust :
    Language.rust.grammar.comments.stripMarkers "// /!# a */ b".toList = "/!# a */ b".toList ∧
      (Language.rust.grammar.comments.blockComment? "/!# a */ b".toList).map
        Language.rust.grammar.comments.stripMarkers = some "/!# a */ b".toList ∧
      Placeholder.isPlaceholder Language.rust.grammar.comments
        "/* … 3 bodies omitted */".toList = true ∧
      Placeholder.isMoreMarker Language.rust.grammar.comments "// … 12 more".toList = true := by
  obtain ⟨hstrip, homitted, -, hmore⟩ := Language.stripMarkers_rendered .rust
  obtain ⟨hline, hblock⟩ := hstrip "/!# a */ b".toList ⟨by decide, by decide⟩
  exact ⟨hline, hblock rfl (by decide),
    (homitted 3 "body".toList ⟨by decide, by decide⟩ _ (.inr (by decide))).1,
    (hmore 12 _ (.inl (by decide))).2⟩

end Abridge
