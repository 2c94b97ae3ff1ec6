import Abridge.Comment.Reduction
import Abridge.Proofs.Literal.Shape
import Abridge.Proofs.Reduction.Draft
import Abridge.Proofs.Text.Chars

/-!
The short forms of comments and docstrings.

What is left of a comment is capped (`shorten_isCapped`), and putting it between the delimiters of a
block comment or between quotes closes it. Only a comment that runs to the end of its line may end
in a bare marker.
-/
namespace Abridge

open Placeholder (marker elisions IsClosed IsCapped Opens Halts Settled)

/-! ### Capped texts -/

namespace Placeholder.IsCapped
variable {t : Text}

theorem prepend {s : Text} (hs : marker ∉ s) (h : IsCapped t) : IsCapped (s ++ t) :=
  List.pairwise_append.mpr ⟨isCapped_of_not_mem hs, h,
    fun _ hc _ _ heq => hs (heq ▸ hc)⟩

theorem sublist {s : Text} (h : IsCapped t) (hs : s.Sublist t) : IsCapped s :=
  List.Pairwise.sublist hs h

theorem elisions_eq_nil (h : IsCapped t) : elisions t = [] := by
  rcases h.cases with hmem | ⟨u, hu, rfl⟩
  · exact elisions_of_not_mem hmem
  · rw [elisions_append_of_not_mem hu, elisions_marker_of_halts (t := []) trivial]
    rfl

/-- A capped text is closed by what begins with something that stops the reading. -/
theorem isClosed_append (h : IsCapped t) {s : Text} (hs : marker ∉ s)
    (hhalts : ∀ r, Halts (s ++ r)) :
    IsClosed (t ++ s) ∧ elisions (t ++ s) = [] := by
  have hread : ∀ r, elisions (t ++ s ++ r) = elisions r := by
    intro r
    rw [List.append_assoc, h.elisions_append (hhalts r), h.elisions_eq_nil,
      elisions_append_of_not_mem hs, List.nil_append]
  have hnil : elisions (t ++ s) = [] := by
    have := hread []
    rwa [List.append_nil] at this
  exact ⟨fun r => by rw [hread, hnil, List.nil_append], hnil⟩

/-- If no piece of a row but the last holds a marker, and that one is capped, so is the row on one
line. -/
theorem join {pieces : List Text} (hmem : pieces.Pairwise fun p _ => marker ∉ p)
    (hcapped : ∀ p ∈ pieces, IsCapped p) : IsCapped (Text.join [' '] pieces) := by
  induction pieces with
  | nil => exact List.Pairwise.nil
  | cons p rest ih =>
    obtain ⟨hp, hrest⟩ := List.pairwise_cons.mp hmem
    cases rest with
    | nil => exact hcapped p List.mem_cons_self
    | cons q rest =>
      have hp' : marker ∉ p ++ [' '] := fun h => (List.mem_append.mp h).elim
        (hp q List.mem_cons_self) fun h => absurd h (by decide)
      exact prepend hp' (ih hrest fun r hr => hcapped r (List.mem_cons_of_mem p hr))

theorem splitAt (h : IsCapped t) (isBreak : Char → Bool) :
    ((Text.splitAt isBreak t).Pairwise fun p _ => marker ∉ p) ∧
      ∀ p ∈ Text.splitAt isBreak t, IsCapped p := by
  induction t with
  | nil =>
    refine ⟨List.pairwise_singleton _ _, fun p hp => ?_⟩
    obtain rfl := List.mem_singleton.mp hp
    exact List.Pairwise.nil
  | cons c t ih =>
    obtain ⟨hc, ht⟩ := List.pairwise_cons.mp h
    obtain ⟨hpieces, hcapped⟩ := ih ht
    cases hbreak : isBreak c with
    | true =>
      rw [Text.splitAt, if_pos hbreak]
      refine ⟨List.pairwise_cons.mpr ⟨fun _ _ => List.not_mem_nil, hpieces⟩, fun p hp => ?_⟩
      rcases List.mem_cons.mp hp with rfl | hp
      · exact List.Pairwise.nil
      · exact hcapped p hp
    | false =>
      obtain ⟨piece, rest, heq, hcons⟩ := Text.splitAt_cons_of_not hbreak t
      have hmem : ∀ p ∈ piece :: rest, ∀ a ∈ p, a ∈ t := by
        intro p hp a ha
        exact Text.mem_of_mem_splitAt (heq ▸ hp) ha
      rw [heq] at hpieces hcapped
      obtain ⟨hpiece, hrest⟩ := List.pairwise_cons.mp hpieces
      rw [hcons]
      refine ⟨List.pairwise_cons.mpr ⟨fun q hq hin => ?_, hrest⟩, fun p hp => ?_⟩
      · rcases List.mem_cons.mp hin with rfl | hin
        · -- A marker in front ends the text, so that there is no further piece.
          have hnil : t = [] := by
            by_contra hne
            obtain ⟨a, ha⟩ := List.exists_mem_of_ne_nil t hne
            exact hc a ha rfl
          subst hnil
          obtain ⟨-, rfl⟩ := List.cons.inj heq
          exact absurd hq List.not_mem_nil
        · exact hpiece q hq hin
      · rcases List.mem_cons.mp hp with rfl | hp
        · exact List.pairwise_cons.mpr
            ⟨fun a ha => hc a (hmem piece List.mem_cons_self a ha),
              hcapped piece List.mem_cons_self⟩
        · exact hcapped p (List.mem_cons_of_mem piece hp)

theorem singleLine (h : IsCapped t) : IsCapped t.singleLine := by
  obtain ⟨hmem, hcapped⟩ := h.splitAt Text.isBlank
  exact join (hmem.sublist List.filter_sublist) fun p hp => hcapped p (List.mem_filter.mp hp).1

end Placeholder.IsCapped

/-! ### What is left of a text -/

namespace Comment

open Summary (truncate)

theorem not_mem_summary {rules : Rules} {body : Text} (h : marker ∉ body) :
    marker ∉ rules.summary body := by
  unfold Rules.summary
  split
  · exact fun hmem => h (Summary.mem_of_mem_firstSentence hmem)
  · exact fun hmem => h (Text.mem_of_mem_trim hmem)

/-- A text that is cut gets a mark, and there is no other way to change it. -/
theorem capped?_cases {rules : Rules} {t short : Text} (h : rules.capped? t = some short) :
    short = t ∧ (∀ max, rules.options.maxTokens = some max →
      truncate rules.count max t = t ∧ t ≠ []) ∨
    ∃ max, rules.options.maxTokens = some max ∧ truncate rules.count max t ≠ [] ∧
      truncate rules.count max t ≠ t ∧ short = truncate rules.count max t ++ [' ', marker] := by
  unfold Rules.capped? at h
  simp only at h
  split at h
  next hmax =>
    refine .inl ⟨(Option.some.inj h).symm, fun max hsome => ?_⟩
    rw [hmax] at hsome
    cases hsome
  next max hmax =>
    split at h
    · cases h
    next hempty =>
      have hne : truncate rules.count max t ≠ [] := fun hnil => hempty (List.isEmpty_iff.mpr hnil)
      split at h
      next heq =>
        have heq : truncate rules.count max t = t := eq_of_beq heq
        refine .inl ⟨(Option.some.inj h).symm, fun other hother => ?_⟩
        obtain rfl : max = other := Option.some.inj (hmax.symm.trans hother)
        exact ⟨heq, heq ▸ hne⟩
      next hcut =>
        exact .inr ⟨max, hmax, hne, fun heq => hcut (beq_iff_eq.mpr heq), (Option.some.inj h).symm⟩

theorem capped?_isCapped {rules : Rules} {t short : Text} (h : marker ∉ t)
    (hshort : rules.capped? t = some short) : IsCapped short := by
  rcases capped?_cases hshort with ⟨rfl, -⟩ | ⟨max, -, -, -, rfl⟩
  · exact Placeholder.isCapped_of_not_mem h
  · have hcut : marker ∉ truncate rules.count max t ++ [' '] := fun hmem =>
      (List.mem_append.mp hmem).elim (fun hmem => h (Summary.mem_of_mem_truncate hmem)) (by decide)
    have hmark : IsCapped [marker] := List.pairwise_singleton _ _
    simpa using Placeholder.IsCapped.prepend hcut hmark

/-- The short form of a text without markers is capped. -/
theorem shorten_isCapped {rules : Rules} {body short : Text} (h : marker ∉ body)
    (hshort : rules.shorten body = some short) : IsCapped short := by
  unfold Rules.shorten at hshort
  split at hshort
  · exact Option.some.inj hshort ▸ List.Pairwise.nil
  next s hs =>
    split at hshort
    · cases hshort
    · exact Option.some.inj hshort ▸ (capped?_isCapped (not_mem_summary h) hs).singleLine

/-! ### Rendering -/

/-- Whether a comment opens as one that closes itself. -/
def opensBlock (style : CommentStyle) (comment : Text) : Bool :=
  style.block.any fun (opener, _) => comment.trimStart.startsWith opener.toList

theorem docMarker?_mem {style : CommentStyle} {comment : Text} {m : String}
    (h : docMarker? style comment = some m) : m ∈ style.docMarkers :=
  (List.mem_filter.mp (List.maxOn?_mem h)).1

/-- A comment that opens as a block is rendered as one, with its own marker of documentation if it
has one. -/
theorem render_of_opens {style : CommentStyle} {opener closer : String} {comment : Text}
    (hblock : style.block = some (opener, closer))
    (hopens : comment.trimStart.startsWith opener.toList = true) (body : Text) :
    ∃ first ∈ opener :: style.docMarkers,
      render style comment body = CommentStyle.enclose first closer (body.erase closer.toList) := by
  refine ⟨((docMarker? style comment.trimStart).filter
    fun m => Text.startsWith m.toList opener.toList).getD opener, ?_, ?_⟩
  · cases hm : (docMarker? style comment.trimStart).filter
      fun m => Text.startsWith m.toList opener.toList with
    | none => exact List.mem_cons_self
    | some m =>
      exact List.mem_cons_of_mem _ (docMarker?_mem (Option.filter_eq_some_iff.mp hm).1)
  · simp only [render, hblock, hopens, if_true]

section
variable {l : Language} (hl : l ≠ .python) {comment body : Text}
include hl

/-- A delimiter that begins with a slash, or a marker of documentation. -/
theorem head_of_mem_docMarkers {other first : String}
    (hother : other ∈ l.grammar.comments.delimiters) (hslash : other.toList.head? = some '/')
    (hfirst : first ∈ other :: l.grammar.comments.docMarkers) :
    marker ∉ first.toList ∧ first.toList.head? = some '/' := by
  rcases List.mem_cons.mp hfirst with rfl | hmem
  · exact ⟨l.not_mem_delimiters first hother, hslash⟩
  · refine ⟨l.not_mem_delimiters first ?_, (Language.head_delimiters hl).2.2 first hmem⟩
    exact List.mem_append_right _ hmem

/-- A short form that runs to the end of its line. -/
theorem render_line (hopens : opensBlock l.grammar.comments comment = false)
    (hbody : IsCapped body) :
    IsCapped (render l.grammar.comments comment body) ∧
      Opens (render l.grammar.comments comment body) := by
  obtain ⟨hline, hblock, -⟩ := Language.head_delimiters hl
  have hrender : render l.grammar.comments comment body =
      ((docMarker? l.grammar.comments comment.trimStart).getD "//").toList ++ [' '] ++ body := by
    have hstarts : comment.trimStart.startsWith "/*".toList = false := by
      simpa [opensBlock, hblock] using hopens
    simp only [render, hblock, hstarts, hline, Bool.false_eq_true, if_false]
    cases docMarker? l.grammar.comments comment.trimStart <;> rfl
  have hfirst : (docMarker? l.grammar.comments comment.trimStart).getD "//" ∈
      "//" :: l.grammar.comments.docMarkers := by
    cases hm : docMarker? l.grammar.comments comment.trimStart with
    | none => exact List.mem_cons_self
    | some m => exact List.mem_cons_of_mem _ (docMarker?_mem hm)
  obtain ⟨hmarker, hhead⟩ := head_of_mem_docMarkers hl
    (by simp [CommentStyle.delimiters, hline]) (by decide) hfirst
  rw [hrender]
  refine ⟨hbody.prepend fun h => ?_, opens_of_head ?_⟩
  · exact (List.mem_append.mp h).elim hmarker fun h => absurd h (by decide)
  · rw [List.append_assoc, List.head?_append, hhead]
    rfl

/-- A short form that closes itself. -/
theorem render_block (hopens : opensBlock l.grammar.comments comment = true)
    (hbody : IsCapped body) :
    IsClosed (render l.grammar.comments comment body) ∧
      elisions (render l.grammar.comments comment body) = [] ∧
      Opens (render l.grammar.comments comment body) := by
  obtain ⟨-, hblock, -⟩ := Language.head_delimiters hl
  have hstarts : comment.trimStart.startsWith "/*".toList = true := by
    simpa [opensBlock, hblock] using hopens
  obtain ⟨first, hfirst, hrender⟩ := render_of_opens hblock hstarts body
  have heq : render l.grammar.comments comment body =
      (first.toList ++ [' '] ++ body.erase "*/".toList) ++ ([' '] ++ "*/".toList) := by
    rw [hrender, CommentStyle.enclose, List.append_assoc _ [' '] "*/".toList]
  obtain ⟨hmarker, hhead⟩ := head_of_mem_docMarkers hl
    (by simp [CommentStyle.delimiters, hblock]) (by decide) hfirst
  have hfront : IsCapped (first.toList ++ [' '] ++ body.erase "*/".toList) :=
    (hbody.sublist (Text.erase_sublist _)).prepend fun h =>
      (List.mem_append.mp h).elim hmarker fun h => absurd h (by decide)
  obtain ⟨hclosed, hnil⟩ := hfront.isClosed_append (s := [' '] ++ "*/".toList) (by decide)
    fun r => .inr ⟨rfl, .inl (by decide)⟩
  rw [heq]
  refine ⟨hclosed, hnil, opens_of_head ?_⟩
  rw [List.append_assoc, List.append_assoc, List.head?_append, hhead]
  rfl

end

/-! ### Docstrings -/

/-- What is to stand before a closing quote is capped if the text is. -/
theorem fitBefore_isCapped {closer body : Text} (hcloser : marker ∉ closer)
    (hbody : IsCapped body) : IsCapped (fitBefore closer body) := by
  have hcapped := hbody.sublist (Text.dropEndWhile_isPrefix (· == '\\') body).sublist
  unfold fitBefore
  simp only
  split
  next hquote =>
    obtain ⟨q, hq, hlast⟩ := (Option.any_eq_true _ _).mp hquote
    rcases hcapped.cases with hmem | ⟨u, -, heq⟩
    · exact Placeholder.IsCapped.prepend hmem (List.pairwise_singleton _ _)
    · -- A text that ends in a marker does not end in the quote.
      rw [heq, List.getLast?_concat, beq_iff_eq] at hlast
      have hmem : q ∈ closer := List.mem_of_mem_head? hq
      exact absurd (Option.some.inj hlast ▸ hmem) hcloser
  · exact hcapped

/-- A short docstring between its quotes. -/
theorem isClosed_docstring {text body : Text} {start : Nat} {shape : StringShape}
    (hshape : StringShape.ofText? text start = some shape) (hmarker : marker ∉ text)
    (hbody : IsCapped body) :
    IsClosed (shape.opener ++ fitBefore shape.closer body ++ shape.closer) ∧
      elisions (shape.opener ++ fitBefore shape.closer body ++ shape.closer) = [] := by
  obtain ⟨-, hopener, hcloser, hopens⟩ := StringShape.not_mem_of_ofText? hshape hmarker
  exact ((fitBefore_isCapped hcloser hbody).prepend hopener).isClosed_append hcloser
    (Halts.of_opens hopens)

end Comment

end Abridge
