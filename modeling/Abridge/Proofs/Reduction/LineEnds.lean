import Abridge.Proofs.Edit.Splice
import Abridge.Proofs.Reduction.Captured
import Abridge.Proofs.Text.Lines

/-!
What follows a placeholder that runs to the end of its line.

Whether a placeholder may run to the end of a line is decided on the source, where only blanks
follow, and not on the text that is written. But an edit behind it on the line would have to begin
where something can be seen, or with a new line (`isBlankText_splice`). So no reduction writes
anything behind such a placeholder (`line_placeholders_end_lines`).
-/
namespace Abridge

open Placeholder (commentBefore? omitted)

/-- Whether an edit is a placeholder, perhaps behind a stub, that runs to the end of its line. -/
def Edit.IsLinePlaceholder (d : Document) (e : Edit) : Prop :=
  ∃ stub t, commentBefore? d.lines d.comments e.span.stop t = some (d.comments.lineComment t) ∧
    e.text = Draft.withStub stub (d.comments.lineComment t)

/-- A comment that closes itself is none that runs to the end of its line. -/
theorem Language.blockComment?_ne_lineComment (l : Language) (t : Text) :
    l.grammar.comments.blockComment? t ≠ some (l.grammar.comments.lineComment t) := by
  by_cases hl : l = .python
  · subst hl
    intro h
    cases h
  · obtain ⟨hline, hblock, -⟩ := Language.head_delimiters hl
    rw [CommentStyle.blockComment?, CommentStyle.lineComment, hline, hblock]
    intro h
    have hsecond := congrArg (fun comment : Text => comment[1]?) (Option.some.inj h)
    exact absurd hsecond (by decide : some '*' ≠ some '/')

/-- Such a placeholder ends where only blanks follow on the line. -/
theorem Edit.IsLinePlaceholder.isBlankText_lineRest {d : Document} {e : Edit}
    (h : e.IsLinePlaceholder d) : (d.lines.lineRest e.span.stop).isBlankText = true := by
  obtain ⟨stub, t, hcomment, -⟩ := h
  unfold commentBefore? at hcomment
  split at hcomment
  next hblank => exact hblank
  · exact absurd hcomment (d.language.blockComment?_ne_lineComment t)

/-! ### Behind a placeholder -/

namespace Text

/-- What a text holds in front of its first line feed. -/
def firstLine (t : Text) : Text :=
  t.takeWhile (· ≠ '\n')

theorem firstLine_cons {c : Char} (hc : c ≠ '\n') (t : Text) :
    firstLine (c :: t) = c :: t.firstLine :=
  List.takeWhile_cons_of_pos (decide_eq_true hc)

/-- A line begun in one text ends there or goes on in the next. -/
theorem firstLine_append (s t : Text) :
    '\n' ∈ s ∧ firstLine (s ++ t) = s.firstLine ∨
      '\n' ∉ s ∧ firstLine (s ++ t) = s ++ t.firstLine := by
  induction s with
  | nil => exact .inr ⟨List.not_mem_nil, rfl⟩
  | cons c s ih =>
    by_cases hc : c = '\n'
    · subst hc
      exact .inl ⟨List.mem_cons_self, rfl⟩
    · rw [List.cons_append, firstLine_cons hc, firstLine_cons hc]
      rcases ih with ⟨hmem, heq⟩ | ⟨hmem, heq⟩ <;> rw [heq]
      · exact .inl ⟨List.mem_cons_of_mem c hmem, rfl⟩
      · refine .inr ⟨fun h => ?_, rfl⟩
        rcases List.mem_cons.mp h with h | h
        · exact hc h.symm
        · exact hmem h

end Text

/-- Where only blanks follow on a line of the source, only blanks follow in the edited text, if the
edits behind begin where something can be seen or with a new line. -/
theorem EditQueue.isBlankText_splice {d : Document} {offset : Nat} {post : List Edit}
    (hoffset : d.text.isBoundary offset = true)
    (hblank : (d.text.after offset).firstLine.isBlankText = true)
    (hrow : InRow d.text offset post) (hpost : ∀ e ∈ post, e.IsApparent d) :
    (splice d.text offset post).firstLine.isBlankText = true := by
  cases post with
  | nil => exact hblank
  | cons e rest =>
    obtain ⟨hle, hstart, -⟩ := hrow
    rw [splice_cons hle, List.append_assoc]
    rw [← Text.slice_append_after hoffset hstart hle] at hblank
    have hjoin := Text.firstLine_append (d.text.slice offset e.span.start)
    rcases hjoin (d.text.after e.span.start) with ⟨hmem, heq⟩ | ⟨hmem, heq⟩
    · -- The line ends in front of the next edit.
      rcases hjoin (e.text ++ splice d.text e.span.stop rest) with ⟨-, heq'⟩ | ⟨hmem', -⟩
      · rwa [heq', ← heq]
      · exact absurd hmem hmem'
    · rw [heq, Text.isBlankText_append, Bool.and_eq_true] at hblank
      obtain ⟨hgap, hrest⟩ := hblank
      rcases hpost e List.mem_cons_self with hshows | hhead
      · -- What can be seen at the start of the next edit would stand on the line.
        unfold Document.ShowsAt at hshows
        cases hafter : d.text.after e.span.start with
        | nil =>
          rw [hafter] at hshows
          cases hshows
        | cons c u =>
          rw [hafter] at hshows hrest
          have hc : Text.isBlank c = false := by simpa using hshows
          have hne : c ≠ '\n' := by
            rintro rfl
            exact absurd hc (by decide)
          rw [Text.firstLine_cons hne] at hrest
          simp [Text.isBlankText, hc] at hrest
      · obtain ⟨u, hu⟩ := List.head?_eq_some_iff.mp hhead
        rcases hjoin (e.text ++ splice d.text e.span.stop rest) with ⟨hmem', -⟩ | ⟨-, heq'⟩
        · exact absurd hmem' hmem
        · rw [heq', Text.isBlankText_append, hgap, hu]
          rfl

/-! ### Whole drafts -/

namespace Reduction
variable {d : Document} {config : Config} {count : Counter}

/-- **A placeholder that runs to the end of its line swallows no code.** Each run of a reduction
that puts placeholders in the place of things comes from one of its drafts. In such a draft, if the
nodes at which edits may begin begin with something that can be seen, then only blanks stand behind
a placeholder of this form up to the next line feed or the end of the new text: between the text in
front of the edit, with the earlier edits carried out, and the text behind it, with the later
ones. -/
theorem line_placeholders_end_lines {r : Reduction} (hr : r ∈ replacing) :
    (∀ o, r.run (d.job config count) = .ok o ↔
      ∃ captured draft, r.Drafts (d.job config count) captured draft ∧ o = draft.finish) ∧
    ∀ captured draft, r.Drafts (d.job config count) captured draft →
      (∀ n ∈ captured, d.ShowsAt n.start) →
      ∀ pre e post, draft.queue.inOrder = pre ++ e :: post → e.IsLinePlaceholder d →
        let front := EditQueue.splice (d.text.before e.span.start) 0 pre
        let back := EditQueue.splice d.text e.span.stop post
        draft.finish.text = some (front ++ e.text ++ back) ∧
          Text.isBlankText (Text.firstLine back) = true := by
  refine ⟨fun o => run_eq_ok_iff hr, fun captured draft hdraft hcaptured pre e post horder he => ?_⟩
  have hkeeps := hdraft.keeps hcaptured
  have hrow := hkeeps.sound.inRow
  rw [hkeeps.source, horder] at hrow
  obtain ⟨-, -, hstop, hbehind⟩ := hrow.of_append
  have hmem : ∀ f ∈ pre ++ e :: post, f ∈ draft.queue.edits := fun f hf =>
    EditQueue.mem_inOrder.mp (horder ▸ hf)
  have hne : draft.queue.edits ≠ [] :=
    List.ne_nil_of_mem (hmem e (List.mem_append_right _ List.mem_cons_self))
  constructor
  · show draft.queue.edited? = _
    rw [EditQueue.edited?, if_neg (mt List.isEmpty_iff.mp hne), EditQueue.apply, hkeeps.source,
      horder, EditQueue.splice_append_cons (Text.isBoundary_zero d.text) hrow]
  · refine EditQueue.isBlankText_splice hstop ?_ hbehind fun f hf => ?_
    · have hblank := he.isBlankText_lineRest
      rwa [Lines.lineRest_eq hstop] at hblank
    · exact hkeeps.edits f (hmem f (List.mem_append_right _ (List.mem_cons_of_mem _ hf)))

/-- A file in C with two comments on one line. -/
def shared : Document :=
  .ofTree .c "/* a */ x; // b\n".toList <|
    .named "translation_unit" 0 16 [
      .named "comment" 0 7 [],
      .named "expression_statement" 8 10 [.named "identifier" 8 9 [], .token ";" 9 10],
      .named "comment" 11 15 []]

/-- All comments of the file go. -/
def sharedJob : Job :=
  shared.job { comments := .bare .stripAll } Counter.bytes

def sharedRules : Comment.Rules where
  options := { policy := .stripAll }
  keep := []
  strip := []
  count := Counter.bytes

def sharedComments : List Node :=
  shared.scan [.kind "comment" "comment"] "comment"

/-- The placeholders of the two: the first closes itself, and the second ends with the line. -/
def sharedEdits : List Edit :=
  [⟨.between 0 7, "/* … comment omitted */".toList⟩,
    ⟨.between 11 15, "// … comment omitted".toList⟩]

theorem queryNodes_shared : shared.queryNodes "comments" "comment" = .ok sharedComments :=
  Document.queryNodes_eq_scan (q := Grammar.kindQuery "comments" "comment" ["comment"]) rfl
    (by decide +kernel)

theorem edits_shared :
    (Comment.draft sharedRules sharedJob sharedComments).queue.edits = sharedEdits := by
  decide +kernel

/-- Behind the second placeholder nothing is written, though the first stands on its line. -/
theorem line_placeholders_end_lines_shared :
    let draft := Comment.draft sharedRules sharedJob sharedComments
    let e : Edit := ⟨.between 11 15, "// … comment omitted".toList⟩
    comments.Drafts sharedJob (Comment.captured shared.language.profile shared sharedComments)
      draft ∧
    e ∈ draft.queue.edits ∧ e.IsLinePlaceholder shared ∧
    draft.finish.text = some ("/* … comment omitted */ x; ".toList ++ e.text ++ ['\n']) ∧
    Text.isBlankText (Text.firstLine ['\n']) = true := by
  intro draft e
  have hdraft : comments.Drafts sharedJob
      (Comment.captured shared.language.profile shared sharedComments) draft :=
    .comments ⟨rfl, rfl, rfl, rfl⟩ queryNodes_shared
  have hcaptured : ∀ n ∈ Comment.captured shared.language.profile shared sharedComments,
      shared.ShowsAt n.start := by
    unfold Document.ShowsAt
    decide +kernel
  have horder : draft.queue.inOrder =
      [⟨.between 0 7, "/* … comment omitted */".toList⟩] ++ e :: [] := by
    rw [EditQueue.inOrder, edits_shared]
    exact List.mergeSort_of_pairwise (by decide)
  have he : e.IsLinePlaceholder shared := ⟨none, omitted 1 "comment".toList, by decide, by decide⟩
  have hends := (line_placeholders_end_lines (r := comments) (by simp [replacing])).2 _ draft
    hdraft hcaptured _ e _ horder he
  exact ⟨hdraft, edits_shared ▸ List.mem_cons_of_mem _ List.mem_cons_self, he, hends⟩

end Reduction

end Abridge
