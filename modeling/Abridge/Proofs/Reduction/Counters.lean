import Abridge.Proofs.Comment.Account
import Abridge.Proofs.Literal.Markers
import Abridge.Proofs.Reduction.Captured

/-!
Counters and placeholders agree, reduction by reduction.

What a reduction took out can be read off the text that it leaves: for every sort of thing, the
placeholders there report as many of them as the counter says (`countElisions_run`).
-/
namespace Abridge

open Placeholder (marker countElisions)

namespace Reduction

variable {d : Document} {config : Config} {count : Counter} {o : Outcome}

/-! ### What the counters say -/

section
variable (hmarker : marker ∉ d.text)
include hmarker

/-- Where all edits are closed, the outcome reports what it counts. -/
theorem countElisions_of_isClosed {sorts : List (String × String)} {draft : Draft}
    (h : draft.IsAccounted d sorts Edit.IsClosed) {noun key : String} (hmem : (noun, key) ∈ sorts)
    (hlimit : draft.finish.tally.get key < Budget.countLimit) :
    countElisions (draft.finish.text.getD d.text) noun.toList = draft.finish.tally.get key :=
  h.countElisions_finish hmarker (fun e he => .inl (h.keeps.edits e he)) (.inl h.keeps.edits) hmem
    hlimit

theorem countElisions_comments (hparsed : d.LineDocsEnd)
    (h : comments.run (d.job config count) = .ok o)
    (hlimit : o.tally.get "removed.comment" < Budget.countLimit) :
    countElisions (o.text.getD d.text) "comment".toList = o.tally.get "removed.comment" := by
  obtain ⟨rules, found, -, hfound, rfl⟩ := exists_draft_of_comments h
  have haccount : (Comment.draft rules (d.job config count) found).IsAccounted d Comment.sorts
      (Edit.IsLegible d) :=
    Comment.draft_isAccounted hmarker hparsed
      (fun n hn => Document.mem_nodes_of_comment hfound hn) (Document.queryNodes_pairwise hfound)
  refine haccount.countElisions_finish hmarker (fun e he => (haccount.keeps.edits e he).settled) ?_
    (by decide) hlimit
  by_cases hl : d.language = .python
  · exact .inl fun e he => (haccount.keeps.edits e he).closed hl
  · exact .inr fun e he => (haccount.keeps.edits e he).opens hl

theorem count_marker_literals (h : literals.run (d.job config count) = .ok o)
    (hlimit : o.tally.get "removed.literal" < Budget.countLimit) :
    (o.text.getD d.text).count marker = o.tally.get "removed.literal" := by
  rcases exists_draft_of_literals h with rfl | ⟨max, captures, -, hcaptures, rfl⟩
  · exact List.count_eq_zero_of_not_mem hmarker
  · obtain ⟨offset, hmarked⟩ : ∃ offset,
        Literal.IsMarked d offset (Literal.draft (d.job config count) max captures) :=
      Literal.draft_isMarked hmarker max (Document.query_pairwise hcaptures)
    rw [← hmarked.keeps.source, Draft.getD_finish,
      Placeholder.count_apply (l := d.lines) hmarked.keeps.sound hmarked.keeps.source hmarker]
    exact hmarked.balances.total_eq hlimit

end

/-- **What a reduction counts is what its placeholders report.** In a document without markers, the
text that a reduction leaves, or the document where it leaves none, reports as many things of a sort
missing as the counter of that sort says; a trimmed literal leaves a marker for each count. Of
comments this holds where documentation on a line ends with it, as in all grammars. Counters are
numbers of 64 bits. -/
theorem countElisions_run (d : Document) (config : Config) (count : Counter)
    (hmarker : marker ∉ d.text) (o : Outcome)
    (hcounters : ∀ key, o.tally.get key < Budget.countLimit) :
    let job := d.job config count
    let text := o.text.getD d.text
    (imports.run job = .ok o →
      countElisions text "import".toList = o.tally.get "removed.import") ∧
    (d.LineDocsEnd → comments.run job = .ok o →
      countElisions text "comment".toList = o.tally.get "removed.comment") ∧
    (functionBodies.run job = .ok o →
      countElisions text "function body".toList = o.tally.get "removed.function_body" ∧
      countElisions text "method body".toList = o.tally.get "removed.method_body" ∧
      countElisions text "statement".toList = o.tally.get "removed.statement") ∧
    (publicSurface.run job = .ok o → ∀ kind : DeclarationKind,
      countElisions text kind.noun.toList = o.tally.get ("removed." ++ kind.noun)) ∧
    (literals.run job = .ok o → text.count marker = o.tally.get "removed.literal") := by
  refine ⟨fun h => ?_, fun hparsed h => ?_, fun h => ?_, fun h kind => ?_, fun h => ?_⟩
  · obtain ⟨external, found, -, -, rfl⟩ := exists_draft_of_imports h
    exact countElisions_of_isClosed hmarker (Import.draft_isAccounted external found) (by decide)
      (hcounters _)
  · exact countElisions_comments hmarker hparsed h (hcounters _)
  · obtain ⟨exemptions, found, -, -, rfl⟩ := exists_draft_of_functionBodies h
    have haccount : (Body.draft exemptions (d.job config count) found).IsAccounted d Body.sorts
        Edit.IsClosed := Body.draft_isAccounted exemptions found
    exact ⟨countElisions_of_isClosed hmarker haccount (by decide) (hcounters _),
      countElisions_of_isClosed hmarker haccount (by decide) (hcounters _),
      countElisions_of_isClosed hmarker haccount (by decide) (hcounters _)⟩
  · obtain rfl := draft_of_publicSurface h
    exact countElisions_of_isClosed hmarker Declaration.draft_isAccounted
      (Declaration.mem_sorts kind) (hcounters _)
  · exact count_marker_literals hmarker h (hcounters _)

/-- A file in C with documentation and two remarks. -/
def remarks : Document :=
  .ofTree .c "/// One two three.\n\n// b\n// c\n".toList <|
    .named "translation_unit" 0 30 [
      .named "comment" 0 18 [], .named "comment" 20 24 [], .named "comment" 25 29 []]

/-- Keeps a word of documentation and no other comment. -/
def oneWord : Config where
  comments := .detailed { policy := .keepDoc, maxTokens := some 1 }

/-- What is left of the file: a short form that ends in a bare marker, and a placeholder. -/
def remarksLeft : Outcome where
  text := some "/// One …\n\n// … 2 comments omitted\n".toList
  tally := ⟨[("removed.comment", 2), ("truncated.comment", 1)]⟩

theorem run_remarks : comments.run (remarks.job oneWord Counter.words) = .ok remarksLeft := by
  let rules : Comment.Rules := ⟨oneWord.comments.options, [], [], Counter.words⟩
  let found := remarks.scan [.kind "comment" "comment"] "comment"
  let draft := Comment.draft rules (remarks.job oneWord Counter.words) found
  have hfound : remarks.queryNodes "comments" "comment" = .ok found :=
    Document.queryNodes_eq_scan (q := Grammar.kindQuery "comments" "comment" ["comment"]) rfl
      (by decide +kernel)
  have hdraft : comments.Drafts (remarks.job oneWord Counter.words) _ draft :=
    .comments ⟨rfl, rfl, rfl, rfl⟩ hfound
  have hsorted : draft.queue.inOrder = draft.queue.edits :=
    List.mergeSort_of_pairwise (by decide +kernel)
  have htext : draft.queue.edited? = remarksLeft.text := by
    rw [EditQueue.edited?, EditQueue.apply, hsorted]
    decide +kernel
  have htally : draft.tally = remarksLeft.tally := by decide +kernel
  rw [hdraft.run_eq, Draft.finish, htext, htally]

/-- The bare marker is not taken for a placeholder, and the placeholder reports two comments. -/
theorem countElisions_run_remarks :
    comments.run (remarks.job oneWord Counter.words) = .ok remarksLeft ∧
    remarksLeft.tally.get "removed.comment" = 2 ∧
    countElisions (remarksLeft.text.getD remarks.text) "comment".toList =
      remarksLeft.tally.get "removed.comment" := by
  have hmarker : marker ∉ remarks.text := by decide
  have hends : remarks.nodes.all remarks.endsLine = true := by decide +kernel
  have hparsed : remarks.LineDocsEnd := fun n hn _ _ _ => List.all_eq_true.mp hends n hn
  have hcounters : ∀ key, remarksLeft.tally.get key < Budget.countLimit :=
    fun key => Tally.get_lt_of_forall (by decide) (by decide) key
  exact ⟨run_remarks, by decide,
    (countElisions_run remarks oneWord Counter.words hmarker remarksLeft hcounters).2.1 hparsed
      run_remarks⟩

end Reduction

end Abridge
