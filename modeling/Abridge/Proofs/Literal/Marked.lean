import Abridge.Language.Table
import Abridge.Proofs.Document
import Abridge.Proofs.Literal.Layout
import Abridge.Proofs.Literal.Treatment
import Abridge.Proofs.Reduction.Removals

/-!
Collections that were trimmed before.

A literal that has a marker among its own children is passed over, so that the draft is what it
would be if it had not been found (`draft_eq_of_isTrimmed`). The marker is there if the brackets are
the literal's own. A composite literal in Go and a struct expression in Rust leave them to their
body, and there the marker is not looked for: they are trimmed again as if there were none
(`marked_collections_stay_unless_in_body`).
-/
namespace Abridge

namespace Literal

section
variable {job : Job} {max : Nat} {draft : Draft} {capture : Document.Capture}

/-! ### Passed over -/

theorem treat_of_isTrimmed (hlabel : capture.label ≠ "string")
    (h : isTrimmed job.document capture.node = true) : treat job max draft capture = draft := by
  have hcases := treats job max draft capture
  generalize treat job max draft capture = after at hcases ⊢
  cases hcases with
  | kept => rfl
  | string _ hlabel' _ => exact absurd hlabel' hlabel
  | collection _ _ hopen _ _ =>
    rw [h] at hopen
    cases hopen

theorem draft_append_cons (job : Job) (max : Nat) (pre post : List Document.Capture)
    (capture : Document.Capture) :
    Literal.draft job max (pre ++ capture :: post) =
      post.foldl (treat job max) (treat job max (Literal.draft job max pre) capture) :=
  List.foldl_append

/-- A literal with a marker of its own makes no difference. -/
theorem draft_eq_of_isTrimmed (hlabel : capture.label ≠ "string")
    (h : isTrimmed job.document capture.node = true) (pre post : List Document.Capture) :
    Literal.draft job max (pre ++ capture :: post) = Literal.draft job max (pre ++ post) := by
  rw [draft_append_cons, treat_of_isTrimmed hlabel h]
  exact List.foldl_append.symm

/-! ### Replaced -/

/-- Whether a draft takes a text in the place of a literal that is a collection. -/
structure IsRenewed (job : Job) (max : Nat) (draft : Draft) (n : Node) (text : Text) : Prop
    extends IsDue job max draft n where
  fits : draft.queue.fits n.span = true
  unmarked : isTrimmed job.document n = false
  trimmed : ∃ markers, trimCollection? job.profile job.document job.count n max =
    some ⟨text, markers⟩
  smaller : job.count text < job.count (job.document.textOf n)

/-- The treatment of a collection brings an edit just if all conditions for it are met. -/
theorem edits_treat_iff (hlabel : capture.label ≠ "string") (text : Text) :
    (treat job max draft capture).queue.edits =
        draft.queue.edits ++ [⟨capture.node.span, text⟩] ↔
      IsRenewed job max draft capture.node text := by
  have hnone : ∀ e : Edit, draft.queue.edits ≠ draft.queue.edits ++ [e] := fun e heq => by
    have := congrArg List.length heq
    simp at this
  constructor
  · intro hedits
    have hcases := treats job max draft capture
    generalize treat job max draft capture = after at hcases hedits
    cases hcases with
    | kept => exact absurd hedits (hnone _)
    | string _ hlabel' _ => exact absurd hlabel' hlabel
    | @collection t hdue _ hopen htrim hless =>
      rcases Draft.replace_cases draft capture.node.span t.text removedKey t.markers with
        heq | ⟨queue, hqueue, htaken, heq⟩ <;> rw [heq] at hedits
      · exact absurd hedits (hnone _)
      · obtain ⟨hfits, -, -⟩ := EditQueue.replace?_eq_some_iff.mp hqueue
        obtain rfl : t.text = text := by
          simpa using List.append_cancel_left (htaken.symm.trans hedits)
        exact ⟨hdue, hfits, hopen, ⟨t.markers, htrim⟩, hless⟩
  · rintro ⟨hdue, hfits, hopen, ⟨markers, htrim⟩, hless⟩
    have htaken : draft.queue.replace? capture.node.span text =
        some { draft.queue with edits := draft.queue.edits ++ [⟨capture.node.span, text⟩] } :=
      EditQueue.replace?_eq_some_iff.mpr ⟨hfits, hdue.free, rfl⟩
    rw [treat_of_isDue hdue hlabel hopen htrim hless, Draft.replace, htaken]

end

/-! ### Where the marker stands -/

/-- A collection with a marker between its brackets is passed over if the brackets are its own. If
it leaves them to its body, it is replaced whenever it would be without the marker there. -/
theorem marked_collections_stay_unless_in_body (d : Document) (config : Config) (count : Counter)
    (max : Nat) {capture : Document.Capture} (hlabel : capture.label ≠ "string") {c : Collection}
    (hc : d.language.profile.collection? capture.node = some c)
    (hmarked : isTrimmed d c.container = true) (pre : List Document.Capture) :
    let job := d.job config count
    (c.container = capture.node →
      ∀ post, draft job max (pre ++ capture :: post) = draft job max (pre ++ post)) ∧
    (c.container ≠ capture.node →
      d.language.LeavesToBody capture.node ∧
        ∀ text, (draft job max (pre ++ [capture])).queue.edits =
            (draft job max pre).queue.edits ++ [⟨capture.node.span, text⟩] ↔
          IsRenewed job max (draft job max pre) capture.node text) := by
  intro job
  refine ⟨fun hown post => ?_, fun hother => ⟨?_, fun text => ?_⟩⟩
  · exact draft_eq_of_isTrimmed hlabel (hown ▸ hmarked) pre post
  · obtain ⟨container, hcontainer, hof⟩ := Option.bind_eq_some_iff.mp hc
    obtain ⟨-, -, -, -, rfl, -⟩ := Collection.exists_of_ofContainer? hof
    exact ((Language.container?_cases hcontainer).resolve_left hother).1
  · rw [draft_append_cons]
    exact edits_treat_iff hlabel text

/-- A file in Go with a list that was cut to its first three elements. -/
def shortenedSlice : Document :=
  .ofTree .go "package p\n\nvar x = []int\x7b1, 2, 3, /* … 5 more */\x7d\n".toList <|
    .named "source_file" 0 52 [
      .named "package_clause" 0 9 [
        .token "package" 0 7,
        .named "package_identifier" 8 9 []],
      .named "var_declaration" 11 51 [
        .token "var" 11 14,
        .named "var_spec" 15 51 [
          .inField "name" (.named "identifier" 15 16 []),
          .token "=" 17 18,
          .inField "value" (.named "expression_list" 19 51 [
            .named "composite_literal" 19 51 [
              .inField "type" (.named "slice_type" 19 24 [
                .token "[" 19 20,
                .token "]" 20 21,
                .inField "element" (.named "type_identifier" 21 24 [])]),
              .inField "body" (.named "literal_value" 24 51 [
                .token "\x7b" 24 25,
                .named "literal_element" 25 26 [.named "int_literal" 25 26 []],
                .token "," 26 27,
                .named "literal_element" 28 29 [.named "int_literal" 28 29 []],
                .token "," 29 30,
                .named "literal_element" 31 32 [.named "int_literal" 31 32 []],
                .token "," 32 33,
                .named "comment" 34 50 [],
                .token "\x7d" 50 51])]])]]]

namespace shortenedSlice

theorem isNested : shortenedSlice.IsNested :=
  (Document.isWellFormed_iff.mp (by decide +kernel)).isNested

def captures : List Document.Capture :=
  Document.dropRepeats Document.Capture.repeats
    (shortenedSlice.selected ((Grammar.go.query? "literals").getD ⟨"", []⟩).selectors)

theorem query_eq : shortenedSlice.query "literals" = .ok captures :=
  Document.query_eq_selected (q := (Grammar.go.query? "literals").getD ⟨"", []⟩) rfl
    (by decide +kernel)

/-- The list. -/
def slice : Document.Capture :=
  captures.head (by decide +kernel)

theorem slice_mem : slice ∈ captures :=
  List.head_mem _

/-- Its braces with the elements between them. -/
def body : Collection :=
  (shortenedSlice.language.profile.collection? slice.node).get (by decide +kernel)

theorem collection?_eq :
    shortenedSlice.language.profile.collection? slice.node = some body :=
  (Option.some_get _).symm

end shortenedSlice

open shortenedSlice

/-- The list is cut again, to one element, and the two that go now are all that its marker
counts. -/
theorem marked_collections_stay_unless_in_body_slice :
    slice.label ≠ "string" ∧
      shortenedSlice.language.profile.collection? slice.node = some body ∧
      isTrimmed shortenedSlice body.container = true ∧
      IsRenewed (shortenedSlice.job {} Counter.bytes) 26 (.of shortenedSlice) slice.node
        "[]int\x7b1, /* … 2 more */\x7d".toList := by
  have hlabel : slice.label ≠ "string" := by decide +kernel
  have hmarked : isTrimmed shortenedSlice body.container = true := by decide +kernel
  refine ⟨hlabel, collection?_eq, hmarked, ?_⟩
  have hbody := (marked_collections_stay_unless_in_body shortenedSlice {} Counter.bytes 26 hlabel
    collection?_eq hmarked []).2 fun heq =>
      absurd (congrArg Node.path heq) (by decide +kernel)
  exact (hbody.2 _).mp (by decide +kernel)

/-- A marker in the body of a composite literal does not save the literal. -/
theorem marked_slice_is_replaced :
    ¬ ∀ (d : Document) (config : Config) (count : Counter) (max : Nat)
      (captures : List Document.Capture), d.IsNested → d.query "literals" = .ok captures →
      ∀ capture ∈ captures, capture.label ≠ "string" →
        ∀ c ∈ d.language.profile.collection? capture.node, isTrimmed d c.container = true →
          ∀ e ∈ (draft (d.job config count) max captures).queue.edits,
            e.span ≠ capture.node.span := by
  intro hstays
  have hspans := hstays shortenedSlice {} Counter.bytes 26 captures isNested query_eq slice
    slice_mem (by decide +kernel) body collection?_eq (by decide +kernel)
  have hedit : ∃ e ∈ (draft (shortenedSlice.job {} Counter.bytes) 26 captures).queue.edits,
      e.span = slice.node.span := by
    decide +kernel
  obtain ⟨e, he, heq⟩ := hedit
  exact hspans e he heq

end Literal

end Abridge
