import Abridge.Proofs.Literal.Treatment
import Abridge.Proofs.Literal.Trimming
import Abridge.Proofs.Reduction.Draft
import Abridge.Proofs.Reduction.Run
import Abridge.Proofs.Reduction.Steps

/-!
No change goes without a count.

An outcome is reported if it counts something or leaves the text as it was. Every step of a draft
counts at least one thing, whichever reduction takes it, so the outcomes of all reductions are
reported (`isReported_of_run`).
-/
namespace Abridge

/-- Whether the tally shows that the text was changed. -/
def Outcome.IsReported (o : Outcome) : Prop :=
  o.tally.isEmpty = true → o.text = none

namespace Draft

/-- Whether a draft that counts nothing has no edits. -/
def IsReported (draft : Draft) : Prop :=
  draft.tally.isEmpty = true → draft.queue.edits = []

variable {d : Document} {draft : Draft}

theorem isReported_of (d : Document) : (Draft.of d).IsReported :=
  fun _ => rfl

theorem IsReported.replace (h : draft.IsReported) (span : Span) (text : Text) (key : String)
    {n : Nat} (hn : n ≠ 0) : (draft.replace span text key n).IsReported := by
  rcases replace_cases draft span text key n with heq | ⟨queue, -, -, heq⟩ <;> rw [heq]
  · exact h
  · intro hempty
    rw [Tally.isEmpty_incr _ _ hn] at hempty
    cases hempty

theorem IsReported.remove (h : draft.IsReported) {r : Removal} (hr : r.count ≠ 0) :
    (draft.remove d r).IsReported := by
  unfold Draft.remove
  split
  · exact h
  next comment _ =>
    have hstubs : { draft with stubs := (draft.stubs.take r.statement).2 }.IsReported := h
    exact hstubs.replace _ _ _ hr

/-- Steps that count something leave a draft that is reported. -/
theorem IsWritten.isReported {profile : Profile} {Removes : Removal → Prop}
    {Offers : Edit → String → Nat → Prop} (h : draft.IsWritten d profile Removes Offers)
    (hremoves : ∀ r, Removes r → r.count ≠ 0) (hoffers : ∀ e key n, Offers e key n → n ≠ 0) :
    draft.IsReported := by
  induction h with
  | empty => exact isReported_of d
  | plan _ _ ih => exact ih
  | remove _ hr ih => exact ih.remove (hremoves _ hr)
  | replace _ he ih => exact ih.replace _ _ _ (hoffers _ _ _ he)

theorem IsReported.finish (h : draft.IsReported) : draft.finish.IsReported := by
  intro hempty
  show draft.queue.edited? = none
  rw [EditQueue.edited?, h hempty]
  rfl

end Draft

/-! ### Imports -/

namespace Import
variable {profile : Profile} {all : List Mark}

/-- A group is counted with the import for which it goes. -/
theorem count_pieceFor_pos {m : Mark} (hm : m ∈ all) : 0 < (pieceFor profile all m).1.count := by
  unfold pieceFor
  split
  · exact Nat.one_pos
  next group hgroup =>
    simp only
    split
    · refine List.length_pos_of_mem (List.mem_filter.mpr ⟨hm, ?_⟩)
      rw [isIn, hgroup, Option.any_some]
      exact BEq.rfl
    · exact Nat.one_pos

theorem IsRemoval.count_ne_zero {external : List Pattern} {job : Job} {imports : List Node}
    {r : Removal} (h : IsRemoval external job imports r) : r.count ≠ 0 := by
  obtain ⟨run, hrun, hr⟩ := h
  unfold removalOf? at hr
  split at hr
  next first last hfirst _ =>
    obtain rfl := Option.some.inj hr
    have hmem : first ∈ run := List.mem_of_mem_head? hfirst
    obtain ⟨m, hm, heq⟩ := exists_mark_of_mem_pieces (mem_of_mem_splitBy hrun hmem)
    have hpos : 0 < first.count := heq ▸ count_pieceFor_pos hm
    have hle : first.count ≤ total (run.map Piece.count) :=
      le_total_of_mem (List.mem_map_of_mem hmem)
    exact (Nat.lt_of_lt_of_le hpos hle).ne'
  · cases hr

end Import

/-! ### The public surface, comments and bodies -/

theorem Declaration.IsGroupRemoval.count_ne_zero {job : Job} {r : Removal}
    (h : IsGroupRemoval job r) : r.count ≠ 0 := by
  obtain ⟨group, -, hr⟩ := h
  unfold removalOf? at hr
  split at hr
  next first _ hfirst _ =>
    obtain rfl := Option.some.inj hr
    exact (List.length_pos_of_mem (List.mem_of_mem_head? hfirst)).ne'
  · cases hr

namespace Comment
variable {rules : Rules} {job : Job} {comments : List Node}

theorem IsRemoval.count_ne_zero {r : Removal} (h : IsRemoval rules job comments r) :
    r.count ≠ 0 := by
  cases h with
  | segment h => exact (List.length_pos_of_mem (List.mem_of_mem_head? h.head)).ne'
  | docstring => exact Nat.one_ne_zero

theorem IsShortening.ne_zero {e : Edit} {key : String} {n : Nat}
    (h : IsShortening rules job comments e key n) : n ≠ 0 := by
  cases h <;> exact Nat.one_ne_zero

end Comment

namespace Body
variable {job : Job} {bodies : List Node}

theorem IsExcess.count_ne_zero {r : Removal} (h : IsExcess job bodies r) : r.count ≠ 0 := by
  cases h with
  | mk _ _ hexcess =>
    unfold excess? at hexcess
    simp only at hexcess
    split at hexcess
    · cases hexcess
    · split at hexcess
      next first _ hfirst _ =>
        obtain rfl := Option.some.inj hexcess
        exact (List.length_pos_of_mem (List.mem_of_mem_head? hfirst)).ne'
      · cases hexcess

theorem IsElision.ne_zero {e : Edit} {key : String} {n : Nat} (h : IsElision job bodies e key n) :
    n ≠ 0 := by
  cases h
  exact Nat.one_ne_zero

end Body

/-! ### Literals -/

namespace Literal
variable {profile : Profile} {d : Document} {count : Counter} {n : Node} {text : Text}
  {levels : List Level}

/-- Something is missing somewhere in a trimmed collection. -/
theorem Trims.countP_isMarked_pos (h : Trims profile d n text levels) :
    0 < levels.countP Level.isMarked := by
  induction h with
  | cut _ hk _ =>
    rw [countP_isMarked_cons (Nat.sub_pos_of_lt hk)]
    exact Nat.succ_pos _
  | last _ _ _ _ _ ih => exact Nat.lt_of_lt_of_le ih (List.sublist_cons_self _ _).countP_le
  | inside _ hk _ _ _ _ _ =>
    rw [countP_isMarked_cons (by omega)]
    exact Nat.succ_pos _

theorem isReported_treat {job : Job} {draft : Draft} (h : draft.IsReported) (max : Nat)
    (capture : Document.Capture) : (treat job max draft capture).IsReported := by
  have hcases := treats job max draft capture
  generalize treat job max draft capture = after at hcases ⊢
  cases hcases with
  | kept => exact h
  | @string t _ _ _ =>
    rcases replaceString_cases draft capture.node.span t with heq | ⟨_, _, _, _, heq⟩ <;> rw [heq]
    · exact h
    · intro hempty
      rw [Tally.isEmpty_incr _ _ Nat.one_ne_zero] at hempty
      cases hempty
  | collection _ _ _ htrim _ =>
    obtain ⟨levels, htrims, hmarkers⟩ := trims_of_trimCollection? htrim
    exact h.replace _ _ _ (hmarkers ▸ htrims.countP_isMarked_pos.ne')

theorem isReported_draft (job : Job) (max : Nat) (captures : List Document.Capture) :
    (draft job max captures).IsReported :=
  List.foldlRecOn captures _ (Draft.isReported_of _) fun _ h capture _ =>
    isReported_treat h max capture

end Literal

/-! ### All reductions -/

namespace Reduction

/-- Whichever reduction it is, it counts what it changes. -/
theorem isReported_of_run {r : Reduction} (hr : r ∈ Pipeline.reductions) {job : Job} {o : Outcome}
    (h : r.run job = .ok o) : o.IsReported := by
  simp only [Pipeline.reductions, List.mem_cons, List.not_mem_nil, or_false] at hr
  rcases hr with rfl | rfl | rfl | rfl | rfl
  · obtain ⟨external, found, -, -, rfl⟩ := exists_draft_of_imports h
    exact ((Import.draft_isWritten external job found).isReported
      (fun _ hr => hr.count_ne_zero) fun _ _ _ => False.elim).finish
  · obtain ⟨rules, found, -, -, rfl⟩ := exists_draft_of_comments h
    exact ((Comment.draft_isWritten rules job found).isReported
      (fun _ hr => hr.count_ne_zero) fun _ _ _ he => he.ne_zero).finish
  · rcases exists_draft_of_literals h with rfl | ⟨max, captures, -, -, rfl⟩
    · exact fun _ => rfl
    · exact (Literal.isReported_draft job max captures).finish
  · obtain ⟨exemptions, found, -, -, rfl⟩ := exists_draft_of_functionBodies h
    exact ((Body.draft_isWritten exemptions job found).isReported
      (fun _ hr => hr.count_ne_zero) fun _ _ _ he => he.ne_zero).finish
  · obtain rfl := draft_of_publicSurface h
    exact ((Declaration.draft_isWritten job).isReported
      (fun _ hr => hr.count_ne_zero) fun _ _ _ => False.elim).finish

end Reduction

end Abridge
