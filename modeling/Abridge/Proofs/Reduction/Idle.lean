import Abridge.Proofs.Reduction.Run
import Abridge.Proofs.Reduction.Steps

/-!
Reductions that a configuration does not ask for do nothing.

Whether a reduction is asked for is read off a few settings; what it does is decided comment by
comment, import by import and body by body. Where it is not asked for, none of these decisions takes
anything out, so that a run would leave an empty outcome (`eq_empty_of_not_isEnabled`).
-/
namespace Abridge

/-- Without removals and edits, a draft changes and counts nothing. -/
theorem Draft.IsWritten.finish_eq_empty {d : Document} {profile : Profile} {draft : Draft}
    {Removes : Removal → Prop} {Offers : Edit → String → Nat → Prop}
    (h : draft.IsWritten d profile Removes Offers) (hremoves : ∀ r, ¬ Removes r)
    (hoffers : ∀ e key n, ¬ Offers e key n) : draft.finish = {} := by
  induction h with
  | empty => rfl
  | plan _ _ ih => exact ih
  | remove _ hr => exact absurd hr (hremoves _)
  | replace _ he => exact absurd he (hoffers _ _ _)

/-! ### Imports -/

namespace Import

theorem isRemoved_of_isNoop {profile : Profile} {d : Document} {config : ImportConfig}
    (h : config.isNoop = true) (external : List Pattern) (units : List Node) :
    ∀ m ∈ marks profile d config external units, m.isRemoved = false := by
  rw [ImportConfig.isNoop, Bool.and_eq_true, Bool.not_eq_true', beq_iff_eq] at h
  obtain ⟨hpolicy, hlong⟩ := h
  intro m hm
  rw [marks, hlong] at hm
  obtain ⟨n, -, rfl⟩ := List.mem_map.mp hm
  rw [markByPolicy, hpolicy]
  exact Bool.and_false _

theorem not_isRemoval_of_isNoop {job : Job} (h : job.config.imports.isNoop = true)
    (external : List Pattern) (imports : List Node) (r : Removal) :
    ¬ IsRemoval external job imports r := by
  rintro ⟨run, hrun, -⟩
  have hstay : ∀ m ∈ marks job.profile job.document job.config.imports external
      (unitsOf job.profile imports), m.isRemoved = false :=
    isRemoved_of_isNoop h external _
  have hgone : gone external job imports = [] := by
    rw [gone, pieces, List.filter_eq_nil_iff.mpr fun m hm => Bool.eq_false_iff.mp (hstay m hm)]
    rfl
  rw [hgone] at hrun
  cases hrun

end Import

/-! ### Comments -/

namespace Comment
variable {rules : Rules}

/-- A docstring is not kept only if the rules decide so. -/
theorem decide_ne_keep_of_judgeDocstring {profile : Profile} {d : Document} {string : Node}
    (h : judgeDocstring profile d rules string ≠ .keep) :
    rules.decide (d.textOf string) true ≠ .keep := by
  intro hkeep
  unfold judgeDocstring at h
  rw [hkeep] at h
  split at h
  · exact h rfl
  · split at h <;> exact h rfl

theorem decide_of_isNoop {job : Job} (h : job.config.comments.isNoop = true)
    (hrules : rules.IsRead job) (comment : Text) (isDoc : Bool) :
    rules.decide comment isDoc = .keep := by
  simp only [CommentConfig.isNoop, Bool.and_eq_true, beq_iff_eq, Option.isNone_iff_eq_none,
    List.isEmpty_iff] at h
  obtain ⟨⟨hpolicy, hmax⟩, hpatterns⟩ := h
  have hstrip := hrules.strip
  rw [hrules.options, hpatterns] at hstrip
  have hstrip : rules.strip = [] := (Except.ok.inj hstrip).symm
  rw [Rules.decide, hstrip, Rules.byPolicy, hrules.options, hpolicy, hmax]
  simp [Pattern.anyMatch]

section
variable (hkeep : ∀ comment isDoc, rules.decide comment isDoc = .keep)
include hkeep

theorem not_isTreated {job : Job} {comments : List Node} {segment : List Verdict}
    {first last : Verdict} : ¬ IsTreated rules job comments segment first last := by
  intro h
  obtain ⟨n, -, -, isDoc, hfate⟩ :=
    exists_of_mem_segment h.mem first (List.mem_of_mem_head? h.head)
  exact h.fate (hfate.trans (hkeep _ isDoc))

theorem judgeDocstring_eq_keep (profile : Profile) (d : Document) (string : Node) :
    judgeDocstring profile d rules string = .keep := by
  by_contra h
  exact decide_ne_keep_of_judgeDocstring h (hkeep _ _)

theorem not_isRemoval {job : Job} {comments : List Node} (r : Removal) :
    ¬ IsRemoval rules job comments r := by
  intro h
  cases h with
  | segment h => exact not_isTreated hkeep h
  | docstring _ hjudged =>
    rw [judgeDocstring_eq_keep hkeep] at hjudged
    cases hjudged

theorem not_isShortening {job : Job} {comments : List Node} (e : Edit) (key : String) (n : Nat) :
    ¬ IsShortening rules job comments e key n := by
  intro h
  cases h with
  | segment h => exact not_isTreated hkeep h
  | docstring _ hjudged =>
    rw [judgeDocstring_eq_keep hkeep] at hjudged
    cases hjudged

end

end Comment

/-! ### Function bodies -/

namespace Body
variable {job : Job} {bodies : List Node} (h : job.config.functionBodies.isNoop = true)
include h

theorem not_isElision (e : Edit) (key : String) (n : Nat) : ¬ IsElision job bodies e key n := by
  rintro ⟨-, -, -, hstripped, -⟩
  simp only [BodyConfig.isNoop, Bool.and_eq_true, Bool.or_eq_true, beq_iff_eq] at h
  rcases h.1 with hmode | hmode <;> rw [isStripped, hmode] at hstripped <;> cases hstripped

theorem not_isExcess (r : Removal) : ¬ IsExcess job bodies r := by
  rintro ⟨-, hmax, -⟩
  rw [BodyConfig.isNoop, Bool.and_eq_true, hmax] at h
  cases h.2

end Body

/-! ### All reductions that shorten what stays -/

namespace Reduction

/-- The reductions of which a section of the configuration says whether they are asked for. -/
def sectioned : List Reduction :=
  [.imports, .comments, .literals, .functionBodies]

/-- A reduction that is not asked for would do nothing. -/
theorem eq_empty_of_not_isEnabled {r : Reduction} (hr : r ∈ sectioned) {job : Job} {o : Outcome}
    (henabled : r.isEnabled job.config = false) (h : r.run job = .ok o) : o = {} := by
  simp only [sectioned, List.mem_cons, List.not_mem_nil, or_false] at hr
  rcases hr with rfl | rfl | rfl | rfl
  · have hnoop : job.config.imports.isNoop = true := Bool.not_eq_eq_eq_not.mp henabled
    obtain ⟨external, found, -, -, rfl⟩ := exists_draft_of_imports h
    exact (Import.draft_isWritten external job found).finish_eq_empty
      (Import.not_isRemoval_of_isNoop hnoop external found) fun _ _ _ => id
  · have hnoop : job.config.comments.isNoop = true := Bool.not_eq_eq_eq_not.mp henabled
    obtain ⟨rules, found, hrules, -, rfl⟩ := exists_draft_of_comments h
    have hkeep := Comment.decide_of_isNoop hnoop hrules
    exact (Comment.draft_isWritten rules job found).finish_eq_empty (Comment.not_isRemoval hkeep)
      (Comment.not_isShortening hkeep)
  · rcases exists_draft_of_literals h with rfl | ⟨max, captures, hmax, -, -⟩
    · rfl
    · have hnone : job.config.literals.maxTokens.isSome = false := henabled
      rw [hmax] at hnone
      cases hnone
  · have hnoop : job.config.functionBodies.isNoop = true := Bool.not_eq_eq_eq_not.mp henabled
    obtain ⟨exemptions, found, -, -, rfl⟩ := exists_draft_of_functionBodies h
    exact (Body.draft_isWritten exemptions job found).finish_eq_empty (Body.not_isExcess hnoop)
      (Body.not_isElision hnoop)

end Reduction

end Abridge
