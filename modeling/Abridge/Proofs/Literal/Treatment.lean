import Abridge.Literal.Trim
import Abridge.Proofs.Reduction.Draft

/-!
What is done to a draft for a literal.

Nothing, or a string is replaced and gets a note, or a collection is replaced (`treats`). So every
edit of a draft takes the place of a literal, or it is a note about a string that was replaced
(`draft_isTreated`).
-/
namespace Abridge.Literal

/-! ### One literal -/

/-- A string is trimmed to a front of its content that leaves fewer tokens, and the note says how
many are missing. -/
theorem exists_of_trimString? {profile : Profile} {d : Document} {count : Counter} {n : Node}
    {before max : Nat} {t : TrimmedString}
    (h : trimString? profile d count n before max = some t) :
    ∃ shape kept, profile.stringShape? d n = some shape ∧
      keptContent? count shape (d.lines.textOf shape.content) max = some kept ∧
      t.text = shape.rebuild kept ∧ before - count t.text ≠ 0 ∧
      note? d n.stop (Placeholder.literalString (before - count t.text)) =
        some (t.noteAt, t.note) := by
  unfold trimString? at h
  obtain ⟨shape, hshape, h⟩ := Option.bind_eq_some_iff.mp h
  obtain ⟨kept, hkept, h⟩ := Option.bind_eq_some_iff.mp h
  obtain ⟨_, hsaved, h⟩ := Option.bind_eq_some_iff.mp h
  obtain ⟨⟨noteAt, note⟩, hnote, h⟩ := Option.bind_eq_some_iff.mp h
  obtain rfl := Option.some.inj h
  refine ⟨shape, kept, hshape, hkept, rfl, fun hzero => ?_, hnote⟩
  simp [guard, hzero] at hsaved

/-- Whether a literal is to be trimmed: nothing is in the way, and it has too many tokens. -/
structure IsDue (job : Job) (max : Nat) (draft : Draft) (n : Node) : Prop where
  free : draft.queue.collides n.span = false
  clear : n.isOpaque = false
  touchable : job.profile.isExempt job.document n = false
  large : max < job.count (job.document.textOf n)

/-- What can become of a draft when a literal is treated. -/
inductive Treats (job : Job) (max : Nat) (draft : Draft) (capture : Document.Capture) :
    Draft → Prop
  | kept : Treats job max draft capture draft
  | string {t : TrimmedString} (hdue : IsDue job max draft capture.node)
      (hlabel : capture.label = "string")
      (htrim : trimString? job.profile job.document job.count capture.node
        (job.count (job.document.textOf capture.node)) max = some t) :
      Treats job max draft capture (replaceString draft capture.node.span t)
  | collection {t : Trimmed} (hdue : IsDue job max draft capture.node)
      (hlabel : capture.label ≠ "string")
      (hopen : isTrimmed job.document capture.node = false)
      (htrim : trimCollection? job.profile job.document job.count capture.node max = some t)
      (hless : job.count t.text < job.count (job.document.textOf capture.node)) :
      Treats job max draft capture (draft.replace capture.node.span t.text removedKey t.markers)

theorem treats (job : Job) (max : Nat) (draft : Draft) (capture : Document.Capture) :
    Treats job max draft capture (treat job max draft capture) := by
  unfold treat
  simp only
  split
  · exact .kept
  next hguard =>
    split
    · exact .kept
    next hlarge =>
      have hdue : IsDue job max draft capture.node := by
        simp only [Bool.or_eq_true, not_or, Bool.not_eq_true] at hguard
        exact ⟨hguard.1.1, hguard.1.2, hguard.2, Nat.lt_of_not_le hlarge⟩
      split
      next hlabel =>
        split
        · exact .kept
        next t htrim => exact .string hdue (eq_of_beq hlabel) htrim
      next hlabel =>
        split
        · exact .kept
        next hopen =>
          split
          · exact .kept
          next t htrim =>
            split
            next hless =>
              exact .collection hdue (fun heq => hlabel (beq_iff_eq.mpr heq))
                (Bool.eq_false_iff.mpr hopen) htrim hless
            · exact .kept

/-- A collection that is due and gets smaller is replaced. -/
theorem treat_of_isDue {job : Job} {max : Nat} {draft : Draft} {capture : Document.Capture}
    {t : Trimmed} (hdue : IsDue job max draft capture.node) (hlabel : capture.label ≠ "string")
    (hopen : isTrimmed job.document capture.node = false)
    (htrim : trimCollection? job.profile job.document job.count capture.node max = some t)
    (hless : job.count t.text < job.count (job.document.textOf capture.node)) :
    treat job max draft capture =
      draft.replace capture.node.span t.text removedKey t.markers := by
  unfold treat
  simp only [hdue.free, hdue.clear, hdue.touchable, Bool.or_self, Bool.false_eq_true, if_false,
    Nat.not_le.mpr hdue.large, beq_false_of_ne hlabel, hopen, htrim, hless, if_true]

/-- A string is kept where its edit is refused; otherwise it is replaced, with or without the note
about it. -/
theorem replaceString_cases (draft : Draft) (span : Span) (t : TrimmedString) :
    replaceString draft span t = draft ∨
      ∃ queue, draft.queue.replace? span t.text = some queue ∧
        ∃ noted, (noted = queue ∨ queue.insert? t.noteAt t.note = some noted) ∧
          replaceString draft span t =
            { draft with queue := noted, tally := draft.tally.incr removedKey 1 } := by
  unfold replaceString
  cases hqueue : draft.queue.replace? span t.text with
  | none => exact .inl rfl
  | some queue =>
    refine .inr ⟨queue, rfl, (queue.insert? t.noteAt t.note).getD queue, ?_, rfl⟩
    cases queue.insert? t.noteAt t.note with
    | none => exact .inl rfl
    | some noted => exact .inr rfl

/-! ### The whole draft -/

/-- Where an edit comes from: it takes the place of a literal, or it is the note about a string that
another edit trims. -/
inductive Origin (job : Job) (max : Nat) (captures : List Document.Capture) (edits : List Edit) :
    Edit → Prop
  | literal {capture : Document.Capture} (hmem : capture ∈ captures) (text : Text) :
      Origin job max captures edits ⟨capture.node.span, text⟩
  | note {capture : Document.Capture} {t : TrimmedString} (hmem : capture ∈ captures)
      (hlabel : capture.label = "string")
      (htrim : trimString? job.profile job.document job.count capture.node
        (job.count (job.document.textOf capture.node)) max = some t)
      (htaken : ⟨capture.node.span, t.text⟩ ∈ edits) :
      Origin job max captures edits ⟨.point t.noteAt, t.note⟩

/-- Whether a draft has sound edits, each for one of some literals. -/
structure IsTreated (job : Job) (max : Nat) (captures : List Document.Capture) (draft : Draft) :
    Prop where
  source : draft.queue.source = job.document.text
  sound : draft.queue.IsSound
  origin : ∀ e ∈ draft.queue.edits, Origin job max captures draft.queue.edits e

section
variable {job : Job} {max : Nat} {captures : List Document.Capture} {draft : Draft}

/-- An edit more takes no other one its origin. -/
theorem Origin.append {edits : List Edit} {e : Edit} (h : Origin job max captures edits e)
    (more : List Edit) : Origin job max captures (edits ++ more) e := by
  cases h with
  | literal hmem text => exact .literal hmem text
  | note hmem hlabel htrim htaken =>
    exact .note hmem hlabel htrim (List.mem_append_left more htaken)

theorem IsTreated.take (h : IsTreated job max captures draft) {span : Span} {text : Text}
    {queue : EditQueue} (hqueue : draft.queue.replace? span text = some queue)
    (horigin : Origin job max captures queue.edits ⟨span, text⟩) (tally : Tally) :
    IsTreated job max captures { draft with queue, tally } := by
  refine ⟨(EditQueue.source_of_replace? hqueue).trans h.source, h.sound.replace? hqueue,
    fun e he => ?_⟩
  obtain ⟨-, -, rfl⟩ := EditQueue.replace?_eq_some_iff.mp hqueue
  rcases List.mem_append.mp he with he | he
  · exact (h.origin e he).append _
  · exact List.mem_singleton.mp he ▸ horigin

theorem IsTreated.treat (h : IsTreated job max captures draft) {capture : Document.Capture}
    (hmem : capture ∈ captures) :
    IsTreated job max captures (Literal.treat job max draft capture) := by
  have hcases := treats job max draft capture
  generalize Literal.treat job max draft capture = after at hcases ⊢
  cases hcases with
  | kept => exact h
  | @string t _ hlabel htrim =>
    rcases replaceString_cases draft capture.node.span t with
      heq | ⟨queue, hqueue, noted, hnoted, heq⟩ <;> rw [heq]
    · exact h
    · have hreplaced := h.take hqueue (.literal hmem t.text) (draft.tally.incr removedKey 1)
      have htaken : ⟨capture.node.span, t.text⟩ ∈ queue.edits := by
        obtain ⟨-, -, rfl⟩ := EditQueue.replace?_eq_some_iff.mp hqueue
        exact List.mem_append_right _ List.mem_cons_self
      rcases hnoted with rfl | hnoted
      · exact hreplaced
      · have htaken' : ⟨capture.node.span, t.text⟩ ∈ noted.edits := by
          obtain ⟨-, -, rfl⟩ := EditQueue.replace?_eq_some_iff.mp hnoted
          exact List.mem_append_left _ htaken
        exact hreplaced.take hnoted (.note hmem hlabel htrim htaken') _
  | @collection t _ _ _ _ _ =>
    rcases Draft.replace_cases draft capture.node.span t.text removedKey t.markers with
      heq | ⟨queue, hqueue, -, heq⟩ <;> rw [heq]
    · exact h
    · exact h.take hqueue (.literal hmem t.text) _

end

theorem draft_isTreated (job : Job) (max : Nat) (captures : List Document.Capture) :
    IsTreated job max captures (draft job max captures) :=
  List.foldlRecOn captures _
    ⟨rfl, EditQueue.isSound_empty _, fun _ h => absurd h List.not_mem_nil⟩
    fun _ h _ hmem => h.treat hmem

end Abridge.Literal
