import Abridge.Proofs.Reduction.Draft
import Abridge.Proofs.Reduction.Row

/-!
Stubs through a row of removals.

The edits that a row of removals adds to a draft are listed together with the removals that they are
for (`written`). A block waits for its stub up to the first removal in it that has a placeholder,
and no longer (`awaits_foldl_remove`), whether or not the queue takes the edit. So where the edit of
this removal is taken, just one of the texts that are written into the block begins with the stub
(`countP_written`).
-/
namespace Abridge

/-- Whether a removal starts with a statement of a block. -/
def Removal.isIn (r : Removal) (block : Node) : Bool :=
  r.statement.parent?.any (·.same block)

theorem Removal.isIn_iff {r : Removal} {block : Node} :
    r.isIn block = true ↔
      ∃ parent, r.statement.parent? = some parent ∧ parent.path = block.path := by
  simp [isIn, Node.same, Option.any_eq_true]

namespace Stubs
variable {s : Stubs} {block : Node}

/-- Whether a block waits for its stub. -/
def awaits (s : Stubs) (block : Node) : Bool :=
  s.pending.contains block.path

@[simp] theorem text_take (s : Stubs) (statement : Node) :
    (s.take statement).2.text = s.text := by
  unfold take
  split
  · rfl
  · split <;> rfl

/-- A stub is given to a removal in a block that waits for it. -/
theorem take_of_isIn {r : Removal} (h : r.isIn block = true) :
    (s.take r.statement).1 = if s.awaits block then some s.text else none := by
  obtain ⟨parent, hparent, hpath⟩ := Removal.isIn_iff.mp h
  rw [show s.awaits block = s.pending.contains block.path from rfl, take, hparent]
  simp only [hpath]
  cases s.pending.contains block.path <;> rfl

/-- From then on the block does not wait any more; others do as before. -/
theorem awaits_take (s : Stubs) (r : Removal) (block : Node) :
    (s.take r.statement).2.awaits block = (s.awaits block && !r.isIn block) := by
  cases hparent : r.statement.parent? with
  | none => simp [take, Removal.isIn, hparent]
  | some parent =>
    have hisIn : r.isIn block = (parent.path == block.path) := by
      simp [Removal.isIn, hparent, Node.same]
    rw [take, hparent, hisIn]
    simp only
    by_cases hpath : parent.path = block.path
    · rw [hpath]
      split
      next => simp [awaits]
      next hmem => simpa [awaits] using hmem
    · have hne : block.path ≠ parent.path := fun heq => hpath heq.symm
      split <;> simp [awaits, hpath, hne]

/-- An emptied block waits for its stub, if the profile has one for blocks of its kind. -/
theorem awaits_plan {profile : Profile} {removed : List (Span × Node)} {stub : BlockStub}
    (hstub : profile.stub? = some stub) (hkind : stub.kinds.contains block.kind = true)
    (hmem : ∃ s ∈ removed, s.2.parent? = some block) (hemptied : isEmptied removed block = true) :
    (plan profile removed).awaits block = true ∧ (plan profile removed).text = stub.text := by
  obtain ⟨s, hs, hparent⟩ := hmem
  have hblock : block ∈ removed.filterMap fun s => s.2.parent? :=
    List.mem_filterMap.mpr ⟨s, hs, hparent⟩
  refine ⟨?_, by rw [plan, hstub]⟩
  rw [plan, hstub, awaits, List.contains_iff_mem]
  exact List.mem_map_of_mem (List.mem_filter.mpr ⟨hblock, by rw [hkind, hemptied]; rfl⟩)

end Stubs

namespace Draft
variable {d : Document} {draft : Draft} {r : Removal} {removals : List Removal} {block : Node}

/-! ### One removal -/

/-- The edit that a removal adds to a draft, if it has a placeholder and the edit is not refused. -/
def added? (d : Document) (draft : Draft) (r : Removal) : Option Edit :=
  (placeholder? d r).bind fun comment =>
    if draft.queue.fits r.span && !draft.queue.collides r.span then
      some ⟨r.span, withStub (draft.stubs.take r.statement).1 comment⟩
    else none

theorem added?_eq_some_iff {e : Edit} :
    draft.added? d r = some e ↔ draft.queue.fits r.span = true ∧
      draft.queue.collides r.span = false ∧ ∃ comment, placeholder? d r = some comment ∧
        e = ⟨r.span, withStub (draft.stubs.take r.statement).1 comment⟩ := by
  cases hcomment : placeholder? d r with
  | none => simp [added?, hcomment]
  | some comment =>
    simp only [added?, hcomment, Option.bind_some]
    cases draft.queue.fits r.span <;> cases draft.queue.collides r.span <;>
      simp [eq_comm (b := e)]

theorem edits_remove (d : Document) (draft : Draft) (r : Removal) :
    (draft.remove d r).queue.edits = draft.queue.edits ++ (draft.added? d r).toList := by
  unfold remove added?
  cases placeholder? d r with
  | none => simp
  | some comment =>
    simp only [replace, EditQueue.replace?, Option.bind_some]
    cases draft.queue.fits r.span && !draft.queue.collides r.span <;> simp

/-- A removal with a placeholder asks for the stub, whether or not its edit is taken. -/
theorem stubs_remove (d : Document) (draft : Draft) (r : Removal) :
    (draft.remove d r).stubs =
      if isPlaced d r then (draft.stubs.take r.statement).2 else draft.stubs := by
  unfold remove isPlaced
  cases placeholder? d r with
  | none => rfl
  | some comment =>
    rcases replace_cases { draft with stubs := (draft.stubs.take r.statement).2 } r.span
      (withStub (draft.stubs.take r.statement).1 comment) (removedKey r.noun) r.count with
      heq | ⟨_, -, -, heq⟩ <;> simp [heq]

/-- After a removal with a placeholder its block does not wait any more. -/
theorem awaits_remove (d : Document) (draft : Draft) (r : Removal) (block : Node) :
    (draft.remove d r).stubs.awaits block =
      (draft.stubs.awaits block && !(isPlaced d r && r.isIn block)) := by
  rw [stubs_remove]
  cases isPlaced d r with
  | false => simp
  | true => simp [Stubs.awaits_take]

/-- What is written for a removal begins with the stub just if the block of the removal waits for
it, unless the placeholder does so itself. -/
theorem startsWith_of_added? {e : Edit} (hadded : draft.added? d r = some e)
    (hisIn : r.isIn block = true)
    (hplain : ∀ comment, placeholder? d r = some comment →
      comment.startsWith draft.stubs.text = false) :
    e.text.startsWith draft.stubs.text = draft.stubs.awaits block := by
  obtain ⟨-, -, comment, hcomment, rfl⟩ := added?_eq_some_iff.mp hadded
  rw [Stubs.take_of_isIn hisIn]
  cases draft.stubs.awaits block with
  | false => exact hplain comment hcomment
  | true =>
    refine List.isPrefixOf_iff_prefix.mpr ?_
    simp [withStub]

/-! ### A row of removals -/

/-- The edits that a row of removals adds to a draft, each with the removal that it is for. -/
def written (d : Document) (draft : Draft) : List Removal → List (Removal × Edit)
  | [] => []
  | r :: rest => (draft.added? d r).toList.map (r, ·) ++ written d (draft.remove d r) rest

theorem edits_foldl_remove (d : Document) (draft : Draft) (removals : List Removal) :
    (removals.foldl (remove d) draft).queue.edits =
      draft.queue.edits ++ (written d draft removals).map Prod.snd := by
  induction removals generalizing draft with
  | nil => simp [written]
  | cons r rest ih =>
    rw [List.foldl_cons, ih, edits_remove, written, List.map_append, List.append_assoc]
    cases draft.added? d r <;> rfl

theorem written_append (d : Document) (draft : Draft) (front back : List Removal) :
    written d draft (front ++ back) =
      written d draft front ++ written d (front.foldl (remove d) draft) back := by
  induction front generalizing draft with
  | nil => rfl
  | cons r rest ih => rw [List.cons_append, written, written, ih, List.append_assoc]; rfl

/-- What is written was added for a removal of the row when its turn came. -/
theorem exists_of_mem_written {w : Removal × Edit} (hw : w ∈ written d draft removals) :
    ∃ front back, removals = front ++ w.1 :: back ∧
      (front.foldl (remove d) draft).added? d w.1 = some w.2 := by
  induction removals generalizing draft with
  | nil => cases hw
  | cons r rest ih =>
    rcases List.mem_append.mp hw with hw | hw
    · obtain ⟨e, he, rfl⟩ := List.mem_map.mp hw
      exact ⟨[], rest, rfl, Option.mem_toList.mp he⟩
    · obtain ⟨front, back, rfl, hadded⟩ := ih hw
      exact ⟨r :: front, back, rfl, hadded⟩

theorem isPlaced_of_added? {e : Edit} (h : draft.added? d r = some e) : isPlaced d r = true := by
  obtain ⟨-, -, comment, hcomment, -⟩ := added?_eq_some_iff.mp h
  rw [isPlaced, hcomment, Option.isSome_some]

theorem source_remove (d : Document) (draft : Draft) (r : Removal) :
    (draft.remove d r).queue.source = draft.queue.source := by
  unfold remove
  cases placeholder? d r with
  | none => rfl
  | some comment =>
    simp only [replace, EditQueue.replace?]
    cases draft.queue.fits r.span && !draft.queue.collides r.span <;> rfl

/-- A removal whose edit is taken at its turn would have been taken earlier as well. -/
theorem isSome_added?_of_foldl (h : ((removals.foldl (remove d) draft).added? d r).isSome = true) :
    (draft.added? d r).isSome = true := by
  induction removals generalizing draft with
  | nil => exact h
  | cons first rest ih =>
    obtain ⟨e, hadded⟩ := Option.isSome_iff_exists.mp (ih h)
    obtain ⟨hfits, hcollides, comment, hcomment, -⟩ := added?_eq_some_iff.mp hadded
    rw [EditQueue.fits, source_remove] at hfits
    rw [EditQueue.collides, edits_remove, List.any_append, Bool.or_eq_false_iff] at hcollides
    exact Option.isSome_iff_exists.mpr
      ⟨_, added?_eq_some_iff.mpr ⟨hfits, hcollides.1, comment, hcomment, rfl⟩⟩

/-- If the edit of a removal is taken at some place in a row, it is taken where the removal comes
first. -/
theorem isSome_added?_of_not_mem {front back front' back' : List Removal}
    (heq : front ++ r :: back = front' ++ r :: back') (hnot : r ∉ front)
    (h : ((front'.foldl (remove d) draft).added? d r).isSome = true) :
    ((front.foldl (remove d) draft).added? d r).isSome = true := by
  rcases List.append_eq_append_iff.mp heq with ⟨more, rfl, -⟩ | ⟨more, rfl, hrest⟩
  · rw [List.foldl_append] at h
    exact isSome_added?_of_foldl h
  · cases more with
    | nil => rwa [List.append_nil]
    | cons first more =>
      obtain ⟨rfl, -⟩ := List.cons.inj hrest
      exact absurd (by simp) hnot

/-- **A block waits for its stub** up to the first removal in it that has a placeholder. -/
theorem awaits_foldl_remove (d : Document) (draft : Draft) (removals : List Removal)
    (block : Node) :
    (removals.foldl (remove d) draft).stubs.awaits block =
      (draft.stubs.awaits block && !removals.any fun r => isPlaced d r && r.isIn block) := by
  induction removals generalizing draft with
  | nil => simp
  | cons r rest ih =>
    rw [List.foldl_cons, ih, awaits_remove, List.any_cons, Bool.not_or, Bool.and_assoc]

theorem text_foldl_remove (d : Document) (draft : Draft) (removals : List Removal) :
    (removals.foldl (remove d) draft).stubs.text = draft.stubs.text := by
  refine List.foldlRecOn (motive := fun next : Draft => next.stubs.text = draft.stubs.text)
    removals _ rfl fun next ih r _ => ?_
  rw [stubs_remove]
  split
  · rw [Stubs.text_take, ih]
  · exact ih

section
variable (hplain : ∀ r comment, placeholder? d r = some comment →
  comment.startsWith draft.stubs.text = false)
include hplain

/-- Where a block does not wait, nothing that is written into it begins with the stub. -/
theorem countP_written_eq_zero (hawaits : draft.stubs.awaits block = false) :
    (written d draft removals).countP
      (fun w => w.1.isIn block && w.2.text.startsWith draft.stubs.text) = 0 := by
  refine List.countP_eq_zero.mpr fun w hw => ?_
  obtain ⟨front, back, -, hadded⟩ := exists_of_mem_written hw
  cases hisIn : w.1.isIn block with
  | false => simp
  | true =>
    have hstart := startsWith_of_added? hadded hisIn fun comment hcomment => by
      rw [text_foldl_remove]
      exact hplain w.1 comment hcomment
    rw [text_foldl_remove, awaits_foldl_remove, hawaits, Bool.false_and] at hstart
    simp [hstart]

/-- **Just one stub** is written into a block that waits for it, if the edit of the first removal in
it that has a placeholder is taken. -/
theorem countP_written {front back : List Removal} (hawaits : draft.stubs.awaits block = true)
    (hfront : ∀ r' ∈ front, isPlaced d r' = true → r'.isIn block = false)
    (hisIn : r.isIn block = true)
    (hadded : ((front.foldl (remove d) draft).added? d r).isSome = true) :
    (written d draft (front ++ r :: back)).countP
      (fun w => w.1.isIn block && w.2.text.startsWith draft.stubs.text) = 1 := by
  obtain ⟨e, hadded⟩ := Option.isSome_iff_exists.mp hadded
  have htext := text_foldl_remove d draft front
  have hbefore : (written d draft front).countP
      (fun w => w.1.isIn block && w.2.text.startsWith draft.stubs.text) = 0 := by
    refine List.countP_eq_zero.mpr fun w hw => ?_
    obtain ⟨front', back', rfl, hadded'⟩ := exists_of_mem_written hw
    simp [hfront w.1 (by simp) (isPlaced_of_added? hadded')]
  have hstill : (front.foldl (remove d) draft).stubs.awaits block = true := by
    rw [awaits_foldl_remove, hawaits, Bool.true_and, Bool.not_eq_true', List.any_eq_false]
    intro r' hr'
    simpa using hfront r' hr'
  have hstart : e.text.startsWith draft.stubs.text = true := by
    rw [← htext, startsWith_of_added? hadded hisIn, hstill]
    rw [htext]
    exact hplain r
  have hthen : ((front ++ [r]).foldl (remove d) draft).stubs.awaits block = false := by
    rw [awaits_foldl_remove, List.any_append]
    simp [isPlaced_of_added? hadded, hisIn]
  have htext' := text_foldl_remove d draft (front ++ [r])
  have hafter : (written d ((front ++ [r]).foldl (remove d) draft) back).countP
      (fun w => w.1.isIn block && w.2.text.startsWith draft.stubs.text) = 0 := by
    rw [← htext']
    exact countP_written_eq_zero (fun r' comment => htext'.symm ▸ hplain r' comment) hthen
  rw [List.append_cons, written_append, written_append, List.countP_append, List.countP_append,
    hbefore, hafter]
  simp [written, hadded, hisIn, hstart]

end

end Draft

end Abridge
