import Abridge.Proofs.Profile.Blocks
import Abridge.Proofs.Reduction.Runs
import Abridge.Proofs.Reduction.Stubs

/-!
Stubs of emptied blocks.

The removals of a reduction take cuts out of scopes (`Removal.IsFrom`). Where their edits empty a
block of Python, all of those that reach into the block are for removals of its own statements
(`isIn_eq_overlaps`). So if the block waits for its stub, and the edit of the first removal in it
that has a placeholder is taken, just one of the texts that are written into the block begins with
the stub (`countP_editsInto`). It does wait if the stubs were planned for all that goes
(`stubsOnce_foldl_remove`).
-/
namespace Abridge

/-- Whether a removal starts with a child of a scope and takes a cut out of it. -/
structure Removal.IsFrom (d : Document) (r : Removal) (scope : Node) : Prop where
  isScope : d.IsScope scope
  parent : r.statement.parent? = some scope
  cut : scope.IsCut r.span

theorem Removal.IsFrom.isIn_iff {d : Document} {r : Removal} {scope block : Node}
    (h : r.IsFrom d scope) (hblock : block ∈ d.nodes) : r.isIn block = true ↔ scope = block := by
  rw [Removal.isIn_iff]
  constructor
  · rintro ⟨parent, hparent, hpath⟩
    obtain rfl := Option.some.inj (hparent.symm.trans h.parent)
    exact Document.eq_of_path_eq h.isScope.mem hblock hpath
  · rintro rfl
    exact ⟨scope, h.parent, rfl⟩

/-- The stub that stands in an emptied block of Python. -/
def Profile.Python.stub : Text :=
  ['.', '.', '.']

/-- In Python what stands in for a removal is no stub. -/
theorem Draft.startsWith_placeholder? {d : Document} (hl : d.language = .python) {r : Removal}
    {comment : Text} (h : placeholder? d r = some comment) :
    comment.startsWith Profile.Python.stub = false := by
  have hstyle : d.comments = { line := some "#", block := none, docMarkers := [] } := by
    rw [Document.comments, Document.grammar, hl]
    rfl
  unfold placeholder? Placeholder.commentBefore? at h
  rw [hstyle] at h
  split at h
  · obtain rfl := Option.some.inj h
    rfl
  · cases h

/-- A block of Python waits for its stub if each of its statements goes with another one of it. -/
theorem Document.IsPython.awaits_plan {d : Document} (hd : d.IsPython) {block : Node}
    (hblock : block ∈ d.nodes) (hkind : block.kind = "block") {removed : List (Span × Node)}
    (hremoved : ∀ s ∈ block.statements, ∃ entry ∈ removed, entry.2.parent? = some block ∧
      entry.1.contains s.span = true) :
    (Stubs.plan d.language.profile removed).awaits block = true ∧
      (Stubs.plan d.language.profile removed).text = Profile.Python.stub := by
  have hstub : d.language.profile.stub? = some ⟨Profile.Python.stub, ["block"]⟩ := by
    rw [hd.language]
    rfl
  refine Stubs.awaits_plan hstub ?_ ?_ ?_
  · rw [hkind]
    decide
  · obtain ⟨s, hs⟩ := List.exists_mem_of_ne_nil _ (hd.filled block hblock hkind)
    obtain ⟨entry, hentry, hparent, -⟩ := hremoved s hs
    exact ⟨entry, hentry, hparent⟩
  · refine List.all_eq_true.mpr fun s hs => List.any_eq_true.mpr ?_
    obtain ⟨entry, hentry, -, hcontains⟩ := hremoved s hs
    exact ⟨entry, hentry, hcontains⟩

namespace Draft
variable {d : Document} {start : Draft} {removals : List Removal} {block : Node}

theorem span_of_mem_written {w : Removal × Edit} (hw : w ∈ written d start removals) :
    w.1 ∈ removals ∧ w.2.span = w.1.span := by
  obtain ⟨front, back, rfl, hadded⟩ := exists_of_mem_written hw
  obtain ⟨-, -, comment, -, heq⟩ := added?_eq_some_iff.mp hadded
  exact ⟨by simp, heq ▸ rfl⟩

section
variable (hd : d.IsPython) (hfrom : ∀ r ∈ removals, ∃ scope, r.IsFrom d scope)
  (hsound : (removals.foldl (remove d) start).queue.IsSound)
  (hblock : block ∈ d.nodes) (hkind : block.kind = "block")
  (hemptied : block.IsEmptiedBy ((written d start removals).map Prod.snd))
include hd hfrom hsound hblock hkind hemptied

/-- An edit that reaches into an emptied block takes a cut out of that block. -/
theorem isFrom_of_mem_written {w : Removal × Edit} (hw : w ∈ written d start removals)
    (hover : w.2.span.overlaps block.span = true) : w.1.IsFrom d block := by
  obtain ⟨hmem, hspan⟩ := span_of_mem_written hw
  obtain ⟨scope, hr⟩ := hfrom w.1 hmem
  obtain ⟨hfront, hback⟩ := Span.overlaps_iff.mp hover
  have hedits : ∀ e ∈ (written d start removals).map Prod.snd,
      e ∈ (removals.foldl (remove d) start).queue.edits := by
    intro e he
    rw [edits_foldl_remove]
    exact List.mem_append_right _ he
  have hscope := hd.scope_eq hblock hkind hr.isScope
    (fun e he f hf => hsound.apart_of_ne (hedits e he) (hedits f hf)) hemptied
    (List.mem_map_of_mem hw) (hspan ▸ hr.cut) hfront hback
  exact hscope ▸ hr

/-- The edits that reach into an emptied block are those for removals in it. -/
theorem isIn_eq_overlaps {w : Removal × Edit} (hw : w ∈ written d start removals) :
    w.1.isIn block = w.2.span.overlaps block.span := by
  obtain ⟨hmem, hspan⟩ := span_of_mem_written hw
  obtain ⟨scope, hr⟩ := hfrom w.1 hmem
  rw [Bool.eq_iff_iff, hr.isIn_iff hblock]
  constructor
  · rintro rfl
    have hle := hr.cut.span_le hd.nested hblock
    have hlt := hr.cut.start_lt_stop
    rw [hspan]
    exact Span.overlaps_iff.mpr ⟨hlt.trans_le hle.2, hle.1.trans_lt hlt⟩
  · intro hover
    have hr' := isFrom_of_mem_written hd hfrom hsound hblock hkind hemptied hw hover
    exact Option.some.inj (hr.parent.symm.trans hr'.parent)

/-- Each statement of an emptied block goes with a cut of the block. -/
theorem exists_written_of_mem_statements {s : Node} (hs : s ∈ block.statements) :
    ∃ w ∈ written d start removals, w.1.IsFrom d block ∧ w.1.span.contains s.span = true := by
  obtain ⟨e, he, hcontains⟩ := hemptied.statements s hs
  obtain ⟨w, hw, rfl⟩ := List.mem_map.mp he
  have hchild : s ∈ block.children :=
    (List.mem_filter.mp (List.mem_filter.mp hs).1).1
  have hspan := hd.nested.span_le hblock hchild
  have hlt := (hd.solid block ⟨hblock, .inr hkind⟩ s hchild).start_lt_stop
  have hin := Span.contains_iff.mp hcontains
  refine ⟨w, hw, isFrom_of_mem_written hd hfrom hsound hblock hkind hemptied hw ?_,
    (span_of_mem_written hw).2 ▸ hcontains⟩
  exact Span.overlaps_iff.mpr ⟨(hin.1.trans_lt hlt).trans_le hspan.2,
    hspan.1.trans_lt (hlt.trans_le hin.2)⟩

/-- **Just one stub** is written into an emptied block that waits for it. -/
theorem countP_editsInto (hawaits : start.stubs.awaits block = true)
    (htext : start.stubs.text = Profile.Python.stub)
    (hbefore : ∀ e ∈ start.queue.edits, e.text.startsWith Profile.Python.stub = false)
    (hfirst : ∀ front r back, removals = front ++ r :: back → r.IsFrom d block →
      isPlaced d r = true → (∀ r' ∈ front, isPlaced d r' = true → r'.isIn block = false) →
      ((front.foldl (remove d) start).added? d r).isSome = true) :
    ((removals.foldl (remove d) start).editsInto block.span).countP
      (fun e => e.text.startsWith Profile.Python.stub) = 1 := by
  have hplain : ∀ r comment, placeholder? d r = some comment →
      comment.startsWith start.stubs.text = false :=
    fun r comment h => htext ▸ startsWith_placeholder? hd.language h
  have hwritten : (written d start removals).countP
      (fun w => w.1.isIn block && w.2.text.startsWith start.stubs.text) = 1 := by
    obtain ⟨s, hs⟩ := List.exists_mem_of_ne_nil _ (hd.filled block hblock hkind)
    obtain ⟨w, hw, hr, -⟩ :=
      exists_written_of_mem_statements hd hfrom hsound hblock hkind hemptied hs
    have hplaced : isPlaced d w.1 = true := by
      obtain ⟨_, _, -, hadded⟩ := exists_of_mem_written hw
      exact isPlaced_of_added? hadded
    have hsome : (removals.find? fun r => isPlaced d r && r.isIn block).isSome = true := by
      refine List.find?_isSome.mpr ⟨w.1, (span_of_mem_written hw).1, ?_⟩
      rw [hplaced, (hr.isIn_iff hblock).mpr rfl]
      rfl
    obtain ⟨first, hfind⟩ := Option.isSome_iff_exists.mp hsome
    obtain ⟨hpass, front, back, heq, hnone⟩ := List.find?_eq_some_iff_append.mp hfind
    obtain ⟨hplaced, hisIn⟩ := Bool.and_eq_true_iff.mp hpass
    obtain ⟨scope, hscope⟩ := hfrom first (heq ▸ by simp)
    obtain rfl := (hscope.isIn_iff hblock).mp hisIn
    have hnone : ∀ r' ∈ front, isPlaced d r' = true → r'.isIn scope = false :=
      fun r' hr' hplaced' => by simpa [hplaced'] using hnone r' hr'
    rw [heq]
    exact countP_written hplain hawaits hnone hisIn
      (hfirst front first back heq hscope hplaced hnone)
  have hfront : (start.queue.edits.filter fun e => e.span.overlaps block.span).countP
      (fun e => e.text.startsWith Profile.Python.stub) = 0 :=
    List.countP_eq_zero.mpr fun e he => by simp [hbefore e (List.mem_filter.mp he).1]
  rw [editsInto, edits_foldl_remove, List.filter_append, List.countP_append, hfront, Nat.zero_add,
    List.countP_filter, List.countP_map, ← hwritten, htext]
  refine List.countP_congr fun w hw => ?_
  rw [isIn_eq_overlaps hd hfrom hsound hblock hkind hemptied hw, Bool.and_comm]
  rfl

end

/-- Whether just one of the texts that a draft writes into a block begins with the stub, for each
block that some of its edits empty. -/
def StubsOnce (d : Document) (edits : List Edit) (draft : Draft) : Prop :=
  ∀ block ∈ d.nodes, block.kind = "block" → block.IsEmptiedBy edits →
    (draft.editsInto block.span).countP (fun e => e.text.startsWith Profile.Python.stub) = 1

/-- **A row of removals stubs once what it empties** if stubs are planned for all that it takes out
of blocks, and if the first edit for a block that can be taken is. -/
theorem stubsOnce_foldl_remove (hd : d.IsPython) {removed : List (Span × Node)}
    (hstubs : start.stubs = Stubs.plan d.language.profile removed)
    (hbefore : ∀ e ∈ start.queue.edits, e.text.startsWith Profile.Python.stub = false)
    (hsound : (removals.foldl (remove d) start).queue.IsSound)
    (hfrom : ∀ r ∈ removals, ∃ scope, r.IsFrom d scope)
    (hremoved : ∀ r ∈ removals, ∀ scope, r.IsFrom d scope → ∀ s ∈ scope.children,
      r.span.contains s.span = true → ∃ entry ∈ removed, entry.2.parent? = some scope ∧
        entry.1.contains s.span = true)
    (hfirst : ∀ block, ∀ w ∈ written d start removals, w.1.IsFrom d block →
      ∀ front r back, removals = front ++ r :: back → r.IsFrom d block → isPlaced d r = true →
        (∀ r' ∈ front, isPlaced d r' = true → r'.isIn block = false) →
        ((front.foldl (remove d) start).added? d r).isSome = true) :
    (removals.foldl (remove d) start).StubsOnce d ((written d start removals).map Prod.snd) := by
  intro block hblock hkind hemptied
  have hwritten := fun s (hs : s ∈ block.statements) =>
    exists_written_of_mem_statements hd hfrom hsound hblock hkind hemptied hs
  have hgone : ∀ s ∈ block.statements, ∃ entry ∈ removed, entry.2.parent? = some block ∧
      entry.1.contains s.span = true := by
    intro s hs
    obtain ⟨w, hw, hr, hcontains⟩ := hwritten s hs
    have hchild : s ∈ block.children := (List.mem_filter.mp (List.mem_filter.mp hs).1).1
    exact hremoved w.1 (span_of_mem_written hw).1 block hr s hchild hcontains
  obtain ⟨hawaits, htext⟩ := hd.awaits_plan hblock hkind hgone
  obtain ⟨s, hs⟩ := List.exists_mem_of_ne_nil _ (hd.filled block hblock hkind)
  obtain ⟨w, hw, hr, -⟩ := hwritten s hs
  exact countP_editsInto hd hfrom hsound hblock hkind hemptied (hstubs ▸ hawaits)
    (hstubs ▸ htext) hbefore (hfirst block w hw hr)

end Draft

end Abridge
