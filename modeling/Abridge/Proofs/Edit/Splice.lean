import Abridge.Proofs.Edit.Queue
import Mathlib.Data.List.Induction

/-!
What applying a queue of edits gives.

`run` offers edits to a queue one after the other. The walk over the source that carries them out is
measured against two plain readings of it. In the first, the edits are performed one at a time on
the whole text, from the last to the first (`apply_eq_foldl_splice`): behind an edit that is still
to come, nothing has moved yet. In the second, the source falls into the stretches that are edited
and the gaps between them, and the result is the same gaps with the new texts between them
(`weave_gaps_cuts`, `weave_gaps_texts`). So what lies beside all edits stands in the result as it
was (`exists_weave_apply`).
-/
namespace Abridge

/-- An edit that is offered to a queue. -/
inductive Offer where
  | replace (start stop : Nat) (text : Text)
  | insert (offset : Nat) (text : Text)
  deriving DecidableEq, Repr

/-- The edit that an offer asks for. -/
def Offer.edit : Offer → Edit
  | replace start stop text => ⟨.between start stop, text⟩
  | insert offset text => ⟨.point offset, text⟩

/-- One splice of a text: what stands between the ends of a span gives way to another text. -/
def Text.splice (t : Text) (e : Edit) : Text :=
  t.before e.span.start ++ e.text ++ t.after e.span.stop

/-- Gaps and pieces in turn, a gap first. -/
def Text.weave : List Text → List Text → Text
  | gap :: gaps, piece :: pieces => gap ++ piece ++ weave gaps pieces
  | gaps, _ => gaps.flatten

namespace EditQueue

/-- The queue after an offer; one that is refused leaves it as it was. -/
def offer (q : EditQueue) : Offer → EditQueue
  | .replace start stop text => (q.replace? (.between start stop) text).getD q
  | .insert offset text => (q.insert? offset text).getD q

/-- The queue of a source after a row of offers. -/
def run (source : Text) (offers : List Offer) : EditQueue :=
  offers.foldl offer { source }

/-- The edits with the last start first, of these the last end first, and of these the one taken
last first. -/
def descending (q : EditQueue) : List Edit :=
  (q.edits.zipIdx.mergeSort fun a b => List.zipIdxLE precedes b a).map Prod.fst

/-- The stretches of the source that are edited. -/
def cuts (q : EditQueue) : List Text :=
  q.inOrder.map fun e => q.source.slice e.span.start e.span.stop

/-- What the source holds behind `cursor` and outside of edits that come in order. -/
def gapsFrom (source : Text) (cursor : Nat) : List Edit → List Text
  | [] => [source.after cursor]
  | e :: rest => source.slice cursor e.span.start :: gapsFrom source e.span.stop rest

/-- The stretches of the source between those that are edited. -/
def gaps (q : EditQueue) : List Text :=
  gapsFrom q.source 0 q.inOrder

/-! ### Offers -/

theorem offer_eq (q : EditQueue) (o : Offer) :
    q.offer o = (q.replace? o.edit.span o.edit.text).getD q := by
  cases o <;> rfl

/-- An offer is refused, because it does not fit or collides, or it is taken and comes last. -/
theorem offer_cases (q : EditQueue) (o : Offer) :
    ((q.fits o.edit.span = false ∨ ∃ e ∈ q.edits, o.edit.span.collides e.span = true) ∧
      q.offer o = q) ∨
    q.replace? o.edit.span o.edit.text = some (q.offer o) ∧
      (q.offer o).edits = q.edits ++ [o.edit] := by
  rw [offer_eq]
  cases h : q.replace? o.edit.span o.edit.text with
  | none =>
    refine .inl ⟨?_, rfl⟩
    unfold EditQueue.replace? at h
    cases hfits : q.fits o.edit.span with
    | false => exact .inl rfl
    | true =>
      have hcollides : q.collides o.edit.span = true := by simpa [hfits] using h
      exact .inr (List.any_eq_true.mp hcollides)
  | some q' =>
    obtain ⟨-, -, rfl⟩ := replace?_eq_some_iff.mp h
    exact .inr ⟨rfl, rfl⟩

theorem IsSound.offer {q : EditQueue} (hq : q.IsSound) (o : Offer) : (q.offer o).IsSound := by
  rcases offer_cases q o with ⟨-, h⟩ | ⟨h, -⟩
  · rwa [h]
  · exact hq.replace? h

theorem source_offer (q : EditQueue) (o : Offer) : (q.offer o).source = q.source := by
  rcases offer_cases q o with ⟨-, h⟩ | ⟨h, -⟩
  · rw [h]
  · exact source_of_replace? h

theorem run_append (source : Text) (offers : List Offer) (o : Offer) :
    run source (offers ++ [o]) = (run source offers).offer o := by
  rw [run, List.foldl_append]
  rfl

/-- Whatever is offered, what has been taken stays sound. -/
theorem isSound_run (source : Text) (offers : List Offer) : (run source offers).IsSound := by
  induction offers using List.reverseRecOn with
  | nil => exact isSound_empty source
  | append_singleton offers o ih =>
    rw [run_append]
    exact ih.offer o

theorem source_run (source : Text) (offers : List Offer) : (run source offers).source = source := by
  induction offers using List.reverseRecOn with
  | nil => rfl
  | append_singleton offers o ih => rw [run_append, source_offer, ih]

/-- What is taken is some of what was offered, in that order. -/
theorem edits_run_sublist (source : Text) (offers : List Offer) :
    (run source offers).edits.Sublist (offers.map Offer.edit) := by
  induction offers using List.reverseRecOn with
  | nil => exact List.Sublist.refl _
  | append_singleton offers o ih =>
    rw [run_append, List.map_append]
    rcases offer_cases (run source offers) o with ⟨-, h⟩ | ⟨-, h⟩ <;> rw [h]
    · exact ih.trans (List.sublist_append_left _ _)
    · exact ih.append (List.Sublist.refl _)

/-- An offer that is not taken does not fit, or collides with one that is. -/
theorem mem_run_or_refused (source : Text) (offers : List Offer) {o : Offer} (ho : o ∈ offers) :
    o.edit ∈ (run source offers).edits ∨ (run source offers).fits o.edit.span = false ∨
      ∃ e ∈ (run source offers).edits, o.edit.span.collides e.span = true := by
  induction offers using List.reverseRecOn with
  | nil => exact absurd ho List.not_mem_nil
  | append_singleton offers last ih =>
    have hsource : (run source (offers ++ [last])).source = (run source offers).source := by
      rw [source_run, source_run]
    rw [fits, hsource, ← fits, run_append]
    have hgrows : ∀ e ∈ (run source offers).edits, e ∈ ((run source offers).offer last).edits := by
      intro e he
      rcases offer_cases (run source offers) last with ⟨-, h⟩ | ⟨-, h⟩ <;> rw [h]
      · exact he
      · exact List.mem_append_left _ he
    rcases List.mem_append.mp ho with ho | ho
    · rcases ih ho with h | h | ⟨e, he, hc⟩
      · exact .inl (hgrows _ h)
      · exact .inr (.inl h)
      · exact .inr (.inr ⟨e, hgrows e he, hc⟩)
    · obtain rfl := List.mem_singleton.mp ho
      rcases offer_cases (run source offers) o with ⟨h | ⟨e, he, hc⟩, -⟩ | ⟨-, h⟩
      · exact .inr (.inl h)
      · exact .inr (.inr ⟨e, hgrows e he, hc⟩)
      · rw [h]
        exact .inl (List.mem_append_right _ (List.mem_singleton_self _))

/-! ### From the last to the first -/

theorem zipIdxLE_antisymm {a b : Edit × Nat} (ha : List.zipIdxLE precedes a b = true)
    (hb : List.zipIdxLE precedes b a = true) (h : a.2 = b.2 → a = b) : a = b := by
  apply h
  unfold List.zipIdxLE at ha hb
  grind

/-- The order from the last to the first is the one in which edits are carried out, reversed. -/
theorem descending_eq (q : EditQueue) : q.descending = q.inOrder.reverse := by
  have hforward : (q.edits.zipIdx.mergeSort (List.zipIdxLE precedes)).Pairwise
      fun a b => List.zipIdxLE precedes a b = true :=
    List.pairwise_mergeSort (List.zipIdxLE_trans precedes_trans)
      (List.zipIdxLE_total precedes_total) _
  have hbackward : (q.edits.zipIdx.mergeSort fun a b => List.zipIdxLE precedes b a).Pairwise
      fun a b => List.zipIdxLE precedes b a = true :=
    List.pairwise_mergeSort (fun a b c hab hbc => List.zipIdxLE_trans precedes_trans c b a hbc hab)
      (fun a b => List.zipIdxLE_total precedes_total b a) _
  have hperm : (q.edits.zipIdx.mergeSort fun a b => List.zipIdxLE precedes b a).reverse.Perm
      (q.edits.zipIdx.mergeSort (List.zipIdxLE precedes)) :=
    (List.reverse_perm _).trans
      ((List.mergeSort_perm _ _).trans (List.mergeSort_perm _ _).symm)
  have heq : (q.edits.zipIdx.mergeSort fun a b => List.zipIdxLE precedes b a).reverse =
      q.edits.zipIdx.mergeSort (List.zipIdxLE precedes) := by
    refine hperm.eq_of_pairwise ?_ (List.pairwise_reverse.mpr hbackward) hforward
    intro a b ha hb hab hba
    refine zipIdxLE_antisymm hab hba fun hidx => ?_
    have ha' : a ∈ q.edits.zipIdx := List.mem_mergeSort.mp (List.mem_reverse.mp ha)
    have hb' : b ∈ q.edits.zipIdx := List.mem_mergeSort.mp hb
    -- One index of the queue holds one edit.
    obtain ⟨e, i⟩ := a
    obtain ⟨e', i'⟩ := b
    obtain rfl : i = i' := hidx
    rw [List.mk_mem_zipIdx_iff_getElem?] at ha' hb'
    rw [Option.some.inj (ha'.symm.trans hb')]
  have hmap := congrArg (List.map Prod.fst) heq
  rw [List.map_reverse, List.mergeSort_zipIdx] at hmap
  rw [inOrder, ← hmap, List.reverse_reverse, descending]

/-! ### The walk over the source -/

section Walk
variable {source : Text}

/-- Whether edits stand in a row behind an offset, each between boundaries of the source and behind
the end of the one before. -/
def InRow (source : Text) : Nat → List Edit → Prop
  | _, [] => True
  | cursor, e :: rest =>
    cursor ≤ e.span.start ∧ source.isBoundary e.span.start = true ∧
      source.isBoundary e.span.stop = true ∧ InRow source e.span.stop rest

theorem inRow_of_pairwise {cursor : Nat} {edits : List Edit}
    (hfits : ∀ e ∈ edits, source.isBoundary e.span.start = true ∧
      source.isBoundary e.span.stop = true)
    (hcursor : ∀ e ∈ edits, cursor ≤ e.span.start)
    (hapart : edits.Pairwise fun a b => a.span.stop ≤ b.span.start) :
    InRow source cursor edits := by
  induction edits generalizing cursor with
  | nil => trivial
  | cons e rest ih =>
    obtain ⟨hstart, hstop⟩ := hfits e List.mem_cons_self
    obtain ⟨hbehind, hrest⟩ := List.pairwise_cons.mp hapart
    exact ⟨hcursor e List.mem_cons_self, hstart, hstop,
      ih (fun d hd => hfits d (List.mem_cons_of_mem e hd)) hbehind hrest⟩

theorem IsSound.inRow {q : EditQueue} (hq : q.IsSound) : InRow q.source 0 q.inOrder :=
  inRow_of_pairwise
    (fun _ he => ⟨hq.isBoundary_start (mem_inOrder.mp he), hq.isBoundary_stop (mem_inOrder.mp he)⟩)
    (fun _ _ => Nat.zero_le _) hq.inOrder_apart

theorem splice_cons {cursor : Nat} {e : Edit} {rest : List Edit} (h : cursor ≤ e.span.start) :
    splice source cursor (e :: rest) =
      source.slice cursor e.span.start ++ e.text ++ splice source e.span.stop rest := by
  rw [splice, Nat.max_eq_right (Nat.le_trans h e.span.start_le_stop)]

/-- One edit of a row stands behind the offset of the row, and the row goes on behind it. -/
theorem InRow.of_append {cursor : Nat} {pre post : List Edit} {e : Edit}
    (h : InRow source cursor (pre ++ e :: post)) :
    cursor ≤ e.span.start ∧ source.isBoundary e.span.start = true ∧
      source.isBoundary e.span.stop = true ∧ InRow source e.span.stop post := by
  induction pre generalizing cursor with
  | nil => exact h
  | cons f pre ih =>
    obtain ⟨hcursor, -, -, hrest⟩ := h
    obtain ⟨hle, hothers⟩ := ih hrest
    exact ⟨Nat.le_trans hcursor (Nat.le_trans f.span.start_le_stop hle), hothers⟩

/-- The walk comes by each edit: what stands in front of it is spliced by itself, and so is what
follows. -/
theorem splice_append_cons {cursor : Nat} {pre post : List Edit} {e : Edit}
    (hc : source.isBoundary cursor = true) (h : InRow source cursor (pre ++ e :: post)) :
    splice source cursor (pre ++ e :: post) =
      splice (source.before e.span.start) cursor pre ++ e.text ++
        splice source e.span.stop post := by
  induction pre generalizing cursor with
  | nil =>
    obtain ⟨hcursor, hstart, -⟩ := h
    rw [List.nil_append, splice_cons hcursor, splice, Text.after_before hc hstart hcursor]
  | cons f pre ih =>
    obtain ⟨hcursor, hstart, hstop, hrest⟩ := h
    obtain ⟨hle, he, -⟩ := hrest.of_append
    rw [List.cons_append, splice_cons hcursor, splice_cons hcursor, ih hstop hrest,
      Text.slice_before hc hstart he hcursor (Nat.le_trans f.span.start_le_stop hle)]
    simp only [List.append_assoc]

/-- Splicing edits of a row from the last to the first leaves what stands in front of the row as it
was, and behind it what the walk gives. -/
theorem foldr_splice {cursor : Nat} {edits : List Edit} (hc : source.isBoundary cursor = true)
    (h : InRow source cursor edits) :
    edits.foldr (fun e t => t.splice e) source =
      source.before cursor ++ splice source cursor edits := by
  induction edits generalizing cursor with
  | nil => exact (Text.before_append_after source cursor).symm
  | cons e rest ih =>
    obtain ⟨hcursor, hstart, hstop, hrest⟩ := h
    have hstop' : (source.before e.span.stop).isBoundary e.span.start = true := by
      obtain ⟨a, b, c, rfl, ha, hb⟩ :=
        Text.exists_append_of_isBoundary hstart hstop e.span.start_le_stop
      rw [← hb, ← Text.size_append, ← List.append_assoc, Text.before_append_size, ← ha]
      exact Text.isBoundary_append_size a b
    -- What has been spliced behind the edit is untouched by it.
    rw [List.foldr_cons, ih hstop hrest, Text.splice, Text.before_append_of_isBoundary _ hstop',
      Text.before_before hstart hstop e.span.start_le_stop]
    have hafter : Text.after (source.before e.span.stop ++ splice source e.span.stop rest)
        e.span.stop = splice source e.span.stop rest := by
      have := Text.after_append_size (source.before e.span.stop) (splice source e.span.stop rest)
      rwa [Text.size_before hstop] at this
    rw [hafter, splice_cons hcursor, ← Text.before_append_slice hc hstart hcursor]
    simp only [List.append_assoc]

/-- The gaps with the stretches that are edited make up the source. -/
theorem weave_gapsFrom_cuts {cursor : Nat} {edits : List Edit}
    (hc : source.isBoundary cursor = true) (h : InRow source cursor edits) :
    Text.weave (gapsFrom source cursor edits)
      (edits.map fun e => source.slice e.span.start e.span.stop) = source.after cursor := by
  induction edits generalizing cursor with
  | nil => simp [gapsFrom, Text.weave]
  | cons e rest ih =>
    obtain ⟨hcursor, hstart, hstop, hrest⟩ := h
    rw [gapsFrom, List.map_cons, Text.weave, ih hstop hrest, List.append_assoc,
      Text.slice_append_after hstart hstop e.span.start_le_stop,
      Text.slice_append_after hc hstart hcursor]

/-- Up to the first edit of a row the walk copies the source. -/
theorem splice_eq_slice_append {cursor offset : Nat} {edits : List Edit}
    (hc : source.isBoundary cursor = true) (ho : source.isBoundary offset = true)
    (hle : cursor ≤ offset) (h : InRow source offset edits) :
    splice source cursor edits = source.slice cursor offset ++ splice source offset edits := by
  cases edits with
  | nil => exact (Text.slice_append_after hc ho hle).symm
  | cons e rest =>
    obtain ⟨hoffset, hstart, -⟩ := h
    rw [splice_cons (Nat.le_trans hle hoffset), splice_cons hoffset,
      ← Text.slice_append_slice hc ho hstart hle hoffset]
    simp only [List.append_assoc]

/-- What lies beside all edits of a row stands in the result as it was, and in the same order. -/
theorem exists_weave_splice {cursor : Nat} {edits : List Edit} {spans : List Span}
    (hc : source.isBoundary cursor = true) (h : InRow source cursor edits)
    (hfits : ∀ s ∈ spans, source.isBoundary s.start = true ∧ source.isBoundary s.stop = true)
    (hcursor : ∀ s ∈ spans, cursor ≤ s.start)
    (hrow : spans.Pairwise fun s t => s.stop ≤ t.start)
    (hbeside : ∀ s ∈ spans, ∀ e ∈ edits, e.span.stop ≤ s.start ∨ s.stop ≤ e.span.start) :
    ∃ others : List Text, others.length = spans.length + 1 ∧
      splice source cursor edits =
        Text.weave others (spans.map fun s => source.slice s.start s.stop) := by
  induction spans generalizing cursor edits with
  | nil => exact ⟨[splice source cursor edits], rfl, by simp [Text.weave]⟩
  | cons s spans ih =>
    obtain ⟨hstart, hstop⟩ := hfits s List.mem_cons_self
    have hle := hcursor s List.mem_cons_self
    obtain ⟨hbehind, hrow'⟩ := List.pairwise_cons.mp hrow
    -- If no edit is left in front of the first stretch, it is copied, and the rest follows.
    have hcopied : ∀ {cursor : Nat} {edits : List Edit}, source.isBoundary cursor = true →
        cursor ≤ s.start → InRow source s.stop edits →
        (∀ t ∈ s :: spans, ∀ e ∈ edits, e.span.stop ≤ t.start ∨ t.stop ≤ e.span.start) →
        ∃ others : List Text, others.length = (s :: spans).length + 1 ∧
          splice source cursor edits =
            Text.weave others ((s :: spans).map fun s => source.slice s.start s.stop) := by
      intro cursor edits hc hle h hbeside
      obtain ⟨others, hlength, heq⟩ := ih hstop h
        (fun t ht => hfits t (List.mem_cons_of_mem s ht)) hbehind hrow'
        fun t ht => hbeside t (List.mem_cons_of_mem s ht)
      refine ⟨source.slice cursor s.start :: others, by simpa using hlength, ?_⟩
      rw [splice_eq_slice_append hc hstop (Nat.le_trans hle s.start_le_stop) h, heq,
        ← Text.slice_append_slice hc hstart hstop hle s.start_le_stop]
      rfl
    induction edits generalizing cursor with
    | nil => exact hcopied hc hle trivial hbeside
    | cons e edits ihEdits =>
      obtain ⟨hcursorEdit, hstartEdit, hstopEdit, hrest⟩ := h
      rcases hbeside s List.mem_cons_self e List.mem_cons_self with hfront | hback
      · have hfronts : ∀ t ∈ s :: spans, e.span.stop ≤ t.start := by
          intro t ht
          rcases List.mem_cons.mp ht with rfl | ht
          · exact hfront
          · exact Nat.le_trans hfront (Nat.le_trans s.start_le_stop (hbehind t ht))
        obtain ⟨others, hlength, heq⟩ := ihEdits hstopEdit hrest hfronts
          (fun t ht f hf => hbeside t ht f (List.mem_cons_of_mem e hf)) hfront
        obtain ⟨gap, others, rfl⟩ :=
          List.exists_cons_of_ne_nil (List.ne_nil_of_length_eq_add_one hlength)
        refine ⟨(source.slice cursor e.span.start ++ e.text ++ gap) :: others, hlength, ?_⟩
        rw [splice_cons hcursorEdit, heq]
        simp only [List.map_cons, Text.weave, List.append_assoc]
      · exact hcopied hc hle ⟨hback, hstartEdit, hstopEdit, hrest⟩ hbeside

/-- The gaps with the new texts are what the walk gives. -/
theorem weave_gapsFrom_texts {cursor : Nat} {edits : List Edit} (h : InRow source cursor edits) :
    Text.weave (gapsFrom source cursor edits) (edits.map Edit.text) =
      splice source cursor edits := by
  induction edits generalizing cursor with
  | nil => simp [gapsFrom, Text.weave, splice]
  | cons e rest ih =>
    rw [gapsFrom, List.map_cons, Text.weave, ih h.2.2.2, splice_cons h.1]

end Walk

/-! ### Sound queues -/

section Sound
variable {q : EditQueue} (hq : q.IsSound)
include hq

/-- Carrying edits out in one walk is splicing them one at a time from the last to the first. -/
theorem apply_eq_foldl_splice : q.apply = q.descending.foldl Text.splice q.source := by
  have h := foldr_splice (Text.isBoundary_zero q.source) hq.inRow
  rw [Text.before_zero, List.nil_append] at h
  rw [descending_eq, List.foldl_reverse, apply, ← h]

theorem weave_gaps_cuts : Text.weave q.gaps q.cuts = q.source := by
  rw [gaps, cuts, weave_gapsFrom_cuts (Text.isBoundary_zero q.source) hq.inRow, Text.after_zero]

theorem weave_gaps_texts : Text.weave q.gaps (q.inOrder.map Edit.text) = q.apply :=
  weave_gapsFrom_texts hq.inRow

theorem exists_weave_apply {spans : List Span}
    (hfits : ∀ s ∈ spans, q.source.isBoundary s.start = true ∧ q.source.isBoundary s.stop = true)
    (hrow : spans.Pairwise fun s t => s.stop ≤ t.start)
    (hbeside : ∀ s ∈ spans, ∀ e ∈ q.edits, e.span.stop ≤ s.start ∨ s.stop ≤ e.span.start) :
    ∃ others : List Text, others.length = spans.length + 1 ∧
      q.apply = Text.weave others (spans.map fun s => q.source.slice s.start s.stop) :=
  exists_weave_splice (Text.isBoundary_zero q.source) hq.inRow hfits (fun _ _ => Nat.zero_le _) hrow
    fun s hs e he => hbeside s hs e (mem_inOrder.mp he)

end Sound

/-- **Applying a queue is an exact splice of what it took.** Of what is offered, all is taken but
what does not fit or collides. The edits taken lie in the source and between its characters; those
that replace something do not overlap, and none falls strictly inside of one. The result is that of
single splices from the last edit to the first: the gaps between the edits, each once and in order,
with each new text once between them. -/
theorem run_splices_exactly (source : Text) (offers : List Offer) :
    let q := run source offers
    q.edits.Sublist (offers.map Offer.edit) ∧
    (∀ o ∈ offers, o.edit ∈ q.edits ∨ q.fits o.edit.span = false ∨
      ∃ e ∈ q.edits, o.edit.span.collides e.span = true) ∧
    (∀ e ∈ q.edits, e.span.stop ≤ source.size ∧ source.isBoundary e.span.start = true ∧
      source.isBoundary e.span.stop = true) ∧
    (q.edits.Pairwise fun a b => a.span.isEmpty = false → b.span.isEmpty = false →
      a.span.overlaps b.span = false) ∧
    (∀ a ∈ q.edits, ∀ b ∈ q.edits, a.span.isEmpty = true →
      ¬ (b.span.start < a.span.start ∧ a.span.start < b.span.stop)) ∧
    q.apply = q.descending.foldl Text.splice source ∧
    q.inOrder.Perm q.edits ∧
    source = Text.weave q.gaps q.cuts ∧
    q.apply = Text.weave q.gaps (q.inOrder.map Edit.text) := by
  intro q
  have hq : q.IsSound := isSound_run source offers
  have hsource : q.source = source := source_run source offers
  refine ⟨edits_run_sublist source offers, fun o ho => mem_run_or_refused source offers ho,
    ?_, ?_, ?_, ?_, q.inOrder_perm, ?_, (weave_gaps_texts hq).symm⟩
  · intro e he
    have hstart := hq.isBoundary_start he
    have hstop := hq.isBoundary_stop he
    rw [hsource] at hstart hstop
    exact ⟨Text.le_size_of_isBoundary hstop, hstart, hstop⟩
  · refine hq.apart.imp fun hab ha hb => ?_
    rw [← Span.collides_of_nonempty ha hb]
    exact hab
  · intro a ha b hb hempty ⟨hleft, hright⟩
    have hne : a ≠ b := by
      rintro rfl
      exact absurd hleft (Nat.lt_irrefl _)
    have hapart : a.span.collides b.span = false := hq.apart_of_ne ha hb hne
    rw [Span.collides_of_isEmpty hempty] at hapart
    simp [hleft, hright] at hapart
  · rw [apply_eq_foldl_splice hq, hsource]
  · exact (hsource.symm.trans (weave_gaps_cuts hq).symm)

end EditQueue

end Abridge
