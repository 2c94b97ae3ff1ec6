import Abridge.Proofs.Edit.Queue
import Abridge.Proofs.Tally
import Abridge.Reduction.Basic

/-!
Removals in a row.

A removal is taken as a whole or not at all, so that the edits of a draft and the counters of what
was removed follow from the removals that were taken (`HasTaken.exists_taken`). Where each removal
starts behind the end of those before it, the queue refuses none of them that has a placeholder
(`HasTaken.foldl_remove`).
-/
namespace Abridge

theorem Tally.sumOf_incr_removedKey (t : Tally) (noun : String) (n : Nat) :
    (t.incr (Draft.removedKey noun) n).sumOf "removed." = t.sumOf "removed." + n := by
  have hstart : "removed.".toList.isPrefixOf (Draft.removedKey noun).toList = true := by
    rw [Draft.removedKey, String.toList_append, List.isPrefixOf_iff_prefix]
    exact List.prefix_append _ _
  rw [sumOf_incr, if_pos hstart]

namespace Draft
variable {d : Document} {draft : Draft} {r : Removal}

/-- Whether something can stand in for a removal. -/
def isPlaced (d : Document) (r : Removal) : Bool :=
  (placeholder? d r).isSome

/-- What a draft has taken out and counted, span by span. -/
structure HasTaken (d : Document) (spans : List Span) (n : Nat) (draft : Draft) : Prop where
  source : draft.queue.source = d.text
  spans : draft.queue.edits.map Edit.span = spans
  sum : draft.tally.sumOf "removed." = n

/-- An edit that the queue takes is counted. -/
theorem HasTaken.replace {spans : List Span} {n : Nat} (h : draft.HasTaken d spans n)
    {text : Text} {queue : EditQueue} (hqueue : draft.queue.replace? r.span text = some queue) :
    (draft.replace r.span text (removedKey r.noun) r.count).HasTaken d (spans ++ [r.span])
      (n + r.count) := by
  obtain ⟨hsource, hspans, hsum⟩ := h
  simp only [Draft.replace, hqueue]
  obtain ⟨-, -, rfl⟩ := EditQueue.replace?_eq_some_iff.mp hqueue
  refine ⟨hsource, ?_, ?_⟩
  · rw [List.map_append, hspans]
    rfl
  · rw [Tally.sumOf_incr_removedKey, hsum]

/-- A removal becomes an edit and is counted, or leaves the edits and the counts as they are. -/
theorem HasTaken.remove_cases {spans : List Span} {n : Nat} (h : draft.HasTaken d spans n)
    (r : Removal) :
    (draft.remove d r).HasTaken d spans n ∨
      isPlaced d r = true ∧ (draft.remove d r).HasTaken d (spans ++ [r.span]) (n + r.count) := by
  unfold Draft.remove isPlaced
  cases placeholder? d r with
  | none => exact .inl h
  | some comment =>
    have hstubs : { draft with stubs := (draft.stubs.take r.statement).2 }.HasTaken d spans n :=
      ⟨h.source, h.spans, h.sum⟩
    cases hqueue : draft.queue.replace? r.span
        (withStub (draft.stubs.take r.statement).1 comment) with
    | none =>
      simp only [Draft.replace, hqueue]
      exact .inl hstubs
    | some queue => exact .inr ⟨rfl, hstubs.replace hqueue⟩

/-- Of removals one after the other some are taken, in their order, and all that can be seen of the
draft comes of these. -/
theorem HasTaken.exists_taken {spans : List Span} {n : Nat} (h : draft.HasTaken d spans n)
    (removals : List Removal) :
    ∃ taken : List Removal, taken.Sublist removals ∧ (∀ r ∈ taken, isPlaced d r = true) ∧
      (removals.foldl (Draft.remove d) draft).HasTaken d (spans ++ taken.map Removal.span)
        (n + total (taken.map Removal.count)) := by
  induction removals generalizing draft spans n with
  | nil => exact ⟨[], .slnil, fun _ h => absurd h List.not_mem_nil, by simpa using h⟩
  | cons r rest ih =>
    rcases h.remove_cases r with hrefused | ⟨hplaced, htaken⟩
    · obtain ⟨taken, hsublist, hall, hdraft⟩ := ih hrefused
      exact ⟨taken, hsublist.cons r, hall, hdraft⟩
    · obtain ⟨taken, hsublist, hall, hdraft⟩ := ih htaken
      refine ⟨r :: taken, hsublist.cons_cons r, List.forall_mem_cons.mpr ⟨hplaced, hall⟩, ?_⟩
      simpa [Nat.add_assoc] using hdraft

/-- The queue refuses no removal behind all edits. -/
theorem HasTaken.accepts {spans : List Span} {n : Nat} (h : draft.HasTaken d spans n)
    (hstart : d.text.isBoundary r.span.start = true) (hstop : d.text.isBoundary r.span.stop = true)
    (hbehind : ∀ s ∈ spans, s.stop ≤ r.span.start) :
    draft.queue.fits r.span = true ∧ draft.queue.collides r.span = false := by
  refine ⟨?_, EditQueue.collides_eq_false_iff.mpr fun e he => ?_⟩
  · rw [EditQueue.fits, h.source, hstart, hstop, Bool.and_true]
  · have hle := hbehind e.span (h.spans ▸ List.mem_map_of_mem he)
    rw [Span.collides_comm, Span.collides_of_stop_le hle]

/-- A removal behind all edits is taken if something can stand in for it. -/
theorem HasTaken.remove {spans : List Span} {n : Nat} (h : draft.HasTaken d spans n)
    (hstart : d.text.isBoundary r.span.start = true) (hstop : d.text.isBoundary r.span.stop = true)
    (hbehind : ∀ s ∈ spans, s.stop ≤ r.span.start) :
    (draft.remove d r).HasTaken d (if isPlaced d r then spans ++ [r.span] else spans)
      (if isPlaced d r then n + r.count else n) := by
  unfold Draft.remove isPlaced
  cases placeholder? d r with
  | none => exact h
  | some comment =>
    obtain ⟨hfits, hcollides⟩ := h.accepts hstart hstop hbehind
    have hstubs : { draft with stubs := (draft.stubs.take r.statement).2 }.HasTaken d spans n :=
      ⟨h.source, h.spans, h.sum⟩
    simp only [Option.isSome_some, if_true]
    exact hstubs.replace (EditQueue.replace?_eq_some_iff.mpr ⟨hfits, hcollides, rfl⟩)

/-- **Removals in a row are all taken** that something can stand in for. -/
theorem HasTaken.foldl_remove {removals : List Removal} {spans : List Span} {n : Nat}
    (h : draft.HasTaken d spans n)
    (hstart : ∀ r ∈ removals, d.text.isBoundary r.span.start = true)
    (hstop : ∀ r ∈ removals, d.text.isBoundary r.span.stop = true)
    (hrow : removals.Pairwise fun a b => a.span.stop ≤ b.span.start)
    (hbehind : ∀ s ∈ spans, ∀ r ∈ removals, s.stop ≤ r.span.start) :
    (removals.foldl (Draft.remove d) draft).HasTaken d
      (spans ++ (removals.filter (isPlaced d)).map Removal.span)
      (n + total ((removals.filter (isPlaced d)).map Removal.count)) := by
  induction removals generalizing draft spans n with
  | nil => simpa using h
  | cons r rest ih =>
    obtain ⟨hrow, hrest⟩ := List.pairwise_cons.mp hrow
    have hnext := h.remove (hstart r List.mem_cons_self) (hstop r List.mem_cons_self)
      fun s hs => hbehind s hs r List.mem_cons_self
    have hfold := ih hnext (fun r' hr' => hstart r' (List.mem_cons_of_mem r hr'))
      (fun r' hr' => hstop r' (List.mem_cons_of_mem r hr')) hrest fun s hs r' hr' => by
        split at hs
        · rcases List.mem_append.mp hs with hs | hs
          · exact hbehind s hs r' (List.mem_cons_of_mem r hr')
          · exact List.mem_singleton.mp hs ▸ hrow r' hr'
        · exact hbehind s hs r' (List.mem_cons_of_mem r hr')
    rw [List.foldl_cons, List.filter_cons]
    cases hplaced : isPlaced d r with
    | false => simpa [hplaced] using hfold
    | true => simpa [hplaced, Nat.add_assoc] using hfold

end Draft

end Abridge
