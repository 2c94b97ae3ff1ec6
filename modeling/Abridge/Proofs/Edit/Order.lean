import Abridge.Proofs.Edit.Splice

/-!
In which order edits are queued.

Edits that do not collide are all taken, whatever order they come in (`edits_run`), and are carried
out by their spans. Only insertions at one place keep the order in which they came, since nothing
else of a sound queue shares a span (`Edit.Apart.span_ne`); without such insertions the queue comes
to the same text in every order (`apply_congr`).
-/
namespace Abridge

/-! ### Edits with a span of their own -/

/-- Whether two edits are insertions at one place. -/
def Edit.Meets (a b : Edit) : Prop :=
  a.span.isEmpty = true ∧ b.span.isEmpty = true ∧ a.span.start = b.span.start

instance (a b : Edit) : Decidable (a.Apart b) :=
  inferInstanceAs (Decidable (_ = _))

instance (a b : Edit) : Decidable (a.Meets b) :=
  inferInstanceAs (Decidable (_ ∧ _))

/-- Edits that share a span collide, or insert at one place. -/
theorem Edit.Apart.span_ne {a b : Edit} (h : a.Apart b) (hmeets : ¬ a.Meets b) :
    a.span ≠ b.span := by
  intro hspan
  have hempty : a.span.isEmpty = true := by
    by_contra hempty
    have hlt : a.span.start < a.span.stop :=
      Nat.lt_of_le_of_ne a.span.start_le_stop fun heq => hempty (Span.isEmpty_iff.mpr heq)
    have hcollides : a.span.collides b.span = true := by
      rw [← hspan]
      exact Span.collides_iff.mpr ⟨hlt, hlt⟩
    rw [h] at hcollides
    cases hcollides
  exact hmeets ⟨hempty, hspan ▸ hempty, congrArg Span.start hspan⟩

namespace EditQueue

/-- Of two edits that come in front of one another, neither starts or stops first. -/
theorem span_eq_of_precedes {a b : Edit} (hab : precedes a b = true) (hba : precedes b a = true) :
    a.span = b.span := by
  obtain ⟨⟨start, stop, _⟩, _⟩ := a
  obtain ⟨⟨start', stop', _⟩, _⟩ := b
  simp only [precedes_iff] at hab hba
  obtain rfl : start = start' := by omega
  obtain rfl : stop = stop' := by omega
  rfl

/-- Queues with the same edits carry them out in the same order, if no two share a span. -/
theorem inOrder_congr {q q' : EditQueue} (hperm : q.edits.Perm q'.edits)
    (hspans : q.edits.Pairwise fun a b => a.span ≠ b.span) : q.inOrder = q'.inOrder := by
  have hsymm : Std.Symm fun a b : Edit => a.span ≠ b.span := ⟨fun _ _ h => h.symm⟩
  refine List.Perm.eq_of_pairwise (fun a b ha hb hab hba => ?_) q.inOrder_pairwise
    q'.inOrder_pairwise ((q.inOrder_perm.trans hperm).trans q'.inOrder_perm.symm)
  by_contra hne
  have hb' : b ∈ q.edits := hperm.mem_iff.mpr (mem_inOrder.mp hb)
  exact hspans.forall (mem_inOrder.mp ha) hb' hne (span_eq_of_precedes hab hba)

theorem apply_congr {q q' : EditQueue} (hsource : q.source = q'.source)
    (hperm : q.edits.Perm q'.edits) (hspans : q.edits.Pairwise fun a b => a.span ≠ b.span) :
    q.apply = q'.apply := by
  rw [apply, apply, hsource, inOrder_congr hperm hspans]

/-! ### Offers that do not collide -/

section
variable {source : Text} {offers : List Offer}

/-- An offer that fits and collides with none before it is taken. -/
theorem isSome_replace?_run {o : Offer} (hfits : EditQueue.fits { source } o.edit.span = true)
    (hapart : ∀ p ∈ offers, p.edit.Apart o.edit) :
    ((run source offers).replace? o.edit.span o.edit.text).isSome = true := by
  have hfits' : (run source offers).fits o.edit.span = true := by
    rw [fits, source_run]
    exact hfits
  have hfree : (run source offers).collides o.edit.span = false := by
    refine collides_eq_false_iff.mpr fun e he => ?_
    obtain ⟨p, hp, rfl⟩ := List.mem_map.mp ((edits_run_sublist source offers).subset he)
    exact (hapart p hp).symm
  exact Option.isSome_of_eq_some (replace?_eq_some_iff.mpr ⟨hfits', hfree, rfl⟩)

/-- Offers that fit and do not collide are all taken, in the order in which they come. -/
theorem edits_run (hfits : ∀ o ∈ offers, EditQueue.fits { source } o.edit.span = true)
    (hapart : (offers.map Offer.edit).Pairwise Edit.Apart) :
    (run source offers).edits = offers.map Offer.edit := by
  induction offers using List.reverseRecOn with
  | nil => rfl
  | append_singleton offers o ih =>
    rw [List.map_append, List.pairwise_append] at hapart
    obtain ⟨hoffers, -, hlast⟩ := hapart
    have hbefore : ∀ p ∈ offers, p.edit.Apart o.edit := fun p hp =>
      hlast _ (List.mem_map_of_mem hp) _ (List.mem_singleton_self _)
    obtain ⟨q, hq⟩ := Option.isSome_iff_exists.mp
      (isSome_replace?_run (hfits o (List.mem_append_right _ (List.mem_singleton_self o))) hbefore)
    rw [run_append, offer_eq, hq, Option.getD_some, (replace?_eq_some_iff.mp hq).2.2,
      List.map_append, ih (fun p hp => hfits p (List.mem_append_left _ hp)) hoffers]
    rfl

end

/-- Of two edits that a queue would take, the second is in the way of the first just if the first is
in the way of the second. -/
theorem collides_replace?_comm {q qa qb : EditQueue} {a b : Edit}
    (ha : q.replace? a.span a.text = some qa) (hb : q.replace? b.span b.text = some qb) :
    qa.collides b.span = qb.collides a.span := by
  obtain ⟨-, hfreeA, rfl⟩ := replace?_eq_some_iff.mp ha
  obtain ⟨-, hfreeB, rfl⟩ := replace?_eq_some_iff.mp hb
  have hadded : ∀ (e : Edit) (s : Span), q.collides s = false →
      EditQueue.collides { q with edits := q.edits ++ [e] } s = s.collides e.span := by
    intro e s hfree
    rw [collides] at hfree ⊢
    simp [hfree]
  rw [hadded _ _ hfreeA, hadded _ _ hfreeB, Span.collides_comm]

/-- **Edits commute.** Edits that fit the source, of which no two collide and no two insert at one
place, are all taken when they are queued, in any order, and come to the same text. Nor does it
depend on the order whether two edits collide: in no state of a queue that would take either. -/
theorem edits_commute {source : Text} {offers order : List Offer}
    (hfits : ∀ o ∈ offers, EditQueue.fits { source } o.edit.span = true)
    (hapart : (offers.map Offer.edit).Pairwise Edit.Apart)
    (hmeets : (offers.map Offer.edit).Pairwise fun a b => ¬ a.Meets b)
    (horder : order.Perm offers) :
    (∀ front o back, order = front ++ o :: back →
      ((run source front).replace? o.edit.span o.edit.text).isSome = true) ∧
    (run source order).edits = order.map Offer.edit ∧
    (run source order).apply = (run source offers).apply ∧
    ∀ (q qa qb : EditQueue) (a b : Offer), q.replace? a.edit.span a.edit.text = some qa →
      q.replace? b.edit.span b.edit.text = some qb →
        qa.collides b.edit.span = qb.collides a.edit.span := by
  have hperm : (order.map Offer.edit).Perm (offers.map Offer.edit) := horder.map Offer.edit
  have hapart' : (order.map Offer.edit).Pairwise Edit.Apart :=
    hperm.symm.pairwise hapart fun h => h.symm
  have hfits' : ∀ o ∈ order, EditQueue.fits { source } o.edit.span = true :=
    fun o ho => hfits o (horder.mem_iff.mp ho)
  have htaken := edits_run hfits' hapart'
  have hspans : (offers.map Offer.edit).Pairwise fun a b => a.span ≠ b.span :=
    (hapart.and hmeets).imp fun h => h.1.span_ne h.2
  refine ⟨fun front o back heq => ?_, htaken, ?_, fun q qa qb a b => collides_replace?_comm⟩
  · subst heq
    rw [List.map_append, List.map_cons, List.pairwise_append] at hapart'
    exact isSome_replace?_run (hfits' o (List.mem_append_right _ List.mem_cons_self)) fun p hp =>
      hapart'.2.2 _ (List.mem_map_of_mem hp) _ List.mem_cons_self
  · have hoffers := edits_run hfits hapart
    refine (apply_congr ?_ ?_ ?_).symm
    · rw [source_run, source_run]
    · rw [hoffers, htaken]
      exact hperm.symm
    · rw [hoffers]
      exact hspans

/-- A replacement behind an ellipsis with an insertion at each of its ends comes to the same text
forwards and backwards. -/
theorem edits_commute_around :
    let source := ['a', '…', 'b', 'c']
    let offers := [.insert 4 ['<'], .replace 4 5 ['x', 'y'], .insert 5 ['>']]
    (run source offers.reverse).edits = offers.reverse.map Offer.edit ∧
      (run source offers.reverse).apply = (run source offers).apply ∧
      (run source offers).apply = ['a', '…', '<', 'x', 'y', '>', 'c'] := by
  intro source offers
  obtain ⟨-, htaken, heq, -⟩ := @edits_commute source offers offers.reverse
    (by decide) (by decide) (by decide) (List.reverse_perm _)
  have hsorted : (run source offers).inOrder = (run source offers).edits :=
    List.mergeSort_of_pairwise (by decide)
  refine ⟨htaken, heq, ?_⟩
  rw [apply, hsorted]
  decide +kernel

end EditQueue

end Abridge
