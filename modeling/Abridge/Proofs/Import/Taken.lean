import Abridge.Proofs.Import.Pieces
import Abridge.Proofs.Reduction.Captured
import Abridge.Proofs.Tree.Trimmed

/-!
What conservation asks of the marks.

Pieces can overlap, for a group may hold an import that is no member of it, and then the queue
refuses some of them. Those that were taken stand in a row all the same (`exists_isTaken`). Hence,
where edits leave all other units alone and the counter is the number of marked units
(`IsConserved`), each marked unit was taken by what goes for it, and what goes for one spares all
others (`IsConserved.goApart`).
-/
namespace Abridge.Import

/-- Whether a draft takes out and counts all marked units, each, the blanks at its end apart, in one
edit, and reaches into no other unit. -/
structure IsConserved (d : Document) (all : List Mark) (draft : Draft) : Prop where
  taken : ∀ m ∈ all, m.isRemoved = true →
    ∃ e, draft.editsInto m.node.span = [e] ∧ e.span.contains (d.trimmedSpan m.node) = true
  spared : ∀ m ∈ all, m.isRemoved = false → draft.editsInto m.node.span = []
  counted : draft.tally.get "removed.import" = (all.filter Mark.isRemoved).length

/-! ### Counts that are met -/

section Counting
variable {α : Type} {l : List α}

theorem eq_of_length_filter_le_one {p : α → Bool} (h : (l.filter p).length ≤ 1) {a b : α}
    (ha : a ∈ l) (hpa : p a = true) (hb : b ∈ l) (hpb : p b = true) : a = b := by
  have ha' := List.mem_filter.mpr ⟨ha, hpa⟩
  have hb' := List.mem_filter.mpr ⟨hb, hpb⟩
  match hfilter : l.filter p with
  | [] => simp [hfilter] at ha'
  | [c] =>
    rw [hfilter, List.mem_singleton] at ha' hb'
    exact ha'.trans hb'.symm
  | _ :: _ :: _ => simp [hfilter] at h

theorem length_filter_mono {p q : α → Bool} (h : ∀ a ∈ l, p a = true → q a = true) :
    (l.filter p).length ≤ (l.filter q).length := by
  rw [← List.countP_eq_length_filter, ← List.countP_eq_length_filter]
  exact List.countP_mono_left h

/-- Where the narrower of two filters lets as much through, it lets all through that the other
does. -/
theorem forall_of_length_filter_le {p q : α → Bool} (hqp : ∀ a ∈ l, q a = true → p a = true)
    (hle : (l.filter p).length ≤ (l.filter q).length) : ∀ a ∈ l, p a = true → q a = true := by
  have hfilter : (l.filter p).filter q = l.filter q := by
    rw [List.filter_filter]
    refine List.filter_congr fun a ha => ?_
    cases hq : q a with
    | false => rfl
    | true => rw [hqp a ha hq]; rfl
  have heq : l.filter q = l.filter p :=
    (hfilter ▸ List.filter_sublist (p := q) (l := l.filter p)).eq_of_length_le hle
  intro a ha hp
  exact (List.mem_filter.mp (heq ▸ List.mem_filter.mpr ⟨ha, hp⟩)).2

theorem total_map_le {f g : α → Nat} (hle : ∀ a ∈ l, f a ≤ g a) :
    total (l.map f) ≤ total (l.map g) := by
  induction l with
  | nil => exact Nat.le_refl _
  | cons a rest ih =>
    exact Nat.add_le_add (hle a List.mem_cons_self) (ih fun b hb => hle b (List.mem_cons_of_mem a hb))

/-- Numbers that add up to as much as their bounds meet these. -/
theorem eq_of_total_le {f g : α → Nat} (hle : ∀ a ∈ l, f a ≤ g a)
    (htotal : total (l.map g) ≤ total (l.map f)) : ∀ a ∈ l, f a = g a := by
  induction l with
  | nil => exact fun _ h => absurd h List.not_mem_nil
  | cons a rest ih =>
    simp only [List.map_cons, total_cons] at htotal
    have ha := hle a List.mem_cons_self
    have hrest := fun b hb => hle b (List.mem_cons_of_mem a hb)
    have hsum := total_map_le hrest
    exact List.forall_mem_cons.mpr ⟨by omega, ih hrest (by omega)⟩

end Counting

/-! ### The pieces that were taken -/

section
variable {profile : Profile} {d : Document} {all : List Mark}

theorem exists_removalOf {run : List Piece} {first last : Piece} (hfirst : run.head? = some first)
    (hlast : run.getLast? = some last) :
    ∃ r, removalOf? d run = some r ∧
      r.span = .between (d.trimmedSpan first.node).start (d.trimmedSpan last.node).stop ∧
      r.count = total (run.map Piece.count) :=
  ⟨⟨.between first.node.start (d.trimmedSpan last.node).stop, first.node,
    total (run.map Piece.count), "import"⟩, by rw [removalOf?, hfirst, hlast], rfl, rfl⟩

variable (h : IsLaid profile d (all.map Mark.node)) {runs : List (List Piece)}
  (hruns : runs.Sublist ((pieces profile all).splitBy (adjoins d)))

include hruns in
theorem exists_of_mem_runs {p : Piece} (hp : p ∈ runs.flatten) :
    ∃ m ∈ all, m.isRemoved = true ∧ p = (pieceFor profile all m).1 := by
  refine exists_of_mem_pieces ?_
  rw [← List.flatten_splitBy (adjoins d) (pieces profile all)]
  exact hruns.flatten.subset hp

include h hruns in
theorem isSolid_of_mem_runs {p : Piece} (hp : p ∈ runs.flatten) : d.IsSolid p.node.span := by
  obtain ⟨m, hm, -, rfl⟩ := exists_of_mem_runs hruns hp
  exact (holds_pieceFor h hm).2.1

/-- Runs of pieces of which none overlap, as a row. -/
def rowOf (hordered : runs.flatten.Pairwise fun p q => (d.trimmedSpan p.node).stop ≤ q.node.start) :
    Row d Piece :=
  Row.ofRuns runs (adjoins d) (fun p => d.trimmedSpan p.node) Piece.count (removalOf? d)
    (fun _ hrun => ⟨List.ne_nil_of_mem_splitBy (hruns.subset hrun),
      List.isChain_of_mem_splitBy (hruns.subset hrun)⟩)
    (fun _ hp => (isSolid_of_mem_runs h hruns hp).trimmed) hordered
    (fun _ hp _ hq =>
      (isSolid_of_mem_runs h hruns hp).isBlankText_between (isSolid_of_mem_runs h hruns hq))
    (fun _ _ _ => exists_removalOf)

/-- Whether a draft took out some of the runs, which stand in a row, and counts these. -/
structure IsTaken (draft : Draft) (runs : List (List Piece)) : Prop where
  sublist : runs.Sublist ((pieces profile all).splitBy (adjoins d))
  ordered : runs.flatten.Pairwise fun p q => (d.trimmedSpan p.node).stop ≤ q.node.start
  placed : ∀ r ∈ (rowOf h sublist ordered).removals, Draft.isPlaced d r = true
  taken : draft.HasTaken d ((rowOf h sublist ordered).placed.map Removal.span)
    (total ((rowOf h sublist ordered).placed.map Removal.count))
  counted : draft.tally.get "removed.import" = draft.tally.sumOf "removed."

section
include h hruns

/-- The pieces of a run stand one behind the other. -/
theorem pairwise_of_mem_runs {run : List Piece} (hrun : run ∈ runs) :
    run.Pairwise fun p q => (d.trimmedSpan p.node).stop ≤ q.node.start := by
  have htrans : IsTrans Piece fun a b => a.node.stop ≤ b.node.start :=
    ⟨fun _ b _ hab hbc => (hab.trans b.node.span.start_le_stop).trans hbc⟩
  have hchain : run.IsChain fun a b => a.node.stop ≤ b.node.start := by
    refine (List.isChain_of_mem_splitBy (hruns.subset hrun)).imp fun a b hadjoins => ?_
    simp only [adjoins, Lines.onlyBlanksBetween, Bool.and_eq_true, decide_eq_true_eq] at hadjoins
    exact hadjoins.1
  refine (List.isChain_iff_pairwise.mp hchain).imp_of_mem fun {p _} hp _ hle => ?_
  have hsolid := isSolid_of_mem_runs h hruns (List.mem_flatten.mpr ⟨run, hrun, hp⟩)
  exact hsolid.isStretch.trimmed.2.trans hle

/-- A removal takes in all pieces of its run. -/
theorem exists_removal_around {run : List Piece} (hrun : run ∈ runs) :
    ∃ r, removalOf? d run = some r ∧
      ∀ p ∈ run, r.span.contains (d.trimmedSpan p.node) = true := by
  have hne := List.ne_nil_of_mem_splitBy (hruns.subset hrun)
  obtain ⟨first, hfirst⟩ := Option.isSome_iff_exists.mp (List.isSome_head?.mpr hne)
  obtain ⟨last, hlast⟩ := Option.isSome_iff_exists.mp (List.getLast?_isSome.mpr hne)
  obtain ⟨r, hr, hspan, hcount⟩ := exists_removalOf (d := d) hfirst hlast
  have hrow := pairwise_of_mem_runs h hruns hrun
  have hof : r.IsOf (fun p => d.trimmedSpan p.node) Piece.count run :=
    Removal.isOf_of_between hrow hfirst hlast hspan hcount
  exact ⟨r, hr, fun p hp => hof.contains hrow hp⟩

/-- Pieces of runs whose removals do not collide do not overlap, and stand in order. -/
theorem pairwise_flatten_of_apart
    (hapart : (runs.filterMap (removalOf? d)).Pairwise fun r s => r.span.collides s.span = false) :
    runs.flatten.Pairwise fun p q => (d.trimmedSpan p.node).stop ≤ q.node.start := by
  have hstarts : runs.Pairwise fun g g' => ∀ p ∈ g, ∀ q ∈ g', p.node.start < q.node.stop := by
    have hall := pairwise_pieces_start h
    rw [← List.flatten_splitBy (adjoins d) (pieces profile all)] at hall
    exact (List.pairwise_flatten.mp (hall.sublist hruns.flatten)).2
  refine List.pairwise_flatten.mpr ⟨fun run hrun => pairwise_of_mem_runs h hruns hrun,
    ((List.pairwise_filterMap.mp hapart).and hstarts).imp_of_mem
      fun {g g'} hg hg' ⟨hcollides, hlt⟩ p hp q hq => ?_⟩
  obtain ⟨r, hr, hcontains⟩ := exists_removal_around h hruns hg
  obtain ⟨r', hr', hcontains'⟩ := exists_removal_around h hruns hg'
  have hfree := mt Span.collides_iff.mpr (Bool.eq_false_iff.mp (hcollides r hr r' hr'))
  have hp' := Span.contains_iff.mp (hcontains p hp)
  have hq' := Span.contains_iff.mp (hcontains' q hq)
  have hsolid := isSolid_of_mem_runs h hruns (List.mem_flatten.mpr ⟨g, hg, hp⟩)
  have hsolid' := isSolid_of_mem_runs h hruns (List.mem_flatten.mpr ⟨g', hg', hq⟩)
  have hbefore : p.node.start < (d.trimmedSpan q.node).stop :=
    hsolid.start_lt_trimmed_stop hsolid' (hlt p hp q hq)
  have hstart : (d.trimmedSpan p.node).start = p.node.start := rfl
  have hstart' : (d.trimmedSpan q.node).start = q.node.start := rfl
  omega

end

/-- **What was taken stands in a row.** -/
theorem exists_isTaken {stubs : Stubs} {draft : Draft}
    (hdraft : draft = (((pieces profile all).splitBy (adjoins d)).filterMap
      (removalOf? d)).foldl (Draft.remove d) { Draft.of d with stubs })
    (hsound : draft.queue.IsSound)
    (hsum : draft.tally.get "removed.import" = draft.tally.sumOf "removed.") :
    ∃ runs, IsTaken h draft runs := by
  have hempty : ({ Draft.of d with stubs } : Draft).HasTaken d [] 0 := ⟨rfl, rfl, rfl⟩
  obtain ⟨taken, htaken, hplaced, hall⟩ :=
    hempty.exists_taken (((pieces profile all).splitBy (adjoins d)).filterMap (removalOf? d))
  rw [List.nil_append, Nat.zero_add, ← hdraft] at hall
  obtain ⟨runs, hruns, rfl⟩ := List.sublist_filterMap_iff.mp htaken
  have hapart : (runs.filterMap (removalOf? d)).Pairwise fun r s =>
      r.span.collides s.span = false := by
    have hspans : (draft.queue.edits.map Edit.span).Pairwise fun s t => s.collides t = false :=
      List.pairwise_map.mpr hsound.apart
    rw [hall.spans] at hspans
    exact List.pairwise_map.mp hspans
  have hordered := pairwise_flatten_of_apart h hruns hapart
  have heq : (rowOf h hruns hordered).placed = runs.filterMap (removalOf? d) :=
    List.filter_eq_self.mpr hplaced
  exact ⟨runs, hruns, hordered, hplaced, heq ▸ hall, hsum⟩

/-! ### Conservation -/

/-- Whether a marked unit is held by a piece. -/
def takesIn (p : Piece) (k : Mark) : Bool :=
  k.isRemoved && decide (p.node.Holds k.node)

section
variable {m k : Mark}
include h

theorem takesIn_pieceFor (hm : m ∈ all) (hremoved : m.isRemoved = true) :
    takesIn (pieceFor profile all m).1 m = true := by
  rw [takesIn, hremoved, decide_eq_true (holds_pieceFor h hm).2.2]
  rfl

theorem takesIn_of_isIn (hm : m ∈ all) (hgroup : (pieceFor profile all m).2 = true) (hk : k ∈ all)
    (hin : isIn profile (pieceFor profile all m).1.node k = true) :
    takesIn (pieceFor profile all m).1 k = true := by
  rw [takesIn, (eq_of_isIn h hm hgroup hk hin).1,
    decide_eq_true (holds_of_isIn h hm hgroup hk hin)]
  rfl

/-- What goes for a marked unit counts no more than the marked units that it holds. -/
theorem count_le_takesIn (hm : m ∈ all) (hremoved : m.isRemoved = true) :
    (pieceFor profile all m).1.count ≤
      (all.filter (takesIn (pieceFor profile all m).1)).length := by
  cases hgroup : (pieceFor profile all m).2 with
  | true =>
    rw [count_of_group hgroup]
    exact length_filter_mono fun k hk => takesIn_of_isIn h hm hgroup hk
  | false =>
    have hmem := List.mem_filter.mpr ⟨hm, takesIn_pieceFor h hm hremoved⟩
    have hone : (pieceFor profile all m).1.count = 1 := by rw [pieceFor_of_alone hgroup]
    have := List.length_pos_of_mem hmem
    omega

/-- Where what goes for a unit counts all marked units that it holds, these are the members of its
group, or there is just one. -/
theorem isIn_or_le_one (hm : m ∈ all)
    (hcount : (pieceFor profile all m).1.count =
      (all.filter (takesIn (pieceFor profile all m).1)).length)
    (hk : k ∈ all) (htakes : takesIn (pieceFor profile all m).1 k = true) :
    (pieceFor profile all m).2 = true ∧ isIn profile (pieceFor profile all m).1.node k = true ∨
      (all.filter (takesIn (pieceFor profile all m).1)).length ≤ 1 := by
  cases hgroup : (pieceFor profile all m).2 with
  | true =>
    rw [count_of_group hgroup] at hcount
    exact .inl ⟨rfl, forall_of_length_filter_le (fun k hk => takesIn_of_isIn h hm hgroup hk)
      hcount.ge k hk htakes⟩
  | false =>
    have hone : (pieceFor profile all m).1.count = 1 := by rw [pieceFor_of_alone hgroup]
    exact .inr (by omega)

end

section
variable {draft : Draft} {h}

/-- No marked unit is held by two pieces that were taken. -/
theorem IsTaken.pairwise_takesIn (ht : IsTaken h draft runs) :
    runs.flatten.Pairwise fun p q => ∀ k ∈ all, takesIn p k = true → takesIn q k = false := by
  refine ht.ordered.imp_of_mem fun {p q} hp hq hle k hk htakes =>
    Bool.eq_false_iff.mpr fun htakes' => ?_
  obtain ⟨m, hm, -, rfl⟩ := exists_of_mem_runs ht.sublist hp
  obtain ⟨m', hm', -, rfl⟩ := exists_of_mem_runs ht.sublist hq
  rw [takesIn, Bool.and_eq_true, decide_eq_true_eq] at htakes htakes'
  have hk' := List.mem_map_of_mem (f := Mark.node) hk
  obtain ⟨hmem, hsolid, -⟩ := holds_pieceFor h hm
  have hspan := h.nested.span_le_of_holds hmem (h.mem _ hk') htakes.2
  have hspan' := h.nested.span_le_of_holds (holds_pieceFor h hm').1 (h.mem _ hk') htakes'.2
  have hlt := (h.solid _ hk').start_lt_trimmed_stop hsolid
    ((h.solid _ hk').start_lt_stop.trans_le hspan.2)
  omega

variable (ht : IsTaken h draft runs) (hconserved : IsConserved d all draft)
include ht hconserved

/-- Every piece that was taken counts all marked units that it holds, and no marked unit is left
out. -/
theorem IsTaken.counts :
    (∀ p ∈ runs.flatten, p.count = (all.filter (takesIn p)).length) ∧
      ∀ m ∈ all, m.isRemoved = true → runs.flatten.any (takesIn · m) = true := by
  have hcount : (all.filter Mark.isRemoved).length = total (runs.flatten.map Piece.count) := by
    rw [← hconserved.counted, ht.counted, ht.taken.sum]
    exact Row.total_count_of_placed ht.taken ht.placed
  have hbound : ∀ p ∈ runs.flatten, p.count ≤ (all.filter (takesIn p)).length := by
    intro p hp
    obtain ⟨m, hm, hremoved, rfl⟩ := exists_of_mem_runs ht.sublist hp
    exact count_le_takesIn h hm hremoved
  have htotal : total (runs.flatten.map fun p => (all.filter (takesIn p)).length) =
      (all.filter fun k => runs.flatten.any (takesIn · k)).length :=
    total_map_length_filter ht.pairwise_takesIn
  have hremoved : ∀ k ∈ all, runs.flatten.any (takesIn · k) = true → k.isRemoved = true := by
    intro k _ hany
    obtain ⟨p, -, htakes⟩ := List.any_eq_true.mp hany
    rw [takesIn, Bool.and_eq_true] at htakes
    exact htakes.1
  have hle : (all.filter fun k => runs.flatten.any (takesIn · k)).length ≤
      (all.filter Mark.isRemoved).length := length_filter_mono hremoved
  have hmap := total_map_le hbound
  exact ⟨eq_of_total_le hbound (by omega), forall_of_length_filter_le hremoved (by omega)⟩

variable {m k : Mark} (hm : m ∈ all) (hremoved : m.isRemoved = true)
include hm hremoved

/-- What goes for a marked unit was taken. -/
theorem IsTaken.pieceFor_mem : (pieceFor profile all m).1 ∈ runs.flatten := by
  obtain ⟨hcounts, hany⟩ := ht.counts hconserved
  obtain ⟨p, hp, htakes⟩ := List.any_eq_true.mp (hany m hm hremoved)
  obtain ⟨m', hm', hremoved', rfl⟩ := exists_of_mem_runs ht.sublist hp
  rcases isIn_or_le_one h hm' (hcounts _ hp) hm htakes with ⟨hgroup, hin⟩ | hone
  · exact (eq_of_isIn h hm' hgroup hm hin).2 ▸ hp
  · exact eq_of_length_filter_le_one hone hm' (takesIn_pieceFor h hm' hremoved') hm htakes ▸ hp

/-- What goes for a marked unit spares every other. -/
theorem IsTaken.spares (hk : k ∈ all)
    (hother : ∀ P : Mark → Bool, (all.filter P).length ≤ 1 → ¬ (P m = true ∧ P k = true)) :
    Spares profile all m k := by
  intro hover
  have hmem := ht.pieceFor_mem hconserved hm hremoved
  obtain ⟨hnode, hsolid, -⟩ := holds_pieceFor h hm
  obtain ⟨hnode', hsolid', hholds'⟩ := holds_pieceFor h hk
  rw [Span.overlaps_iff] at hover
  have hk' := List.mem_map_of_mem (f := Mark.node) hk
  have hreach : (d.trimmedSpan (pieceFor profile all m).1.node).overlaps k.node.span = true :=
    Span.overlaps_iff.mpr ⟨hover.1, (h.solid _ hk').start_lt_trimmed_stop hsolid hover.2⟩
  have hremoved' : k.isRemoved = true := by
    by_contra hkept
    exact Row.editsInto_ne_nil ht.taken ht.placed hmem hreach
      (hconserved.spared k hk (Bool.eq_false_iff.mpr hkept))
  -- Both pieces were taken and reach into the other unit, so that they are one.
  have hspan := span_pieceFor h hk
  have heq : (pieceFor profile all k).1 = (pieceFor profile all m).1 := by
    refine (Row.overlaps_iff_eq (w := rowOf h ht.sublist ht.ordered) hmem _
      (ht.pieceFor_mem hconserved hk hremoved')).mp (Span.overlaps_iff.mpr ⟨?_, ?_⟩)
    · exact hsolid'.start_lt_trimmed_stop hsolid (hspan.1.trans_lt hover.2)
    · exact hsolid.start_lt_trimmed_stop hsolid' (hover.1.trans_le hspan.2)
  have htakes : takesIn (pieceFor profile all m).1 k = true := by
    rw [← heq]
    exact takesIn_pieceFor h hk hremoved'
  have hcount := (ht.counts hconserved).1 _ hmem
  exact (isIn_or_le_one h hm hcount hk htakes).resolve_right fun hone =>
    hother _ hone ⟨takesIn_pieceFor h hm hremoved, htakes⟩

end

variable {h} in
/-- **Where marked units are conserved, what goes for one spares all others.** -/
theorem IsConserved.goApart {draft : Draft} (hconserved : IsConserved d all draft)
    (ht : IsTaken h draft runs) : GoApart profile all := by
  refine List.pairwise_iff_forall_sublist.mpr fun {m k} hpair => ?_
  have hm : m ∈ all := hpair.subset List.mem_cons_self
  have hk : k ∈ all := hpair.subset (by simp)
  -- A filter that lets one mark through does not let both of two places through.
  have hother : ∀ P : Mark → Bool, (all.filter P).length ≤ 1 → ¬ (P m = true ∧ P k = true) := by
    rintro P hle ⟨hPm, hPk⟩
    have hlength := (hpair.filter P).length_le
    simp only [List.filter_cons_of_pos hPm, List.filter_cons_of_pos hPk, List.filter_nil,
      List.length_cons, List.length_nil] at hlength
    omega
  exact ⟨fun hremoved => ht.spares hconserved hm hremoved hk hother,
    fun hremoved => ht.spares hconserved hk hremoved hm fun P hle hP => hother P hle hP.symm⟩

end

end Abridge.Import
