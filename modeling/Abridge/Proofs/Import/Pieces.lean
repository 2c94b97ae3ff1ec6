import Abridge.Proofs.Import.Marks
import Abridge.Proofs.Reduction.Runs
import Abridge.Proofs.Reduction.Steps
import Abridge.Proofs.Tree.Laminar

/-!
What goes for the imports that are marked.

Units come in the order in which they begin, each inside its group (`IsLaid`). Where whatever goes
for a marked unit reaches into no other units but the members of its group (`GoApart`), it goes for
all units that it reaches into (`eq_of_overlaps`). Then the pieces stand one behind the other
(`pairwise_pieces`), one for each marked unit (`pieceFor_mem_pieces`), and each counts the units
that it holds (`count_pieceFor`).
-/
namespace Abridge

instance (n m : Node) : Decidable (n.Holds m) :=
  inferInstanceAs (Decidable (n.path <:+ m.path))

namespace Import

/-! ### Counting -/

section Counting
variable {α β : Type}

theorem length_filter_or {p q : β → Bool} {l : List β} (h : ∀ b ∈ l, p b = true → q b = false) :
    (l.filter fun b => p b || q b).length = (l.filter p).length + (l.filter q).length := by
  induction l with
  | nil => rfl
  | cons b rest ih =>
    have hrest := ih fun b' hb' => h b' (List.mem_cons_of_mem b hb')
    cases hp : p b with
    | true => simp [hp, h b List.mem_cons_self hp, hrest, Nat.add_right_comm]
    | false => cases hq : q b <;> simp [hp, hq, hrest, Nat.add_assoc]

/-- Where no two take in the same, what each takes in adds up to what they take in together. -/
theorem total_map_length_filter {takesIn : α → β → Bool} {as : List α} {bs : List β}
    (h : as.Pairwise fun a a' => ∀ b ∈ bs, takesIn a b = true → takesIn a' b = false) :
    total (as.map fun a => (bs.filter (takesIn a)).length) =
      (bs.filter fun b => as.any (takesIn · b)).length := by
  induction as with
  | nil => simp
  | cons a rest ih =>
    obtain ⟨ha, hrest⟩ := List.pairwise_cons.mp h
    have hnone : ∀ b ∈ bs, takesIn a b = true → rest.any (takesIn · b) = false :=
      fun b hb htakes => List.any_eq_false.mpr fun a' ha' => by simp [ha a' ha' b hb htakes]
    simp only [List.map_cons, total_cons, ih hrest, List.any_cons, length_filter_or hnone]

theorem length_filter_le_one {p : β → Bool} {l : List β}
    (h : l.Pairwise fun a b => ¬ (p a = true ∧ p b = true)) : (l.filter p).length ≤ 1 := by
  induction l with
  | nil => exact Nat.zero_le _
  | cons b rest ih =>
    obtain ⟨hb, hrest⟩ := List.pairwise_cons.mp h
    cases hp : p b with
    | false => simpa [hp] using ih hrest
    | true =>
      have hnone : rest.filter p = [] :=
        List.filter_eq_nil_iff.mpr fun c hc hpc => hb c hc ⟨hp, hpc⟩
      simp [hp, hnone]

end Counting

/-! ### Groups -/

/-- Whether all members of a group go. -/
def isWhole (profile : Profile) (all : List Mark) (group : Node) : Bool :=
  (all.filter (isIn profile group)).all Mark.isRemoved

/-- Whether units are nodes in the order in which they begin, each inside its group, and all begin
with something that can be seen. -/
structure IsLaid (profile : Profile) (d : Document) (units : List Node) : Prop where
  nested : d.IsNested
  mem : ∀ n ∈ units, n ∈ d.nodes
  solid : ∀ n ∈ units, d.IsSolid n.span
  ordered : units.Pairwise fun a b => a.start < b.stop
  group_mem : ∀ n ∈ units, ∀ g ∈ profile.groupOf? n, g ∈ d.nodes
  group_solid : ∀ n ∈ units, ∀ g ∈ profile.groupOf? n, d.IsSolid g.span
  group_encloses : ∀ n ∈ units, ∀ g ∈ profile.groupOf? n, g.encloses n = true

/-- Whether what goes for one import reaches into another only if that is a member of the group
that goes. -/
def Spares (profile : Profile) (all : List Mark) (m k : Mark) : Prop :=
  (pieceFor profile all m).1.node.span.overlaps k.node.span = true →
    (pieceFor profile all m).2 = true ∧ isIn profile (pieceFor profile all m).1.node k = true

instance (profile : Profile) (all : List Mark) (m k : Mark) : Decidable (Spares profile all m k) :=
  inferInstanceAs (Decidable (_ → _))

/-- Whether whatever goes for a marked import spares all others. -/
def GoApart (profile : Profile) (all : List Mark) : Prop :=
  all.Pairwise fun m k =>
    (m.isRemoved = true → Spares profile all m k) ∧ (k.isRemoved = true → Spares profile all k m)

instance (profile : Profile) (all : List Mark) : Decidable (GoApart profile all) :=
  inferInstanceAs (Decidable (List.Pairwise _ all))

section Shape
variable {profile : Profile} {all : List Mark} {m : Mark}

/-- An import goes with its group if all of that goes, and alone otherwise. -/
theorem pieceFor_cases (profile : Profile) (all : List Mark) (m : Mark) :
    (pieceFor profile all m = (⟨m.node, 1⟩, false) ∧
        ∀ g ∈ profile.groupOf? m.node, isWhole profile all g = false) ∨
      ∃ g, profile.groupOf? m.node = some g ∧ isWhole profile all g = true ∧
        pieceFor profile all m = (⟨g, (all.filter (isIn profile g)).length⟩, true) := by
  unfold pieceFor
  split
  next hnone => exact .inl ⟨rfl, by simp [hnone]⟩
  next g hgroup =>
    simp only
    split
    next hwhole => exact .inr ⟨g, hgroup, hwhole, rfl⟩
    next hpart => exact .inl ⟨rfl, by simpa [hgroup, isWhole] using hpart⟩

/-- What goes for an import without its group is the import alone. -/
theorem pieceFor_of_alone (halone : (pieceFor profile all m).2 = false) :
    (pieceFor profile all m).1 = ⟨m.node, 1⟩ := by
  rcases pieceFor_cases profile all m with ⟨heq, -⟩ | ⟨g, -, -, heq⟩ <;> rw [heq] at halone ⊢
  cases halone

/-- A group that goes counts its members. -/
theorem count_of_group (hgroup : (pieceFor profile all m).2 = true) :
    (pieceFor profile all m).1.count =
      (all.filter (isIn profile (pieceFor profile all m).1.node)).length := by
  rcases pieceFor_cases profile all m with ⟨heq, -⟩ | ⟨g, -, -, heq⟩ <;> rw [heq] at hgroup ⊢
  cases hgroup

/-- An import for which a group goes is a member of it. -/
theorem isIn_of_group (hgroup : (pieceFor profile all m).2 = true) :
    isIn profile (pieceFor profile all m).1.node m = true := by
  rcases pieceFor_cases profile all m with ⟨heq, -⟩ | ⟨g, hg, -, heq⟩ <;> rw [heq] at hgroup ⊢
  · cases hgroup
  · rw [isIn, show profile.groupOf? m.node = some g from hg, Option.any_some]
    exact BEq.rfl

/-- Whether what goes for an import is a group that was just added. -/
def repeats (a b : Piece × Bool) : Bool :=
  b.2 && a.1.node.same b.1.node

/-- Adding pieces one by one is dropping the groups that were just added. -/
theorem pieces_eq (profile : Profile) (all : List Mark) :
    pieces profile all = (Document.dropRepeats repeats
      ((all.filter Mark.isRemoved).map (pieceFor profile all))).map Prod.fst := by
  have hgo : ∀ (ms : List Mark) (kept : Piece × Bool) (front : List Piece),
      ms.foldl (addPiece profile all) (front ++ [kept.1]) =
        front ++ (Document.dropRepeats.go repeats kept (ms.map (pieceFor profile all))).map
          Prod.fst := by
    intro ms
    induction ms with
    | nil => exact fun _ _ => rfl
    | cons m rest ih =>
      intro kept front
      rw [List.foldl_cons, List.map_cons, Document.dropRepeats.go]
      simp only [addPiece, List.getLast?_concat, Option.any_some]
      split
      next hrepeats => rw [if_pos (show repeats kept _ = true from hrepeats), ih]
      next hrepeats =>
        rw [if_neg (show ¬ repeats kept _ = true from hrepeats), ih, List.map_cons,
          List.append_assoc]
        rfl
  unfold pieces
  cases all.filter Mark.isRemoved with
  | nil => rfl
  | cons m rest =>
    rw [List.foldl_cons]
    have hfirst : addPiece profile all [] m = [] ++ [(pieceFor profile all m).1] := by
      simp [addPiece]
    rw [hfirst, hgo]
    rfl

theorem mem_goingFor {p : Piece × Bool}
    (hp : p ∈ (all.filter Mark.isRemoved).map (pieceFor profile all)) :
    ∃ m ∈ all, m.isRemoved = true ∧ p = pieceFor profile all m := by
  obtain ⟨m, hm, rfl⟩ := List.mem_map.mp hp
  obtain ⟨hm, hremoved⟩ := List.mem_filter.mp hm
  exact ⟨m, hm, hremoved, rfl⟩

theorem exists_of_mem_pieces {p : Piece} (hp : p ∈ pieces profile all) :
    ∃ m ∈ all, m.isRemoved = true ∧ p = (pieceFor profile all m).1 := by
  rw [pieces_eq] at hp
  obtain ⟨q, hq, rfl⟩ := List.mem_map.mp hp
  obtain ⟨m, hm, hremoved, rfl⟩ := mem_goingFor ((Document.dropRepeats_sublist _).subset hq)
  exact ⟨m, hm, hremoved, rfl⟩

end Shape

section
variable {profile : Profile} {d : Document} {all : List Mark}
  (h : IsLaid profile d (all.map Mark.node)) {m k : Mark}
include h

/-- What goes for a unit is a node that holds it. -/
theorem holds_pieceFor (hm : m ∈ all) :
    (pieceFor profile all m).1.node ∈ d.nodes ∧
      d.IsSolid (pieceFor profile all m).1.node.span ∧
      (pieceFor profile all m).1.node.Holds m.node := by
  have hm' := List.mem_map_of_mem (f := Mark.node) hm
  rcases pieceFor_cases profile all m with ⟨heq, -⟩ | ⟨g, hg, -, heq⟩ <;> rw [heq]
  · exact ⟨h.mem _ hm', h.solid _ hm', .refl _⟩
  · exact ⟨h.group_mem _ hm' g hg, h.group_solid _ hm' g hg,
      Node.holds_of_encloses (h.group_encloses _ hm' g hg)⟩

/-- What goes for a unit begins no later than that and ends no earlier. -/
theorem span_pieceFor (hm : m ∈ all) :
    (pieceFor profile all m).1.node.start ≤ m.node.start ∧
      m.node.stop ≤ (pieceFor profile all m).1.node.stop := by
  obtain ⟨hmem, -, hholds⟩ := holds_pieceFor h hm
  exact h.nested.span_le_of_holds hmem (h.mem _ (List.mem_map_of_mem hm)) hholds

/-- A node reaches into the units that it holds. -/
theorem overlaps_of_holds {n : Node} (hn : n ∈ d.nodes) (hk : k ∈ all) (hholds : n.Holds k.node) :
    n.span.overlaps k.node.span = true := by
  have hk' := List.mem_map_of_mem (f := Mark.node) hk
  obtain ⟨hstart, hstop⟩ := h.nested.span_le_of_holds hn (h.mem _ hk') hholds
  have hlt := (h.solid _ hk').start_lt_stop
  exact Span.overlaps_iff.mpr ⟨hstart.trans_lt hlt, hlt.trans_le hstop⟩

/-- A group that goes holds its members. -/
theorem holds_of_isIn (hm : m ∈ all) (hgroup : (pieceFor profile all m).2 = true) (hk : k ∈ all)
    (hin : isIn profile (pieceFor profile all m).1.node k = true) :
    (pieceFor profile all m).1.node.Holds k.node := by
  have hm' := List.mem_map_of_mem (f := Mark.node) hm
  have hk' := List.mem_map_of_mem (f := Mark.node) hk
  rcases pieceFor_cases profile all m with ⟨heq, -⟩ | ⟨g, hg, -, heq⟩ <;> rw [heq] at hgroup hin ⊢
  · cases hgroup
  · obtain ⟨g', hg', hsame⟩ := (Option.any_eq_true _ _).mp hin
    have hgroups := Document.eq_of_path_eq (h.group_mem _ hm' g hg) (h.group_mem _ hk' g' hg')
      (beq_iff_eq.mp hsame)
    exact hgroups ▸ Node.holds_of_encloses (h.group_encloses _ hk' g' hg')

/-- A group that goes for one member goes for each of them, and all are marked. -/
theorem eq_of_isIn (hm : m ∈ all) (hgroup : (pieceFor profile all m).2 = true) (hk : k ∈ all)
    (hin : isIn profile (pieceFor profile all m).1.node k = true) :
    k.isRemoved = true ∧ pieceFor profile all k = pieceFor profile all m := by
  have hm' := List.mem_map_of_mem (f := Mark.node) hm
  have hk' := List.mem_map_of_mem (f := Mark.node) hk
  rcases pieceFor_cases profile all m with ⟨heq, -⟩ | ⟨g, hg, hwhole, heq⟩ <;>
    rw [heq] at hgroup hin
  · cases hgroup
  · refine ⟨List.all_eq_true.mp hwhole k (List.mem_filter.mpr ⟨hk, hin⟩), ?_⟩
    obtain ⟨g', hg', hsame⟩ := (Option.any_eq_true _ _).mp hin
    obtain rfl := Document.eq_of_path_eq (h.group_mem _ hm' g hg) (h.group_mem _ hk' g' hg')
      (beq_iff_eq.mp hsame)
    rcases pieceFor_cases profile all k with ⟨-, hpart⟩ | ⟨g', hg'', -, heq'⟩
    · rw [hpart g hg'] at hwhole
      cases hwhole
    · obtain rfl := Option.some.inj (hg'.symm.trans hg'')
      rw [heq, heq']

/-- What goes for units in order begins in order. -/
theorem start_lt_stop_pieceFor (hm : m ∈ all) (hk : k ∈ all)
    (hlt : m.node.start < k.node.stop) :
    (pieceFor profile all m).1.node.start < (pieceFor profile all k).1.node.stop :=
  ((span_pieceFor h hm).1.trans_lt hlt).trans_le (span_pieceFor h hk).2

/-- Pieces come in the order in which they begin. -/
theorem pairwise_pieces_start :
    (pieces profile all).Pairwise fun p q => p.node.start < q.node.stop := by
  rw [pieces_eq, List.pairwise_map]
  refine List.Pairwise.sublist (Document.dropRepeats_sublist _) (List.pairwise_map.mpr ?_)
  refine ((List.pairwise_map.mp h.ordered).sublist List.filter_sublist).imp_of_mem
    fun hm hk hlt => ?_
  exact start_lt_stop_pieceFor h (List.mem_filter.mp hm).1 (List.mem_filter.mp hk).1 hlt

/-! ### The row of pieces -/

section
variable (hapart : GoApart profile all)
include hapart

/-- What goes for a marked unit goes for every unit that it reaches into, and these are marked. -/
theorem eq_of_overlaps (hm : m ∈ all) (hremoved : m.isRemoved = true) (hk : k ∈ all)
    (hover : (pieceFor profile all m).1.node.span.overlaps k.node.span = true) :
    k.isRemoved = true ∧ pieceFor profile all k = pieceFor profile all m := by
  by_cases hsame : m = k
  · exact hsame ▸ ⟨hremoved, rfl⟩
  · have hspares : Spares profile all m k :=
      (Node.rel_or_rel hapart hm hk hsame).elim (·.1 hremoved) (·.2 hremoved)
    obtain ⟨hgroup, hin⟩ := hspares hover
    exact eq_of_isIn h hm hgroup hk hin

/-- What goes for a marked unit goes for every unit that it holds. -/
theorem eq_of_holds (hm : m ∈ all) (hremoved : m.isRemoved = true) (hk : k ∈ all)
    (hholds : (pieceFor profile all m).1.node.Holds k.node) :
    k.isRemoved = true ∧ pieceFor profile all k = pieceFor profile all m :=
  eq_of_overlaps h hapart hm hremoved hk (overlaps_of_holds h (holds_pieceFor h hm).1 hk hholds)

/-- What goes for a group that was just added is that group. -/
theorem eq_of_repeats (hm : m ∈ all) (hremoved : m.isRemoved = true) (hk : k ∈ all)
    (hrepeats : repeats (pieceFor profile all m) (pieceFor profile all k) = true) :
    pieceFor profile all m = pieceFor profile all k := by
  obtain ⟨hmem, -, -⟩ := holds_pieceFor h hm
  obtain ⟨hmem', -, hholds⟩ := holds_pieceFor h hk
  rw [repeats, Bool.and_eq_true, Node.same, beq_iff_eq] at hrepeats
  have hnode := Document.eq_of_path_eq hmem hmem' hrepeats.2
  exact (eq_of_holds h hapart hm hremoved hk (hnode ▸ hholds)).2.symm

omit h hapart in
theorem repeats_of_eq (hgroup : (pieceFor profile all m).2 = true)
    (heq : pieceFor profile all k = pieceFor profile all m) :
    repeats (pieceFor profile all m) (pieceFor profile all k) = true := by
  simp [repeats, heq, hgroup, Node.same]

omit hapart in
/-- Of what goes for two marked units in order, the second repeats the first or stands behind it. -/
theorem repeats_or_stop_le (hm : m ∈ all) (hk : k ∈ all) (hspares : Spares profile all m k)
    (hspares' : Spares profile all k m) (hlt : m.node.start < k.node.stop) :
    repeats (pieceFor profile all m) (pieceFor profile all k) = true ∨
      (pieceFor profile all m).1.node.stop ≤ (pieceFor profile all k).1.node.start := by
  obtain ⟨hmem, -, hholds⟩ := holds_pieceFor h hm
  obtain ⟨hmem', -, hholds'⟩ := holds_pieceFor h hk
  rcases h.nested.holds_or_stop_le hmem hmem' with (hin | hin) | hahead | hbehind
  · obtain ⟨hgroup, hin⟩ := hspares (overlaps_of_holds h hmem hk (hin.trans hholds'))
    exact .inl (repeats_of_eq hgroup (eq_of_isIn h hm hgroup hk hin).2)
  · obtain ⟨hgroup, hin⟩ := hspares' (overlaps_of_holds h hmem' hm (hin.trans hholds))
    have heq := (eq_of_isIn h hk hgroup hm hin).2
    exact .inl (repeats_of_eq (heq ▸ hgroup) heq.symm)
  · exact .inr hahead
  · exact absurd hbehind (Nat.not_le_of_lt (start_lt_stop_pieceFor h hm hk hlt))

theorem eq_of_repeats_of_mem :
    ∀ p ∈ (all.filter Mark.isRemoved).map (pieceFor profile all),
      ∀ q ∈ (all.filter Mark.isRemoved).map (pieceFor profile all), repeats p q = true → p = q := by
  intro p hp q hq hrepeats
  obtain ⟨m, hm, hremoved, rfl⟩ := mem_goingFor hp
  obtain ⟨k, hk, -, rfl⟩ := mem_goingFor hq
  exact eq_of_repeats h hapart hm hremoved hk hrepeats

/-- What goes for a marked unit is a piece: only pieces that were just added are left out. -/
theorem pieceFor_mem_pieces (hm : m ∈ all) (hremoved : m.isRemoved = true) :
    (pieceFor profile all m).1 ∈ pieces profile all := by
  rw [pieces_eq]
  exact List.mem_map_of_mem ((Document.mem_dropRepeats_iff (eq_of_repeats_of_mem h hapart)).mpr
    (List.mem_map_of_mem (List.mem_filter.mpr ⟨hm, hremoved⟩)))

/-- **Pieces stand one behind the other.** -/
theorem pairwise_pieces :
    (pieces profile all).Pairwise fun a b => a.node.stop ≤ b.node.start := by
  rw [pieces_eq, List.pairwise_map]
  refine Document.pairwise_dropRepeats (eq_of_repeats_of_mem h hapart)
    (fun {_ b _} hab hbc => (hab.trans b.1.node.span.start_le_stop).trans hbc) ?_
  rw [List.pairwise_map]
  refine ((hapart.and (List.pairwise_map.mp h.ordered)).sublist List.filter_sublist).imp_of_mem
    fun {m k} hm hk ⟨⟨hspares, hspares'⟩, hlt⟩ => ?_
  obtain ⟨hm, hremoved⟩ := List.mem_filter.mp hm
  obtain ⟨hk, hremoved'⟩ := List.mem_filter.mp hk
  exact repeats_or_stop_le h hm hk (hspares hremoved) (hspares' hremoved') hlt

/-- Where no group goes, no second unit is held, for what goes for that would be a group. -/
theorem length_held_le_one (hm : m ∈ all) (hremoved : m.isRemoved = true)
    (halone : (pieceFor profile all m).2 = false) :
    (all.filter fun k => (pieceFor profile all m).1.node.Holds k.node).length ≤ 1 := by
  refine length_filter_le_one (hapart.imp_of_mem fun {a b} ha hb ⟨hspares, _⟩ => ?_)
  rw [decide_eq_true_eq, decide_eq_true_eq]
  rintro ⟨hholds, hholds'⟩
  obtain ⟨hremoved', heq⟩ := eq_of_holds h hapart hm hremoved ha hholds
  have hover := overlaps_of_holds h (holds_pieceFor h hm).1 hb hholds'
  have hgroup := (hspares hremoved' (heq ▸ hover)).1
  rw [heq, halone] at hgroup
  cases hgroup

/-- What goes for a marked unit counts the units that it holds. -/
theorem count_pieceFor (hm : m ∈ all) (hremoved : m.isRemoved = true) :
    (pieceFor profile all m).1.count =
      (all.filter fun k => (pieceFor profile all m).1.node.Holds k.node).length := by
  cases hgroup : (pieceFor profile all m).2 with
  | true =>
    rw [count_of_group hgroup]
    refine congrArg List.length (List.filter_congr fun k hk => ?_)
    rw [Bool.eq_iff_iff, decide_eq_true_eq]
    refine ⟨holds_of_isIn h hm hgroup hk, fun hholds => ?_⟩
    have heq := (eq_of_holds h hapart hm hremoved hk hholds).2
    exact heq ▸ isIn_of_group (heq ▸ hgroup)
  | false =>
    have hone : (pieceFor profile all m).1.count = 1 := by rw [pieceFor_of_alone hgroup]
    have hle := length_held_le_one h hapart hm hremoved hgroup
    have hpos : 0 < (all.filter fun k => (pieceFor profile all m).1.node.Holds k.node).length :=
      List.length_pos_of_mem
        (List.mem_filter.mpr ⟨hm, decide_eq_true (holds_pieceFor h hm).2.2⟩)
    omega

theorem facts_of_mem_pieces {p : Piece} (hp : p ∈ pieces profile all) :
    p.node ∈ d.nodes ∧
      p.count = (all.filter fun k => decide (p.node.Holds k.node)).length := by
  obtain ⟨m, hm, hremoved, rfl⟩ := exists_of_mem_pieces hp
  exact ⟨(holds_pieceFor h hm).1, count_pieceFor h hapart hm hremoved⟩

/-- No unit lies in two pieces. -/
theorem pairwise_pieces_holds :
    (pieces profile all).Pairwise fun p q => ∀ k ∈ all,
      decide (p.node.Holds k.node) = true → decide (q.node.Holds k.node) = false := by
  refine (pairwise_pieces h hapart).imp_of_mem fun hp hq hle k hk hholds =>
    decide_eq_false fun hholds' => ?_
  have hover := Span.overlaps_iff.mp (overlaps_of_holds h (facts_of_mem_pieces h hapart hp).1 hk
    (decide_eq_true_eq.mp hholds))
  have hk' := List.mem_map_of_mem (f := Mark.node) hk
  have hspan' := h.nested.span_le_of_holds (facts_of_mem_pieces h hapart hq).1 (h.mem _ hk')
    hholds'
  exact absurd hover.2 (Nat.not_lt_of_le (hle.trans hspan'.1))

/-- **The counts of pieces add up** to the number of marked units for which they go. -/
theorem total_count_pieces (P : Piece → Bool) :
    total (((pieces profile all).filter P).map Piece.count) =
      (all.filter fun m => m.isRemoved && P (pieceFor profile all m).1).length := by
  have hcount : ∀ p ∈ (pieces profile all).filter P,
      p.count = (all.filter fun k => decide (p.node.Holds k.node)).length :=
    fun p hp => (facts_of_mem_pieces h hapart (List.mem_filter.mp hp).1).2
  rw [List.map_congr_left hcount,
    total_map_length_filter ((pairwise_pieces_holds h hapart).sublist List.filter_sublist)]
  refine congrArg List.length (List.filter_congr fun k hk => ?_)
  rw [Bool.eq_iff_iff, List.any_eq_true, Bool.and_eq_true]
  constructor
  · rintro ⟨p, hp, hholds⟩
    obtain ⟨hp, hP⟩ := List.mem_filter.mp hp
    obtain ⟨m, hm, hremoved, rfl⟩ := exists_of_mem_pieces hp
    obtain ⟨hremoved', heq⟩ := eq_of_holds h hapart hm hremoved hk (decide_eq_true_eq.mp hholds)
    exact ⟨hremoved', heq ▸ hP⟩
  · rintro ⟨hremoved, hP⟩
    exact ⟨_, List.mem_filter.mpr ⟨pieceFor_mem_pieces h hapart hk hremoved, hP⟩,
      decide_eq_true_eq.mpr (holds_pieceFor h hk).2.2⟩

end

end

end Import

end Abridge
