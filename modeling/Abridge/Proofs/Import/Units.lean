import Abridge.Profile.Table
import Abridge.Proofs.Import.Pieces

/-!
The units that are taken out for the imports of a document.

A query finds imports in order, and what is taken out for one is the import itself or its parent.
Marked are the units that the policy strips and, in a long list, those behind the first few that
survive it (`isRemoved_iff`). Units come in the order in which they begin (`isLaid_unitsOf`). Where
grammars allow no import inside another and nothing but imports and comments in a group
(`IsRegular`), whatever goes for a unit spares all others (`IsRegular.goApart`).
-/
namespace Abridge

/-! ### What languages take out for an import -/

/-- An import is taken out by itself or with its parent. -/
theorem Language.unit_eq_or_parent? (l : Language) (n : Node) :
    l.profile.unit n = n ∨ n.parent? = some (l.profile.unit n) := by
  have hgo : Profile.Go.unit n = n ∨ n.parent? = some (Profile.Go.unit n) := by
    unfold Profile.Go.unit
    split
    next parent hparent =>
      split
      · exact .inr hparent
      · exact .inl rfl
    · exact .inl rfl
  cases l <;> first | exact .inl rfl | exact hgo

/-- The group of an import is the parent of its parent. -/
theorem Language.parent?_of_groupOf? {l : Language} {n g : Node}
    (h : l.profile.groupOf? n = some g) :
    ∃ list, n.parent? = some list ∧ list.parent? = some g := by
  have hgo : Profile.Go.groupOf? n = some g →
      ∃ list, n.parent? = some list ∧ list.parent? = some g := by
    intro h
    obtain ⟨list, hlist, h⟩ := Option.bind_eq_some_iff.mp h
    split at h
    · exact ⟨list, hlist, h⟩
    · cases h
  cases l <;> first | cases h | exact hgo h

namespace Import

/-! ### Which units go -/

/-- Of units of which each was marked by itself, a limit marks those behind the first few that would
stay, and no others. -/
theorem isRemoved_markBeyond_iff {f : Node → Mark} (hf : ∀ n, (f n).node = n) {stays : Node → Bool}
    (hstays : ∀ n, stays n = !((f n).isRemoved || n.isOpaque)) {units : List Node} {limit i : Nat}
    {m : Mark} (hm : (markBeyond limit (units.map f))[i]? = some m) :
    m.isRemoved = true ↔ (f m.node).isRemoved = true ∨
      stays m.node = true ∧ limit ≤ (units.take i).countP stays := by
  induction units generalizing limit i with
  | nil => cases hm
  | cons n rest ih =>
    rw [List.map_cons] at hm
    unfold markBeyond at hm
    rw [hf] at hm
    split at hm
    next hgoes =>
      have hnot : stays n = false := by rw [hstays, hgoes]; rfl
      cases i with
      | zero =>
        obtain rfl := Option.some.inj hm
        simp [hf, hnot]
      | succ i =>
        rw [List.take_succ_cons, List.countP_cons_of_neg (by simp [hnot])]
        exact ih hm
    next hopen =>
      have hstay : stays n = true := by simpa [hstays] using hopen
      cases limit with
      | zero =>
        cases i with
        | zero =>
          obtain rfl := Option.some.inj hm
          simp [hstay]
        | succ i => simpa using ih hm
      | succ limit =>
        cases i with
        | zero =>
          obtain rfl := Option.some.inj hm
          simp [hf]
        | succ i =>
          rw [List.take_succ_cons, List.countP_cons_of_pos hstay, Nat.add_le_add_iff_right]
          exact ih hm

/-- Whether an import that the parser understood stays by the policy. -/
def survives (profile : Profile) (d : Document) (config : ImportConfig) (external : List Pattern)
    (n : Node) : Bool :=
  !n.isOpaque && !isStripped config.policy (originOf profile d config external n)

/-- **Marked are the imports that the policy strips, and, in a long list, those behind the first few
that survive it**; what the parser did not understand is never marked. -/
theorem isRemoved_iff {profile : Profile} {d : Document} {config : ImportConfig}
    {external : List Pattern} {units : List Node} {i : Nat} {m : Mark}
    (hm : (marks profile d config external units)[i]? = some m) :
    m.isRemoved = true ↔
      (m.node.isOpaque = false ∧
        isStripped config.policy (originOf profile d config external m.node) = true) ∨
      (config.summarizeLong = true ∧ survives profile d config external m.node = true ∧
        config.maxItemsBeforeSummary ≤
          (units.take i).countP (survives profile d config external)) := by
  have hpolicy : ∀ n, (markByPolicy profile d config external n).isRemoved = true ↔
      n.isOpaque = false ∧ isStripped config.policy (originOf profile d config external n) = true :=
    fun n => by simp [markByPolicy]
  have hsurvives : ∀ n, survives profile d config external n =
      !((markByPolicy profile d config external n).isRemoved || n.isOpaque) := by
    intro n
    cases hopaque : n.isOpaque <;> simp [markByPolicy, survives, hopaque]
  unfold marks at hm
  simp only at hm
  split at hm
  next hlong =>
    rw [isRemoved_markBeyond_iff (fun _ => rfl) hsurvives hm, hpolicy]
    simp [hlong]
  next hshort =>
    obtain ⟨n, -, rfl⟩ := List.mem_map.mp (List.mem_of_getElem? hm)
    rw [hpolicy]
    simp [hshort, markByPolicy]

/-! ### Where units stand -/

/-- The nodes by which imports are taken out: what a query finds, what is taken out for it, and the
groups of that. -/
def involved (profile : Profile) (found : List Node) : List Node :=
  found ++ unitsOf profile found ++ (unitsOf profile found).filterMap profile.groupOf?

/-- Whether imports stand as the grammars put them: no unit stands inside another, and a group holds
no units but its members. -/
structure IsRegular (profile : Profile) (found : List Node) : Prop where
  flat : ∀ n ∈ unitsOf profile found, ∀ m ∈ unitsOf profile found, n.encloses m = false
  closed : ∀ n ∈ unitsOf profile found, ∀ g ∈ profile.groupOf? n, ∀ m ∈ unitsOf profile found,
    g.encloses m = true → (profile.groupOf? m).any g.same = true

section
variable {d : Document} {found : List Node} (hd : d.IsNested)
  (hfound : d.queryNodes "imports" "import" = .ok found)
include hd hfound

/-- What is taken out for an import is a node around it. -/
theorem unit_holds {n : Node} (hn : n ∈ found) :
    d.language.profile.unit n ∈ d.nodes ∧ (d.language.profile.unit n).start ≤ n.start ∧
      n.stop ≤ (d.language.profile.unit n).stop := by
  have hmem := Document.mem_nodes_of_queryNodes hfound hn
  rcases d.language.unit_eq_or_parent? n with heq | hparent
  · rw [heq]
    exact ⟨hmem, Nat.le_refl _, Nat.le_refl _⟩
  · obtain ⟨hmem', hchild⟩ := Document.mem_children_of_parent? hmem hparent
    exact ⟨hmem', hd.span_le hmem' hchild⟩

theorem eq_of_same_unit : ∀ n ∈ found.map d.language.profile.unit,
    ∀ m ∈ found.map d.language.profile.unit, n.same m = true → n = m := by
  intro n hn m hm hsame
  obtain ⟨a, ha, rfl⟩ := List.mem_map.mp hn
  obtain ⟨b, hb, rfl⟩ := List.mem_map.mp hm
  exact Document.eq_of_path_eq (unit_holds hd hfound ha).1 (unit_holds hd hfound hb).1
    (beq_iff_eq.mp hsame)

theorem mem_unitsOf_iff {n : Node} :
    n ∈ unitsOf d.language.profile found ↔ ∃ m ∈ found, d.language.profile.unit m = n := by
  rw [unitsOf, Document.mem_dropRepeats_iff (eq_of_same_unit hd hfound), List.mem_map]

theorem mem_nodes_of_mem_unitsOf {n : Node} (hn : n ∈ unitsOf d.language.profile found) :
    n ∈ d.nodes := by
  obtain ⟨m, hm, rfl⟩ := (mem_unitsOf_iff hd hfound).mp hn
  exact (unit_holds hd hfound hm).1

theorem mem_groupOf? {n g : Node} (hn : n ∈ unitsOf d.language.profile found)
    (hg : g ∈ d.language.profile.groupOf? n) : g ∈ d.nodes ∧ g.encloses n = true := by
  obtain ⟨list, hlist, hgroup⟩ := Language.parent?_of_groupOf? hg
  obtain ⟨hmem, hchild⟩ :=
    Document.mem_children_of_parent? (mem_nodes_of_mem_unitsOf hd hfound hn) hlist
  obtain ⟨hmem', hchild'⟩ := Document.mem_children_of_parent? hmem hgroup
  exact ⟨hmem', Node.encloses_trans (Node.encloses_of_mem_children hchild')
    (Node.encloses_of_mem_children hchild)⟩

theorem mem_nodes_of_mem_involved {n : Node} (hn : n ∈ involved d.language.profile found) :
    n ∈ d.nodes := by
  rcases List.mem_append.mp hn with hn | hn
  · exact (List.mem_append.mp hn).elim (Document.mem_nodes_of_queryNodes hfound)
      (mem_nodes_of_mem_unitsOf hd hfound)
  · obtain ⟨m, hm, hg⟩ := List.mem_filterMap.mp hn
    exact (mem_groupOf? hd hfound hm hg).1

section
variable (hsolid : ∀ n ∈ involved d.language.profile found, d.IsSolid n.span)
include hsolid

/-- **Units are laid out in order.** -/
theorem isLaid_unitsOf :
    IsLaid d.language.profile d (unitsOf d.language.profile found) where
  nested := hd
  mem n hn := mem_nodes_of_mem_unitsOf hd hfound hn
  solid n hn := hsolid n (by simp [involved, hn])
  ordered := by
    refine List.Pairwise.sublist (Document.dropRepeats_sublist _) (List.pairwise_map.mpr ?_)
    refine (Document.queryNodes_pairwise hfound).imp_of_mem fun {a b} ha hb hle => ?_
    have hlt : b.start < b.stop := (hsolid b (by simp [involved, hb])).start_lt_stop
    exact (((unit_holds hd hfound ha).2.1.trans hle).trans_lt hlt).trans_le
      (unit_holds hd hfound hb).2.2
  group_mem _ hn _ hg := (mem_groupOf? hd hfound hn hg).1
  group_solid n hn g hg := hsolid g
    (List.mem_append_right _ (List.mem_filterMap.mpr ⟨n, hn, hg⟩))
  group_encloses _ hn _ hg := (mem_groupOf? hd hfound hn hg).2

variable (h : IsRegular d.language.profile found)
include h

/-- Regular units stand one behind the other. -/
theorem IsRegular.pairwise_unitsOf :
    (unitsOf d.language.profile found).Pairwise fun a b => a.stop ≤ b.start := by
  refine Document.pairwise_dropRepeats (eq_of_same_unit hd hfound)
    (fun {_ b _} hab hbc => (hab.trans b.span.start_le_stop).trans hbc) ?_
  rw [List.pairwise_map]
  refine (Document.queryNodes_pairwise hfound).imp_of_mem fun {a b} ha hb hle => ?_
  obtain ⟨hmem, hspan⟩ := unit_holds hd hfound ha
  obtain ⟨hmem', hspan'⟩ := unit_holds hd hfound hb
  have hua := (mem_unitsOf_iff hd hfound).mpr ⟨a, ha, rfl⟩
  have hub := (mem_unitsOf_iff hd hfound).mpr ⟨b, hb, rfl⟩
  rcases hd.holds_or_stop_le hmem hmem' with (hin | hin) | hahead | hbehind
  · exact .inl (beq_iff_eq.mpr (hin.path_eq (h.flat _ hua _ hub)))
  · exact .inl (beq_iff_eq.mpr (hin.path_eq (h.flat _ hub _ hua)).symm)
  · exact .inr hahead
  · have hlt : b.start < b.stop := (hsolid b (by simp [involved, hb])).start_lt_stop
    omega

omit hsolid in
/-- What goes for a regular unit spares those that it does not overlap. -/
theorem IsRegular.spares {all : List Mark} {m k : Mark}
    (hall : all.map Mark.node = unitsOf d.language.profile found) (hm : m ∈ all) (hk : k ∈ all)
    (hapart : m.node.stop ≤ k.node.start ∨ k.node.stop ≤ m.node.start) :
    Spares d.language.profile all m k := by
  intro hover
  have hm' : m.node ∈ unitsOf d.language.profile found := hall ▸ List.mem_map_of_mem hm
  have hk' : k.node ∈ unitsOf d.language.profile found := hall ▸ List.mem_map_of_mem hk
  rw [Span.overlaps_iff] at hover
  rcases pieceFor_cases d.language.profile all m with ⟨heq, -⟩ | ⟨g, hg, -, heq⟩ <;>
    rw [heq] at hover ⊢
  · exact absurd hapart (not_or.mpr ⟨Nat.not_le_of_lt hover.2, Nat.not_le_of_lt hover.1⟩)
  · obtain ⟨hmem, hencloses⟩ := mem_groupOf? hd hfound hm' hg
    refine ⟨rfl, h.closed _ hm' g hg _ hk' ?_⟩
    -- A unit that overlaps the group lies in it: no unit is the group or holds it.
    have hout : ∀ n : Node, n.Holds g → n ∈ unitsOf d.language.profile found → False := by
      intro n hholds hn
      have hflat := h.flat n hn _ hm'
      rw [Node.encloses_of_holds_of_encloses hholds hencloses] at hflat
      cases hflat
    rcases hd.holds_or_stop_le hmem (mem_nodes_of_mem_unitsOf hd hfound hk') with
      (hin | hin) | hle | hle
    · refine Node.encloses_iff.mpr ⟨hin, fun hpath => hout k.node ?_ hk'⟩
      exact Document.eq_of_path_eq hmem (mem_nodes_of_mem_unitsOf hd hfound hk') hpath ▸ .refl _
    · exact (hout _ hin hk').elim
    · exact absurd hover.2 (Nat.not_lt_of_le hle)
    · exact absurd hover.1 (Nat.not_lt_of_le hle)

/-- **What goes for regular units spares all others**, whichever of them are marked. -/
theorem IsRegular.goApart {all : List Mark}
    (hall : all.map Mark.node = unitsOf d.language.profile found) :
    GoApart d.language.profile all := by
  have hrow : all.Pairwise fun m k => m.node.stop ≤ k.node.start :=
    List.pairwise_map.mp (hall ▸ h.pairwise_unitsOf hd hfound hsolid)
  exact hrow.imp_of_mem fun hm hk hle =>
    ⟨fun _ => h.spares hd hfound hall hm hk (.inl hle),
      fun _ => h.spares hd hfound hall hk hm (.inr hle)⟩

end

end

end Import

end Abridge
