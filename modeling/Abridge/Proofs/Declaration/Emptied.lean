import Abridge.Proofs.Declaration.Surface
import Abridge.Proofs.Reduction.Captured
import Abridge.Proofs.Reduction.Emptied

/-!
Classes that leaving the public surface empties.

All declarations of a group stand in one scope, and their removal is a cut of it
(`exists_scope_of_removalOf?`). No removal with a placeholder is refused, so that a class whose
members all go has its stub in the place of the first of them for which something can stand in
(`draft_stubsOnce`).
-/
namespace Abridge

/-- In a row no removal with a placeholder is refused. -/
theorem Row.isSome_added? {d : Document} {α : Type} (w : Row d α) (stubs : Stubs)
    {front back : List Removal} {r : Removal} (heq : w.removals = front ++ r :: back)
    (hplaced : Draft.isPlaced d r = true) :
    ((front.foldl (Draft.remove d) { Draft.of d with stubs }).added? d r).isSome = true := by
  have hboundary : ∀ r' ∈ w.removals,
      d.text.isBoundary r'.span.start = true ∧ d.text.isBoundary r'.span.stop = true := by
    intro r' hr'
    obtain ⟨run, hrun, -, hof⟩ := w.mem_removals_iff.mp hr'
    exact isBoundary_of_isOf hrun hof
  have hrow := w.pairwise_removals
  rw [heq] at hboundary hrow
  obtain ⟨hfront, -, hbefore⟩ := List.pairwise_append.mp hrow
  have hempty : ({ Draft.of d with stubs } : Draft).HasTaken d [] 0 := ⟨rfl, rfl, rfl⟩
  have htaken := hempty.foldl_remove
    (fun r' hr' => (hboundary r' (List.mem_append_left _ hr')).1)
    (fun r' hr' => (hboundary r' (List.mem_append_left _ hr')).2) hfront
    fun s hs => absurd hs List.not_mem_nil
  obtain ⟨hfits, hcollides⟩ := htaken.accepts (r := r) (hboundary r (by simp)).1
    (hboundary r (by simp)).2 fun s hs => by
      obtain ⟨r', hr', rfl⟩ := List.mem_map.mp hs
      exact hbefore r' (List.mem_filter.mp hr').1 r List.mem_cons_self
  obtain ⟨comment, hcomment⟩ := Option.isSome_iff_exists.mp hplaced
  exact Option.isSome_iff_exists.mpr
    ⟨_, Draft.added?_eq_some_iff.mpr ⟨hfits, hcollides, comment, hcomment, rfl⟩⟩

namespace Declaration
variable {d : Document}

/-- The declarations of a group have one parent. -/
theorem parent?_eq_of_mem_group {ds group : List Declaration} (hgroup : group ∈ hiddenGroups d ds)
    {first e : Declaration} (hfirst : group.head? = some first) (he : e ∈ group) :
    first.statement.parent?.map Node.path = e.statement.parent?.map Node.path := by
  have hchain : group.IsChain fun a b =>
      a.statement.parent?.map Node.path = b.statement.parent?.map Node.path := by
    refine (List.isChain_of_mem_splitBy hgroup).imp fun a b hadjoins => ?_
    simp only [adjoins, Bool.and_eq_true] at hadjoins
    exact eq_of_beq hadjoins.1.2
  obtain ⟨rest, rfl⟩ := List.head?_eq_some_iff.mp hfirst
  rcases List.mem_cons.mp he with rfl | he
  · rfl
  · exact (List.pairwise_cons.mp (List.isChain_iff_pairwise.mp hchain)).1 e he

section
variable {ds group : List Declaration} (hds : ds.Pairwise (Ahead d))
  (hsolid : ∀ e ∈ ds, d.IsSolid e.span)
  (hscopes : ∀ e ∈ ds, ∃ scope, d.IsScope scope ∧ e.StandsIn scope)
  (hgroup : group ∈ hiddenGroups d ds) {r : Removal} (hr : removalOf? group = some r)
include hds hsolid hscopes hgroup hr

/-- All declarations of a group stand in one scope, out of which the removal is cut. -/
theorem exists_scope_of_removalOf? :
    ∃ scope, r.IsFrom d scope ∧ ∀ e ∈ group, e.StandsIn scope := by
  obtain ⟨r', hr', hof⟩ := (row hds hsolid).removal group hgroup
  obtain rfl : r' = r := Option.some.inj (hr'.symm.trans hr)
  have hscope : ∀ e ∈ group, ∃ scope, d.IsScope scope ∧ e.StandsIn scope :=
    fun e he => hscopes e (List.mem_filter.mp (mem_of_mem_hiddenGroups hgroup he)).1
  obtain ⟨first, hfirst, hstart⟩ := hof.first
  obtain ⟨last, hlast, hstop⟩ := hof.last
  have hmem := List.mem_of_mem_head? hfirst
  obtain ⟨scope, hisScope, hfirstIn⟩ := hscope first hmem
  have hparent := Node.parent?_of_mem_children hfirstIn.mem
  have hall : ∀ e ∈ group, e.StandsIn scope := by
    intro e he
    obtain ⟨scope', hisScope', hin⟩ := hscope e he
    have hpath := parent?_eq_of_mem_group hgroup hfirst he
    rw [hparent, Node.parent?_of_mem_children hin.mem] at hpath
    obtain rfl := Document.eq_of_path_eq hisScope.mem hisScope'.mem (Option.some.inj hpath)
    exact hin
  have hstatement : r'.statement = first.statement := by
    rw [removalOf?, hfirst, hlast] at hr
    exact Option.some.inj hr ▸ rfl
  refine ⟨scope, ⟨hisScope, hstatement ▸ hparent, ?_⟩, hall⟩
  obtain ⟨c, hc, hcstart⟩ := hfirstIn.cut.first
  obtain ⟨c', hc', hcstop⟩ := (hall last (List.mem_of_mem_getLast? hlast)).cut.last
  have hin : r'.span.start ≤ first.span.start ∧ first.span.stop ≤ r'.span.stop :=
    Span.contains_iff.mp (Row.contains_of_mem hgroup hof hmem)
  exact ⟨⟨c, hc, hstart.trans hcstart⟩, ⟨c', hc', hstop.trans hcstop⟩,
    (hin.1.trans_lt hfirstIn.cut.start_lt_stop).trans_le hin.2⟩

/-- What a removal takes out of a scope, a declaration of its group does. -/
theorem exists_contains_of_removalOf? (hd : d.IsPython) {scope s : Node}
    (hfrom : r.IsFrom d scope) (hs : s ∈ scope.children)
    (hcontains : r.span.contains s.span = true) :
    ∃ e ∈ group, e.StandsIn scope ∧ e.span.contains s.span = true := by
  obtain ⟨scope', hfrom', hall⟩ := exists_scope_of_removalOf? hds hsolid hscopes hgroup hr
  obtain rfl := Option.some.inj (hfrom.parent.symm.trans hfrom'.parent)
  obtain ⟨r', hr', hof⟩ := (row hds hsolid).removal group hgroup
  obtain rfl : r' = r := Option.some.inj (hr'.symm.trans hr)
  have hsolid' := hd.solid scope hfrom.isScope s hs
  have hlt := hsolid'.start_lt_stop
  have hin := Span.contains_iff.mp hcontains
  obtain ⟨e, he, hstart, hstop⟩ := Row.exists_around (w := row hds hsolid) hgroup hof hsolid' hin.1
    (hlt.trans_le hin.2)
  exact ⟨e, he, hall e he, (hall e he).cut.contains hd.nested hfrom.isScope.mem hs
    (hstart.trans_lt hlt) hstop⟩

end

/-- The hidden declarations of Python go from a draft in which the blocks that lose all of their
statements wait for stubs. -/
theorem draft_eq_foldl {d : Document} (hd : d.IsPython) (config : Config) (count : Counter) :
    draft (d.job config count) =
      (row hd.within_root.inOrder hd.within_root.solid).removals.foldl (Draft.remove d)
        { Draft.of d with
          stubs :=
            let ds := Profile.Python.declarations d
            Stubs.plan d.language.profile <|
              (ds.filter (isOutermost ds)).map fun e => (e.span, e.statement) } := by
  have hpython : d.language.profile.declarations d = Profile.Python.declarations d := by
    rw [hd.language]
    rfl
  simp only [draft, Document.job, hpython,
    outermostHidden_eq_filter hd.within_root.inOrder hd.within_root.solid]
  rfl

/-- **Where leaving the public surface empties blocks of Python, each has just one stub.** -/
theorem draft_stubsOnce {d : Document} (hd : d.IsPython) (config : Config) (count : Counter) :
    (draft (d.job config count)).StubsOnce d (draft (d.job config count)).queue.edits := by
  have hds := hd.within_root.inOrder
  have hsolid := hd.within_root.solid
  have hscopes := Profile.Python.exists_scope_of_mem_declarations hd
  have hsound := (draft_isWritten (d.job config count)).source_and_isSound.2
  rw [draft_eq_foldl hd config count] at hsound ⊢
  rw [Draft.edits_foldl_remove]
  refine Draft.stubsOnce_foldl_remove hd rfl (fun e he => absurd he List.not_mem_nil) hsound
    (fun r hr => ?_) (fun r hr scope hfrom s hs hcontains => ?_)
    fun _ _ _ _ front r back heq _ hplaced _ => Row.isSome_added? _ _ heq hplaced
  · obtain ⟨group, hgroup, hr, -⟩ := (row hds hsolid).mem_removals_iff.mp hr
    obtain ⟨scope, hscope, -⟩ := exists_scope_of_removalOf? hds hsolid hscopes hgroup hr
    exact ⟨scope, hscope⟩
  · obtain ⟨group, hgroup, hr, -⟩ := (row hds hsolid).mem_removals_iff.mp hr
    obtain ⟨e, he, hin, hcontains⟩ :=
      exists_contains_of_removalOf? hds hsolid hscopes hgroup hr hd hfrom hs hcontains
    exact ⟨_, List.mem_map_of_mem (mem_of_mem_hiddenGroups hgroup he),
      Node.parent?_of_mem_children hin.mem, hcontains⟩

end Declaration

end Abridge
