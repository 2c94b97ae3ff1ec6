import Abridge.Proofs.Declaration.Outermost
import Abridge.Proofs.Profile.Places
import Abridge.Proofs.Reduction.Removals
import Abridge.Proofs.Reduction.Runs

/-!
What leaving the public surface takes out.

The outermost hidden declarations stand one behind the other, so that the removals of their groups
do so as well and none is refused. A group is left alone only if no comment can stand in for it.
A removal takes in what its group holds, blanks between neighbours, and nothing else: whatever lies
in it lies in a declaration of the group (`Row.exists_around`).
-/
namespace Abridge

/-- Whether an edit of a draft takes out all of a declaration. -/
def Draft.takesOut (draft : Draft) (e : Declaration) : Bool :=
  draft.queue.edits.any fun edit => edit.span.contains e.span

theorem total_map_one {α : Type} (l : List α) : total (l.map fun _ => 1) = l.length := by
  induction l with
  | nil => rfl
  | cons a rest ih => rw [List.map_cons, total_cons, ih, List.length_cons, Nat.add_comm]

namespace Declaration

/-- The outermost hidden declarations, with those that share a placeholder together. -/
def hiddenGroups (d : Document) (ds : List Declaration) : List (List Declaration) :=
  (ds.filter (isOutermost ds)).splitBy (adjoins d)

/-- Whether no comment can stand in for a group. -/
def IsStuck (d : Document) (group : List Declaration) : Prop :=
  ∃ r ∈ removalOf? group, Draft.placeholder? d r = none

/-! ### The outermost declarations -/

section
variable {d : Document} {ds : List Declaration} (hds : ds.Pairwise (Ahead d))
  (hsolid : ∀ e ∈ ds, d.IsSolid e.span)

theorem isOutermost_iff {e : Declaration} :
    isOutermost ds e = true ↔
      isHidden e = true ∧ ∀ x ∈ ds, isHidden x = true → x.node.encloses e.node = false := by
  simp [isOutermost]

include hds in
theorem contains_of_encloses {e f : Declaration} (he : e ∈ ds) (hf : f ∈ ds)
    (h : e.node.encloses f.node = true) :
    e.span.contains f.span = true ∧ (d.HasHeads → e.span.start < f.span.start) := by
  have hne : e ≠ f := by
    rintro rfl
    rw [Node.encloses_irrefl] at h
    cases h
  rcases Node.rel_or_rel hds he hf hne with hahead | hahead
  · cases hahead with
    | apart _ hef =>
      rw [hef] at h
      cases h
    | around _ hspan hhead => exact ⟨hspan, hhead⟩
  · rw [hahead.not_encloses] at h
    cases h

include hds in
/-- Every hidden declaration is an outermost one or lies in one. -/
theorem exists_outermost {e : Declaration} (he : e ∈ ds) (hhidden : isHidden e = true) :
    ∃ top ∈ ds.filter (isOutermost ds), (top = e ∨ top.node.encloses e.node = true) ∧
      top.span.contains e.span = true := by
  induction hlength : e.node.path.length using Nat.strong_induction_on generalizing e with
  | _ length ih =>
    by_cases houter : isOutermost ds e = true
    · refine ⟨e, List.mem_filter.mpr ⟨he, houter⟩, .inl rfl, ?_⟩
      simp [Span.contains]
    · obtain ⟨x, hx, hxhidden, hxe⟩ :
          ∃ x ∈ ds, isHidden x = true ∧ x.node.encloses e.node = true := by
        simpa [isOutermost_iff, hhidden] using houter
      have hlt := Node.length_lt_of_encloses hxe
      obtain ⟨top, htop, htopx, -⟩ := ih x.node.path.length (hlength ▸ hlt) hx hxhidden rfl
      have henclose : top.node.encloses e.node = true := by
        rcases htopx with rfl | htopx
        · exact hxe
        · exact Node.encloses_trans htopx hxe
      exact ⟨top, htop, .inr henclose,
        (contains_of_encloses hds (List.mem_filter.mp htop).1 he henclose).1⟩

include hds in
/-- The outermost hidden declarations stand one behind the other. -/
theorem pairwise_outermost :
    (ds.filter (isOutermost ds)).Pairwise fun a b => a.span.stop ≤ b.span.start := by
  refine (hds.sublist List.filter_sublist).imp_of_mem fun ha hb h => h.stop_le ?_
  obtain ⟨ha, hahidden⟩ := List.mem_filter.mp ha
  exact (isOutermost_iff.mp (List.mem_filter.mp hb).2).2 _ ha (isOutermost_iff.mp hahidden).1

end

/-! ### The row of groups -/

section
variable {d : Document} {ds : List Declaration}

theorem mem_of_mem_hiddenGroups {group : List Declaration} (hgroup : group ∈ hiddenGroups d ds)
    {e : Declaration} (he : e ∈ group) : e ∈ ds.filter (isOutermost ds) :=
  mem_of_mem_splitBy hgroup he

theorem exists_group_of_mem {e : Declaration} (he : e ∈ ds.filter (isOutermost ds)) :
    ∃ group ∈ hiddenGroups d ds, e ∈ group := by
  rw [← List.flatten_splitBy (adjoins d) (ds.filter (isOutermost ds))] at he
  exact List.mem_flatten.mp he

/-- The groups stand in a row, with nothing but blanks between the declarations of one. -/
def row (hds : ds.Pairwise (Ahead d)) (hsolid : ∀ e ∈ ds, d.IsSolid e.span) :
    Row d Declaration :=
  Row.ofSplitBy (ds.filter (isOutermost ds)) (adjoins d) Declaration.span (fun _ => 1) removalOf?
    (fun e he => hsolid e (List.mem_filter.mp he).1) (pairwise_outermost hds)
    (fun e _ f _ hadjoins => by
      simp only [adjoins, Lines.onlyBlanksBetween, Bool.and_eq_true] at hadjoins
      exact hadjoins.2.2)
    (fun group first last hfirst hlast =>
      ⟨⟨.between first.span.start last.span.stop, first.statement, group.length,
        first.standing.kind.noun⟩, by rw [removalOf?, hfirst, hlast], rfl,
        (total_map_one group).symm⟩)

end

/-! ### What is taken out -/

/-- What is taken out whole is reached into. -/
theorem editsInto_ne_nil_of_takesOut {d : Document} {draft : Draft} {e : Declaration}
    (hsolid : d.IsSolid e.span) (htaken : draft.takesOut e = true) :
    draft.editsInto e.span ≠ [] := by
  obtain ⟨edit, hedit, hcontains⟩ := List.any_eq_true.mp htaken
  have hlt := hsolid.start_lt_stop
  rw [Span.contains_iff] at hcontains
  exact List.ne_nil_of_mem
    (List.mem_filter.mpr ⟨hedit, Span.overlaps_iff.mpr ⟨by omega, by omega⟩⟩)

section
variable {d : Document} {ds : List Declaration} {draft : Draft} {n : Nat}
  (hds : ds.Pairwise (Ahead d)) (hsolid : ∀ e ∈ ds, d.IsSolid e.span)
  (hdraft : draft.HasTaken d ((row hds hsolid).placed.map Removal.span) n)
include hdraft

theorem takesOut_iff {e : Declaration} :
    draft.takesOut e = true ↔
      ∃ group ∈ hiddenGroups d ds, ∃ r, removalOf? group = some r ∧
        r.IsOf Declaration.span (fun _ => 1) group ∧ Draft.isPlaced d r = true ∧
        r.span.contains e.span = true := by
  have hmap : draft.takesOut e =
      (draft.queue.edits.map Edit.span).any fun s => s.contains e.span := by
    rw [List.any_map]
    rfl
  rw [hmap, hdraft.spans, List.any_map, Row.placed, List.any_filter, List.any_eq_true]
  constructor
  · rintro ⟨r, hr, htaken⟩
    obtain ⟨group, hgroup, heq, hof⟩ := (row hds hsolid).mem_removals_iff.mp hr
    rw [Bool.and_eq_true] at htaken
    exact ⟨group, hgroup, r, heq, hof, htaken⟩
  · rintro ⟨group, hgroup, r, heq, hof, htaken⟩
    exact ⟨r, (row hds hsolid).mem_removals_iff.mpr ⟨group, hgroup, heq, hof⟩,
      Bool.and_eq_true_iff.mpr htaken⟩

/-- A hidden declaration is taken out, or nothing can stand in for the group of the outermost one
around it. -/
theorem takesOut_or_isStuck {e : Declaration} (he : e ∈ ds) (hhidden : isHidden e = true) :
    draft.takesOut e = true ∨ ∃ group ∈ hiddenGroups d ds,
      (∃ top ∈ group, top = e ∨ top.node.encloses e.node = true) ∧
      ∃ r ∈ removalOf? group, r.IsOf Declaration.span (fun _ => 1) group ∧
        Draft.isPlaced d r = false := by
  obtain ⟨top, htop, hnode, hspan⟩ := exists_outermost hds he hhidden
  obtain ⟨group, hgroup, hmem⟩ := exists_group_of_mem (d := d) htop
  obtain ⟨r, hr, hof⟩ := (row hds hsolid).removal group hgroup
  cases hplaced : Draft.isPlaced d r with
  | true =>
    refine .inl ((takesOut_iff hds hsolid hdraft).mpr ⟨group, hgroup, r, hr, hof, hplaced, ?_⟩)
    have htopr : r.span.contains top.span = true := Row.contains_of_mem hgroup hof hmem
    rw [Span.contains_iff] at hspan htopr ⊢
    omega
  | false => exact .inr ⟨group, hgroup, ⟨top, hmem, hnode⟩, r, hr, hof, hplaced⟩

/-- What belongs to the surface is taken out only along with a hidden declaration around it. -/
theorem exists_hidden_of_takesOut (hheads : d.HasHeads) {e : Declaration} (he : e ∈ ds)
    (hincluded : e.standing.isIncluded = true) (htaken : draft.takesOut e = true) :
    ∃ x ∈ ds, isHidden x = true ∧ x.node.encloses e.node = true := by
  obtain ⟨group, hgroup, r, -, hof, -, hcontains⟩ := (takesOut_iff hds hsolid hdraft).mp htaken
  have hlt := (hsolid e he).start_lt_stop
  rw [Span.contains_iff] at hcontains
  obtain ⟨x, hx, hle, hltx⟩ : ∃ x ∈ group, x.span.start ≤ e.span.start ∧
      e.span.start < x.span.stop :=
    Row.exists_around (w := row hds hsolid) hgroup hof (hsolid e he) hcontains.1 (by omega)
  obtain ⟨hmem, houter⟩ := List.mem_filter.mp (mem_of_mem_hiddenGroups hgroup hx)
  have hxhidden : isHidden x = true := (isOutermost_iff.mp houter).1
  have hne : x ≠ e := by
    rintro rfl
    simp [isHidden, hincluded] at hxhidden
  refine ⟨x, hmem, hxhidden, ?_⟩
  rcases Node.rel_or_rel hds hmem he hne with hahead | hahead
  · cases hahead with
    | apart hspan => omega
    | around hnode => exact hnode
  · cases hahead with
    | apart hspan => omega
    | around _ _ hhead =>
      have := hhead hheads
      omega

/-- The counters are the number of outermost hidden declarations that are taken out. -/
theorem total_count_eq :
    total ((row hds hsolid).placed.map Removal.count) =
      ((ds.filter (isOutermost ds)).filter draft.takesOut).length := by
  have hflat : (row hds hsolid).runs.flatten = ds.filter (isOutermost ds) :=
    List.flatten_splitBy _ _
  rw [Row.total_count_eq hdraft, hflat]
  refine (total_map_one _).trans (congrArg List.length (List.filter_congr fun e he => ?_))
  rw [← hflat] at he
  have he' := (row hds hsolid).solid e he
  obtain ⟨group, hgroup, hmem⟩ := List.mem_flatten.mp he
  obtain ⟨r, hr, hof⟩ := (row hds hsolid).removal group hgroup
  rw [Bool.eq_iff_iff, Bool.not_eq_true', List.isEmpty_eq_false_iff]
  refine ⟨fun hover => ?_, editsInto_ne_nil_of_takesOut he'⟩
  rcases Row.editsInto_eq hdraft hgroup hr hmem he' (Row.overlaps_iff_eq he) with
    ⟨hplaced, -⟩ | ⟨-, hnone⟩
  · exact (takesOut_iff hds hsolid hdraft).mpr ⟨group, hgroup, r, hr, hof, hplaced,
      Row.contains_of_mem hgroup hof hmem⟩
  · exact absurd hnone hover

end

/-! ### The surface -/

/-- **Leaving the public surface takes out what does not belong to it, and nothing else.** In a
well-formed tree of any language, what is declared but does not belong to the surface, and is not
opaque, is taken out, unless the group of the outermost such declaration around it has no comment to
stand in for it; this is so only in Python, before code on the same line. Where bodies stand behind
a head, as in all grammars, what belongs to the surface is taken out only inside a declaration that
does not. The counters tell how many outermost declarations were taken out. -/
theorem publicSurface_exact (d : Document) (hd : d.IsWellFormed) (config : Config)
    (count : Counter) :
    let ds := d.language.profile.declarations d
    let draft := draft (d.job config count)
    Reduction.publicSurface.run (d.job config count) = .ok draft.finish ∧
    (∀ e ∈ ds, e.standing.isIncluded = false → e.node.isOpaque = false →
      draft.takesOut e = true ∨
        ∃ group ∈ hiddenGroups d ds,
          (∃ top ∈ group, top = e ∨ top.node.encloses e.node = true) ∧ IsStuck d group ∧
          d.language = .python ∧
          ∃ last ∈ group.getLast?, (d.lines.lineRest last.span.stop).isBlankText = false) ∧
    (d.HasHeads → ∀ e ∈ ds, e.standing.isIncluded = true → draft.takesOut e = true →
      ∃ x ∈ ds, x.standing.isIncluded = false ∧ x.node.encloses e.node = true) ∧
    draft.finish.tally.sumOf "removed." =
      ((ds.filter (isOutermost ds)).filter draft.takesOut).length := by
  intro ds draft
  have hwithin : Within d d.root ds := Language.within_root hd d.language
  have hds := hwithin.inOrder
  have hsolid := hwithin.solid
  have houtermost : outermostHidden ds = ds.filter (isOutermost ds) :=
    outermostHidden_eq_filter hds hsolid
  have hdraft : draft.HasTaken d ((row hds hsolid).placed.map Removal.span)
      (total ((row hds hsolid).placed.map Removal.count)) := by
    let stubs := Stubs.plan d.language.profile
      ((outermostHidden ds).map fun e => (e.span, e.statement))
    have hremovals : (row hds hsolid).removals =
        ((outermostHidden ds).splitBy (adjoins d)).filterMap removalOf? := by
      rw [houtermost]
      rfl
    have hfold : draft = (row hds hsolid).removals.foldl (Draft.remove d)
        { Draft.of d with stubs } := by
      rw [hremovals]
      rfl
    rw [hfold]
    exact (row hds hsolid).hasTaken stubs
  refine ⟨rfl, fun e he hfails hclear => ?_, fun hheads e he hincluded htaken => ?_, ?_⟩
  · have hhidden : isHidden e = true := by simp [isHidden, hfails, hclear]
    rcases takesOut_or_isStuck hds hsolid hdraft he hhidden with
      htaken | ⟨group, hgroup, htop, r, hr, hof, hplaced⟩
    · exact .inl htaken
    · obtain ⟨hpython, hrest⟩ := Draft.python_of_not_isPlaced hplaced
      obtain ⟨last, hlast, hstop⟩ := hof.last
      exact .inr ⟨group, hgroup, htop, ⟨r, hr, by simpa [Draft.isPlaced] using hplaced⟩, hpython,
        last, hlast, hstop ▸ hrest⟩
  · obtain ⟨x, hx, hxhidden, hnode⟩ :=
      exists_hidden_of_takesOut hds hsolid hdraft hheads he hincluded htaken
    simp only [isHidden, Bool.and_eq_true, Bool.not_eq_true'] at hxhidden
    exact ⟨x, hx, hxhidden.1, hnode⟩
  · rw [← total_count_eq hds hsolid hdraft]
    exact hdraft.sum

/-- A file in JavaScript: a function of its own, and an exported class with a private field. -/
def gauge : Document :=
  .ofTree .javascript "function a() {}\nexport class B { #x = 1 }\n".toList <|
    .named "program" 0 42 [
      .named "function_declaration" 0 15 [
        .token "function" 0 8,
        .inField "name" (.named "identifier" 9 10 []),
        .inField "parameters" (.named "formal_parameters" 10 12 [
          .token "(" 10 11, .token ")" 11 12]),
        .inField "body" (.named "statement_block" 13 15 [
          .token "\x7b" 13 14, .token "\x7d" 14 15])],
      .named "export_statement" 16 41 [
        .token "export" 16 22,
        .inField "declaration" (.named "class_declaration" 23 41 [
          .token "class" 23 28,
          .inField "name" (.named "identifier" 29 30 []),
          .inField "body" (.named "class_body" 31 41 [
            .token "\x7b" 31 32,
            .inField "member" (.named "field_definition" 33 39 [
              .inField "property" (.named "private_property_identifier" 33 35 []),
              .token "=" 36 37,
              .inField "value" (.named "number" 38 39 [])]),
            .token "\x7d" 40 41])])]]

theorem isWellFormed_gauge : gauge.isWellFormed = true := by
  decide +kernel

theorem hasHeads_gauge : gauge.HasHeads := by
  have h : (gauge.nodes.all fun n => n.children.all fun c => !c.isBodyOf n || n.start < c.start) =
      true := by decide +kernel
  intro n hn c hc hbody
  simpa [hbody] using List.all_eq_true.mp (List.all_eq_true.mp h n hn) c hc

/-- Only the function and the private field are taken out, and both are counted. -/
theorem publicSurface_exact_gauge :
    let ds := gauge.language.profile.declarations gauge
    let draft := draft (gauge.job { publicApiOnly := true } Counter.words)
    gauge.IsWellFormed ∧ gauge.HasHeads ∧
      (∀ e ∈ ds, draft.takesOut e = !e.standing.isIncluded) ∧
      draft.finish.tally.sumOf "removed." = 2 := by
  intro ds draft
  have hwell : gauge.IsWellFormed := Document.isWellFormed_iff.mp isWellFormed_gauge
  obtain ⟨-, hhidden, hkept, hsum⟩ :=
    publicSurface_exact gauge hwell { publicApiOnly := true } Counter.words
  have hclear : ds.all (fun e => !e.node.isOpaque) = true := by decide
  have hfree : ds.all (fun e => ds.all fun x =>
      x.standing.isIncluded || !x.node.encloses e.node) = true := by decide
  have htaken : ∀ e ∈ ds, draft.takesOut e = !e.standing.isIncluded := by
    intro e he
    cases hincluded : e.standing.isIncluded with
    | false =>
      have hopaque : e.node.isOpaque = false := by simpa using List.all_eq_true.mp hclear e he
      rcases hhidden e he hincluded hopaque with htaken | ⟨_, _, _, _, hpython, _⟩
      · exact htaken
      · cases hpython
    | true =>
      refine Bool.eq_false_iff.mpr fun htaken => ?_
      obtain ⟨x, hx, hfails, hnode⟩ := hkept hasHeads_gauge e he hincluded htaken
      have hnone := List.all_eq_true.mp (List.all_eq_true.mp hfree e he) x hx
      rw [hfails, hnode] at hnone
      cases hnone
  have hfilter : (ds.filter (isOutermost ds)).filter draft.takesOut =
      (ds.filter (isOutermost ds)).filter fun e => !e.standing.isIncluded :=
    List.filter_congr fun e he => htaken e (List.mem_filter.mp he).1
  exact ⟨hwell, hasHeads_gauge, htaken,
    hsum.trans ((congrArg List.length hfilter).trans (by decide))⟩

end Declaration

end Abridge
