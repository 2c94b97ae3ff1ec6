import Abridge.Proofs.Literal.Balance

/-!
Where trimming a collection fails.

Trimming goes on in the collection at the cut, if there is one and tokens are left for it
(`GoesOnIn`), and fails if trimming that one does. So it fails where this way down ends at a
collection without elements, and there alone (`trim_fails_at_empty_collections`): a list that is cut
at an empty one is not trimmed at all, although its own elements could be left out
(`trim_fails_beside_spaces`).
-/
namespace Abridge

/-! ### Sizes of trees -/

theorem Node.size_le_of_mem_wrapping {n m : Node} (h : m ∈ n.wrapping) : m.size ≤ n.size := by
  fun_induction wrapping n with
  | case1 n => exact (List.mem_singleton.mp h ▸ Nat.le_refl _)
  | case2 n c hc ih =>
    rcases List.mem_cons.mp h with rfl | h
    · exact Nat.le_refl _
    · exact (ih h).trans (size_lt_of_mem_children (mem_children_of_onlyChild? hc)).le

namespace Literal

/-- The collection in an element is no larger than the element. -/
theorem size_le_of_nested? {profile : Profile} {d : Document} {e m : Node}
    (h : nested? profile d e = some m) : m.size ≤ e.size := by
  rcases mem_wrapping_of_nested? h with h | ⟨c, hc, h⟩
  · exact Node.size_le_of_mem_wrapping h
  · exact (Node.size_le_of_mem_wrapping h).trans (Node.size_lt_of_mem_children hc).le

theorem size_lt_of_mem_elements {language : Language} {n e : Node} {c : Collection}
    (h : language.profile.collection? n = some c) (he : e ∈ c.elements) : e.size < n.size := by
  obtain ⟨container, hcontainer, hc⟩ := Option.bind_eq_some_iff.mp h
  obtain ⟨first, middle, last, hchildren, rfl, helements, -⟩ :=
    Collection.exists_of_ofContainer? hc
  have hchild : e ∈ c.container.children := by
    rw [hchildren]
    exact List.mem_cons_of_mem _ (List.mem_append_left _ (helements.subset he))
  have hlt := Node.size_lt_of_mem_children hchild
  rcases Language.eq_or_mem_of_container? hcontainer with heq | hmem
  · rwa [heq] at hlt
  · exact hlt.trans (Node.size_lt_of_mem_children hmem)

/-! ### From cut to cut -/

/-- Whether trimming one collection to a budget goes on in another: the one in the first element
that is dropped, with the tokens that are left for it. -/
inductive GoesOnIn (profile : Profile) (d : Document) (count : Counter) :
    Node × Nat → Node × Nat → Prop
  | intro {n m : Node} {budget left : Nat} {l : Layout} {boundary : Node}
      (hl : layout? profile d n = some l)
      (hboundary : l.collection.elements[l.kept count budget]? = some boundary)
      (hnested : nested? profile d boundary = some m)
      (hbudget : budget = count (l.cutInside (l.kept count budget) boundary m []) + 1 + left)
      (hleft : 0 < left) :
      GoesOnIn profile d count (n, budget) (m, left)

section
variable {d : Document} {count : Counter} {n m : Node} {budget left : Nat}

theorem exists_layout_of_nested? {profile : Profile} {e : Node}
    (h : nested? profile d e = some m) : ∃ l, layout? profile d m = some l := by
  have hcollection : isCollection profile d m = true := by
    rcases Option.or_eq_some_iff.mp h with hself | ⟨-, hvalue⟩
    · exact List.find?_some hself
    · obtain ⟨c, -, hfind⟩ := Option.bind_eq_some_iff.mp hvalue
      exact List.find?_some hfind
  obtain ⟨c, hc⟩ := Option.isSome_iff_exists.mp (Bool.and_eq_true_iff.mp hcollection).2
  exact ⟨_, Option.map_eq_some_iff.mpr ⟨c, hc, rfl⟩⟩

theorem GoesOnIn.nests {profile : Profile} {s s' : Node × Nat}
    (h : GoesOnIn profile d count s s') : Nests profile d s.1 s'.1 := by
  cases h with
  | intro hl hboundary hnested hbudget hleft => exact nests_of_getElem? hl hboundary hnested

theorem GoesOnIn.exists_layout {profile : Profile} {s s' : Node × Nat}
    (h : GoesOnIn profile d count s s') : ∃ l, layout? profile d s'.1 = some l := by
  cases h with
  | intro hl hboundary hnested hbudget hleft => exact exists_layout_of_nested? hnested

/-- Trimming fails with what it goes on in. -/
theorem trim_eq_none_iff_of_goesOnIn
    (h : GoesOnIn d.language.profile d count (n, budget) (m, left)) :
    trimCollection? d.language.profile d count n budget = none ↔
      trimCollection? d.language.profile d count m left = none := by
  cases h with
  | @intro _ _ _ _ l boundary hl hboundary hnested hbudget hleft =>
    obtain ⟨c, hc, rfl⟩ := Option.map_eq_some_iff.mp hl
    replace hboundary : c.elements[(Layout.of d n c).kept count budget]? = some boundary :=
      hboundary
    have hmem : boundary ∈ c.elements := List.mem_of_getElem? hboundary
    have hne : c.elements.isEmpty = false :=
      List.isEmpty_eq_false_iff.mpr (List.ne_nil_of_mem hmem)
    have hsize : m.size < n.size :=
      (size_le_of_nested? hnested).trans_lt (size_lt_of_mem_elements hc hmem)
    have hspent : ¬ budget ≤ count ((Layout.of d n c).cutInside
        ((Layout.of d n c).kept count budget) boundary m []) + 1 := by omega
    have hrest : budget - (count ((Layout.of d n c).cutInside
        ((Layout.of d n c).kept count budget) boundary m []) + 1) = left := by omega
    rw [trimCollection?.eq_def _ _ _ n, hc]
    simp only [hne, hboundary, hnested, if_neg hspent, if_pos hsize, hrest, Bool.false_eq_true,
      if_false]
    cases trimCollection? d.language.profile d count m left with
    | none => simp
    | some inner =>
      dsimp only
      split <;> simp

/-- A collection with elements that is not trimmed is one that trimming goes on from. -/
theorem exists_goesOnIn_of_trim_eq_none {profile : Profile} {l : Layout}
    (hl : layout? profile d n = some l) (hne : l.collection.elements ≠ [])
    (h : trimCollection? profile d count n budget = none) :
    ∃ m left, GoesOnIn profile d count (n, budget) (m, left) ∧ m.size < n.size := by
  obtain ⟨c, hc, rfl⟩ := Option.map_eq_some_iff.mp hl
  rw [trimCollection?, hc] at h
  dsimp only at h
  split at h
  next hempty => exact absurd (List.isEmpty_iff.mp hempty) hne
  split at h
  · cases h
  next boundary hboundary =>
    split at h
    · cases h
    next m hnested =>
      split at h
      · cases h
      next hspent =>
        split at h
        next hsize =>
          exact ⟨m, _, .intro hl hboundary hnested (Nat.add_sub_of_le (by omega)).symm (by omega),
            hsize⟩
        · cases h

/-- Trimming fails with whatever it comes to from cut to cut. -/
theorem trim_eq_none_iff_of_reaches {s s' : Node × Nat}
    (h : Relation.ReflTransGen (GoesOnIn d.language.profile d count) s s') :
    trimCollection? d.language.profile d count s.1 s.2 = none ↔
      trimCollection? d.language.profile d count s'.1 s'.2 = none := by
  induction h with
  | refl => exact Iff.rfl
  | tail _ hstep ih => exact ih.trans (trim_eq_none_iff_of_goesOnIn hstep)

theorem trim_eq_none_of_elements_eq_nil {profile : Profile} {l : Layout}
    (hl : layout? profile d n = some l) (h : l.collection.elements = []) :
    trimCollection? profile d count n budget = none := by
  obtain ⟨c, hc, rfl⟩ := Option.map_eq_some_iff.mp hl
  rw [trimCollection?, hc]
  exact if_pos (List.isEmpty_iff.mpr h)

/-- A collection that is not trimmed leads from cut to cut to one without elements. -/
theorem exists_reaches_of_trim_eq_none {l : Layout}
    (hl : layout? d.language.profile d n = some l)
    (h : trimCollection? d.language.profile d count n budget = none) :
    ∃ s l', Relation.ReflTransGen (GoesOnIn d.language.profile d count) (n, budget) s ∧
      layout? d.language.profile d s.1 = some l' ∧ l'.collection.elements = [] := by
  induction hsize : n.size using Nat.strong_induction_on generalizing n budget l with
  | _ size ih =>
    by_cases hempty : l.collection.elements = []
    · exact ⟨_, l, .refl, hl, hempty⟩
    · obtain ⟨m, left, hstep, hlt⟩ := exists_goesOnIn_of_trim_eq_none hl hempty h
      obtain ⟨l', hl'⟩ := hstep.exists_layout
      obtain ⟨s, l'', hway, hl'', hempty'⟩ :=
        ih m.size (hsize ▸ hlt) hl' ((trim_eq_none_iff_of_goesOnIn hstep).mp h) rfl
      exact ⟨s, l'', .head hstep hway, hl'', hempty'⟩

end

/-- **Trimming fails where it comes to a collection without elements, and there alone.** A literal
is left alone if it is no collection, or if the way from cut to cut, each with what is left of the
budget, ends at a collection without elements. If the literal and all collections nested in it have
elements, it can be trimmed to any budget. -/
theorem trim_fails_at_empty_collections (d : Document) (count : Counter) (n : Node) (budget : Nat) :
    (trimCollection? d.language.profile d count n budget = none ↔
      layout? d.language.profile d n = none ∨
        ∃ s l, Relation.ReflTransGen (GoesOnIn d.language.profile d count) (n, budget) s ∧
          layout? d.language.profile d s.1 = some l ∧ l.collection.elements = []) ∧
    ((layout? d.language.profile d n).isSome = true →
      Throughout (·.collection.elements ≠ []) d.language.profile d n →
        ∃ t, trimCollection? d.language.profile d count n budget = some t) := by
  refine ⟨⟨fun h => ?_, ?_⟩, fun hsome hne => ?_⟩
  · cases hl : layout? d.language.profile d n with
    | none => exact .inl rfl
    | some l => exact .inr (exists_reaches_of_trim_eq_none hl h)
  · rintro (hnone | ⟨s, l, hway, hl, hempty⟩)
    · rw [trimCollection?, Option.map_eq_none_iff.mp hnone]
    · exact (trim_eq_none_iff_of_reaches hway).mpr (trim_eq_none_of_elements_eq_nil hl hempty)
  · obtain ⟨l, hl⟩ := Option.isSome_iff_exists.mp hsome
    refine Option.ne_none_iff_exists'.mp fun h => ?_
    obtain ⟨s, l', hway, hl', hempty⟩ := exists_reaches_of_trim_eq_none hl h
    have hnests : Relation.ReflTransGen (Nests d.language.profile d) n s.1 :=
      hway.lift Prod.fst fun _ _ hstep => hstep.nests
    exact hne s.1 hnests l' hl' hempty

/-- Two rows that both have elements can be trimmed to any budget. -/
theorem trim_fails_at_empty_collections_rows :
    (layout? rows.language.profile rows (arrayAt rows 0)).isSome = true ∧
      Throughout (·.collection.elements ≠ []) rows.language.profile rows (arrayAt rows 0) ∧
      ∃ t, trimCollection? rows.language.profile rows Counter.words (arrayAt rows 0) 7 =
        some t := by
  have hsome : (layout? rows.language.profile rows (arrayAt rows 0)).isSome = true := by
    decide +kernel
  have hall : ∀ m ∈ rows.nodes, ∀ l ∈ layout? rows.language.profile rows m,
      l.collection.elements.isEmpty = false := by
    decide +kernel
  have hne : Throughout (·.collection.elements ≠ []) rows.language.profile rows (arrayAt rows 0) :=
    throughout_of_forall isWellFormed_rows.isNested (arrayAt_mem_nodes rows 0) fun m hm l hl =>
      List.isEmpty_eq_false_iff.mp (hall m hm l hl)
  exact ⟨hsome, hne, (trim_fails_at_empty_collections rows Counter.words _ 7).2 hsome hne⟩

/-- A list of an array that holds spaces alone and of a number, in a file in JavaScript. -/
def spaced : Document :=
  .ofTree .javascript "[[                    ], 1];\n".toList <|
    .named "program" 0 29 [
      .named "expression_statement" 0 28 [
        .named "array" 0 27 [
          .token "[" 0 1,
          .named "array" 1 23 [.token "[" 1 2, .token "]" 22 23],
          .token "," 23 24,
          .named "number" 25 26 [],
          .token "]" 26 27],
        .token ";" 27 28]]

/-- The list has two elements, and the comment alone would fit, but nothing is left out: trimming
goes on in the empty array. -/
theorem trim_fails_beside_spaces :
    spaced.IsWellFormed ∧ arrayAt spaced 0 ∈ spaced.nodes ∧
      24 < Counter.bytes (spaced.textOf (arrayAt spaced 0)) ∧
      (∃ l, layout? spaced.language.profile spaced (arrayAt spaced 0) = some l ∧
        l.collection.elements ≠ [] ∧ l.cut 0 = "[/* … 2 more */]".toList ∧
        Counter.bytes (l.cut 0) ≤ 24) ∧
      trimCollection? spaced.language.profile spaced Counter.bytes (arrayAt spaced 0) 24 =
        none := by
  have hsome : (layout? spaced.language.profile spaced (arrayAt spaced 0)).isSome = true := by
    decide +kernel
  have hfacts : ∀ l ∈ layout? spaced.language.profile spaced (arrayAt spaced 0),
      l.collection.elements.isEmpty = false ∧ l.cut 0 = "[/* … 2 more */]".toList ∧
        Counter.bytes (l.cut 0) ≤ 24 := by
    decide +kernel
  obtain ⟨l, hl⟩ := Option.isSome_iff_exists.mp hsome
  obtain ⟨hne, hcut, hfits⟩ := hfacts l hl
  exact ⟨Document.isWellFormed_iff.mp (by decide +kernel), arrayAt_mem_nodes spaced 0,
    by decide +kernel, ⟨l, hl, List.isEmpty_eq_false_iff.mp hne, hcut, hfits⟩, by decide +kernel⟩

end Literal

end Abridge
