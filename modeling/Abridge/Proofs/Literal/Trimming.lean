import Abridge.Proofs.Literal.Layout

/-!
What a trimmed collection consists of.

`Trims` describes the texts that trimming may leave of a collection, down through the collections
that are trimmed in it, with an account of each level: the stretches of the source that are kept,
and the comment that counts the missing elements. Trimming leaves no other texts
(`trims_of_trimCollection?`), and its accounts add up (`trim_accounts_for_elements`).
-/
namespace Abridge

namespace Literal

/-- The account of one trimmed collection: how many elements it had, and how many of them are kept,
whole or trimmed, or are missing. -/
structure Level where
  elements : Nat
  kept : Nat
  missing : Nat
  deriving DecidableEq, Repr

/-- Whether a comment says what is missing. -/
def Level.isMarked (level : Level) : Bool :=
  level.missing != 0

theorem countP_isMarked_cons {elements kept missing : Nat} (h : 0 < missing) (levels : List Level) :
    (⟨elements, kept, missing⟩ :: levels).countP Level.isMarked =
      levels.countP Level.isMarked + 1 :=
  List.countP_cons_of_pos (bne_iff_ne.mpr h.ne')

/-- Whether a text is what is left of a collection, with the accounts of the collection and of those
that are trimmed in it, from the outside in. -/
inductive Trims (profile : Profile) (d : Document) : Node → Text → List Level → Prop
  /-- The first elements are kept, and a comment counts the others. -/
  | cut {n : Node} {l : Layout} {k : Nat} {ending : Text} (hl : layout? profile d n = some l)
      (hk : k < l.length) (hending : l.IsEnding (k != 0) (l.length - k) ending) :
      Trims profile d n (l.head k ++ ending ++ l.closer) [⟨l.length, k, l.length - k⟩]
  /-- The last element has a trimmed collection in it, and all around this is kept. -/
  | last {n : Node} {l : Layout} {k : Nat} {boundary nested : Node} {inner : Text}
      {levels : List Level} (hl : layout? profile d n = some l) (hk : k + 1 = l.length)
      (hboundary : l.collection.elements[k]? = some boundary)
      (hnested : nested? profile d boundary = some nested)
      (hinner : Trims profile d nested inner levels) :
      Trims profile d n (l.lead k nested ++ inner ++ d.textBetween nested.stop boundary.stop ++
        d.textBetween boundary.stop n.stop) (⟨l.length, k + 1, 0⟩ :: levels)
  /-- The last of the elements that are kept has a trimmed collection in it, and a comment counts
  the elements behind it. -/
  | inside {n : Node} {l : Layout} {k : Nat} {boundary nested : Node} {inner ending : Text}
      {levels : List Level} (hl : layout? profile d n = some l) (hk : k + 1 < l.length)
      (hboundary : l.collection.elements[k]? = some boundary)
      (hnested : nested? profile d boundary = some nested)
      (hinner : Trims profile d nested inner levels)
      (hending : l.IsEnding true (l.length - k - 1) ending) :
      Trims profile d n (l.lead k nested ++ inner ++ d.textBetween nested.stop boundary.stop ++
        ending ++ l.closer) (⟨l.length, k + 1, l.length - k - 1⟩ :: levels)

section
variable {profile : Profile} {d : Document} {count : Counter} {n : Node} {text : Text}
  {levels : List Level}

theorem Trims.kept_add_missing (h : Trims profile d n text levels) :
    ∀ level ∈ levels, level.kept + level.missing = level.elements := by
  induction h with
  | cut hl hk hending =>
    intro level hlevel
    obtain rfl := List.mem_singleton.mp hlevel
    exact Nat.add_sub_cancel' hk.le
  | last hl hk hboundary hnested hinner ih => exact List.forall_mem_cons.mpr ⟨hk, ih⟩
  | @inside _ l k _ _ _ _ _ hl hk hboundary hnested hinner hending ih =>
    have hadd : k + 1 + (l.length - k - 1) = l.length := by omega
    exact List.forall_mem_cons.mpr ⟨hadd, ih⟩

/-! ### Trimming leaves such texts -/

/-- A collection with its first elements is a trimmed one. -/
theorem trims_cut {l : Layout} (hl : layout? profile d n = some l) {k : Nat} (hk : k < l.length) :
    ∃ levels, Trims profile d n (l.cut k) levels ∧ 1 = levels.countP Level.isMarked := by
  obtain ⟨ending, hending, hclose⟩ := Layout.exists_ending hl (k != 0) (l.length - k)
  rw [Layout.cut, hclose]
  exact ⟨_, .cut hl hk hending, (countP_isMarked_cons (Nat.sub_pos_of_lt hk) []).symm⟩

/-- A collection with a trimmed one in the last element that it keeps is a trimmed one. -/
theorem trims_cutInside {l : Layout} (hl : layout? profile d n = some l) {k : Nat}
    {boundary nested : Node} (hboundary : l.collection.elements[k]? = some boundary)
    (hnested : nested? profile d boundary = some nested) {inner : Text}
    (hinner : Trims profile d nested inner levels) :
    ∃ levels', Trims profile d n (l.cutInside k boundary nested inner) levels' ∧
      levels.countP Level.isMarked + (if k + 1 < l.length then 1 else 0) =
        levels'.countP Level.isMarked := by
  obtain ⟨rfl, rfl⟩ := document_of_layout? hl
  have hlt := Layout.lt_length hboundary
  unfold Layout.cutInside
  by_cases hk : k + 1 < l.length
  · obtain ⟨ending, hending, hclose⟩ := Layout.exists_ending hl true (l.length - k - 1)
    have hmissing : 0 < l.length - k - 1 := by omega
    simp only [if_neg hmissing.ne', if_pos hk, hclose]
    exact ⟨_, .inside hl hk hboundary hnested hinner hending,
      (countP_isMarked_cons hmissing levels).symm⟩
  · have hmissing : l.length - k - 1 = 0 := by omega
    have hunmarked : ¬ Level.isMarked ⟨l.length, k + 1, 0⟩ = true := Bool.false_ne_true
    simp only [if_pos hmissing, if_neg hk]
    exact ⟨_, .last hl (by omega) hboundary hnested hinner,
      (List.countP_cons_of_neg hunmarked).symm⟩

theorem Layout.kept_lt {l : Layout} (h : l.collection.elements ≠ []) (budget : Nat) :
    l.kept count budget < l.length := by
  have hle : l.kept count budget ≤ l.length - 1 := bisect_le _ _ _ (Nat.zero_le _)
  have hpos : 0 < l.length := List.length_pos_iff.mpr h
  omega

theorem trims_of_trimCollection? {budget : Nat} {t : Trimmed}
    (h : trimCollection? profile d count n budget = some t) :
    ∃ levels, Trims profile d n t.text levels ∧ t.markers = levels.countP Level.isMarked := by
  have hlayout : ∀ {n c}, profile.collection? n = some c →
      layout? profile d n = some (Layout.of d n c) := fun hc => by rw [layout?, hc]; rfl
  have hplain : ∀ {n c budget}, profile.collection? n = some c → ¬ c.elements.isEmpty →
      ∃ levels, Trims profile d n ((Layout.of d n c).cut ((Layout.of d n c).kept count budget))
        levels ∧ 1 = levels.countP Level.isMarked := fun hc hne =>
    trims_cut (hlayout hc) (Layout.kept_lt (fun hnil => hne (List.isEmpty_iff.mpr hnil)) _)
  fun_induction trimCollection? profile d count n budget generalizing t
  case case7 hc _ _ _ _ hboundary _ hnested _ _ _ _ hinner _ _ ih =>
    obtain ⟨levels, htrims, hmarkers⟩ := ih hinner
    obtain rfl := Option.some.inj h
    dsimp only
    rw [hmarkers]
    exact trims_cutInside (hlayout hc) hboundary hnested htrims
  -- What is left of the other cases is nothing, or the first elements.
  all_goals cases h
  all_goals exact hplain ‹_› ‹_›

/-- **A trimmed collection accounts for every element.** It is the source of the collection through
the first elements, of which the last may be trimmed in turn, with a comment in the place of the
others, if there are any, and the source from the closing bracket on. At each level the elements
that are kept and the number in the comment make up all elements, and as many comments are put in as
are counted. -/
theorem trim_accounts_for_elements {budget : Nat} {t : Trimmed}
    (h : trimCollection? profile d count n budget = some t) :
    ∃ levels, Trims profile d n t.text levels ∧
      (∀ level ∈ levels, level.kept + level.missing = level.elements) ∧
      t.markers = levels.countP Level.isMarked := by
  obtain ⟨levels, htrims, hmarkers⟩ := trims_of_trimCollection? h
  exact ⟨levels, htrims, htrims.kept_add_missing, hmarkers⟩

end

/-- The first array of a document that begins at an offset. -/
def arrayAt (d : Document) (start : Nat) : Node :=
  (d.nodes.find? fun n => n.kind == "array" && n.start == start).getD d.root

/-- Two rows in a file in JavaScript, the first of which is long. -/
def rows : Document :=
  .ofTree .javascript "[[1, 2, 33333333333333333333], 4];\n".toList <|
    .named "program" 0 35 [
      .named "expression_statement" 0 34 [
        .named "array" 0 33 [
          .token "[" 0 1,
          .named "array" 1 29 [.token "[" 1 2, .named "number" 2 3 [], .token "," 3 4,
            .named "number" 5 6 [], .token "," 6 7, .named "number" 8 28 [], .token "]" 28 29],
          .token "," 29 30,
          .named "number" 31 32 [],
          .token "]" 32 33],
        .token ";" 33 34]]

theorem trimCollection?_rows :
    trimCollection? rows.language.profile rows Counter.bytes (arrayAt rows 0) 45 =
      some ⟨"[[1, 2, /* … 1 more */], /* … 1 more */]".toList, 2⟩ := by
  decide +kernel

/-- One element is missing at each of two levels. -/
theorem trim_accounts_for_elements_rows :
    trimCollection? rows.language.profile rows Counter.bytes (arrayAt rows 0) 45 =
        some ⟨"[[1, 2, /* … 1 more */], /* … 1 more */]".toList, 2⟩ ∧
      ∃ levels, Trims rows.language.profile rows (arrayAt rows 0)
          "[[1, 2, /* … 1 more */], /* … 1 more */]".toList levels ∧
        (∀ level ∈ levels, level.kept + level.missing = level.elements) ∧
        2 = levels.countP Level.isMarked :=
  ⟨trimCollection?_rows, trim_accounts_for_elements trimCollection?_rows⟩

end Literal

end Abridge
