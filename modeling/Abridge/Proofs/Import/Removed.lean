import Abridge.Proofs.Import.Taken
import Abridge.Proofs.Import.Units
import Abridge.Proofs.Reduction.Removals

/-!
What the reduction of imports takes out, and what it counts.

Where what goes for one marked unit spares all others (`GoApart`), all that goes stands in a row
(`row`), so that the edit for a run reaches into the units that its pieces go for and into no
others. Then every marked unit is taken out by one edit, unless its run has no placeholder
(`editsInto_of_isRemoved`), a unit that is not marked is left alone
(`editsInto_of_not_isRemoved`), and the counter is the number of units that are taken out
(`total_count_placed`). This is so just then (`imports_conserve_units_iff`): a group takes out
whatever import it holds, be it a member or not, marked or not (`group_takes_import_in_error`).
-/
namespace Abridge

/-! ### One counter -/

namespace Tally
variable {key : String} {t : Tally}

/-- Whether a tally holds no counters but one. -/
def IsOnly (key : String) (t : Tally) : Prop :=
  ∀ entry ∈ t.entries, entry.1 = key

theorem IsOnly.incr (h : t.IsOnly key) (n : Nat) : (t.incr key n).IsOnly key := by
  unfold Tally.incr
  split
  · exact h
  · exact fun entry hentry => (mem_alter hentry).elim id (h entry)

/-- The only counter is the sum of all. -/
theorem IsOnly.get_eq_sumOf (h : t.IsOnly key) (hsorted : IsSorted t.entries) {start : String}
    (hstart : start.toList.isPrefixOf key.toList = true) : t.get key = t.sumOf start := by
  obtain ⟨entries⟩ := t
  match entries with
  | [] => rfl
  | [(k, n)] =>
    obtain rfl : k = key := h (k, n) List.mem_cons_self
    simp [Tally.get, Tally.get?, Tally.sumOf, hstart]
  | a :: b :: rest =>
    have hlt := (List.pairwise_cons.mp hsorted).1 b List.mem_cons_self
    rw [h a List.mem_cons_self, h b (by simp)] at hlt
    exact absurd hlt (lt_irrefl _)

end Tally

/-- Removals of one sort raise one counter. -/
theorem Draft.IsWritten.isOnly {d : Document} {profile : Profile} {Removes : Removal → Prop}
    {noun : String} {draft : Draft}
    (h : draft.IsWritten d profile Removes fun _ _ _ => False)
    (hremoves : ∀ r, Removes r → r.noun = noun) :
    draft.tally.IsOnly (removedKey noun) ∧ Tally.IsSorted draft.tally.entries := by
  induction h with
  | empty => exact ⟨fun _ h => absurd h List.not_mem_nil, Tally.isSorted_empty⟩
  | plan _ _ ih => exact ih
  | replace _ he => exact he.elim
  | @remove draft _ r hr ih =>
    unfold Draft.remove
    split
    · exact ih
    next comment _ =>
      simp only
      rcases replace_cases { draft with stubs := (draft.stubs.take r.statement).2 } r.span
        (withStub (draft.stubs.take r.statement).1 comment) (removedKey r.noun) r.count with
        heq | ⟨queue, -, -, heq⟩ <;> rw [heq]
      · exact ih
      · rw [hremoves r hr]
        exact ⟨ih.1.incr _, Tally.isSorted_incr ih.2 _ _⟩

namespace Import

/-- Whether a unit is in a run for which no comment can stand in. -/
def IsStuck (profile : Profile) (d : Document) (all : List Mark) (m : Mark) : Prop :=
  ∃ run ∈ (pieces profile all).splitBy (adjoins d), (∃ p ∈ run, p.node.Holds m.node) ∧
    ∃ r ∈ removalOf? d run, Draft.placeholder? d r = none

/-- Whether a draft takes out all marked units, each, the blanks at its end apart, in one edit, but
for those for whose run nothing can stand in, which happens in Python alone and leaves them as they
are; whether it reaches into no unit that is not marked, and counts those that it reaches into. -/
structure IsConservedUnlessStuck (profile : Profile) (d : Document) (all : List Mark)
    (draft : Draft) : Prop where
  taken : ∀ m ∈ all, m.isRemoved = true →
    (∃ e, draft.editsInto m.node.span = [e] ∧ e.span.contains (d.trimmedSpan m.node) = true) ∨
      draft.editsInto m.node.span = [] ∧ d.language = .python ∧ IsStuck profile d all m
  spared : ∀ m ∈ all, m.isRemoved = false → draft.editsInto m.node.span = []
  counted : draft.tally.get "removed.import" =
    (all.filter fun m => !(draft.editsInto m.node.span).isEmpty).length

/-- Outside Python nothing is stuck. -/
theorem IsConservedUnlessStuck.isConserved {profile : Profile} {d : Document} {all : List Mark}
    {draft : Draft} (h : IsConservedUnlessStuck profile d all draft) (hl : d.language ≠ .python) :
    IsConserved d all draft := by
  have htaken : ∀ m ∈ all, m.isRemoved = true → ∃ e, draft.editsInto m.node.span = [e] ∧
      e.span.contains (d.trimmedSpan m.node) = true := fun m hm hremoved =>
    (h.taken m hm hremoved).resolve_right fun hstuck => hl hstuck.2.1
  refine ⟨htaken, h.spared,
    h.counted.trans (congrArg List.length (List.filter_congr fun m hm => ?_))⟩
  cases hremoved : m.isRemoved with
  | false => rw [h.spared m hm hremoved]; rfl
  | true =>
    obtain ⟨e, he, -⟩ := htaken m hm hremoved
    rw [he]
    rfl

section
variable {profile : Profile} {d : Document} {all : List Mark} {draft : Draft} {n : Nat} {m : Mark}
  (h : IsLaid profile d (all.map Mark.node)) (hapart : GoApart profile all)

/-- All that goes, in a row. -/
def row : Row d Piece :=
  rowOf h (.refl _) (by
    rw [List.flatten_splitBy]
    refine (pairwise_pieces h hapart).imp_of_mem fun hp _ hle => ?_
    obtain ⟨m, hm, -, rfl⟩ := exists_of_mem_pieces hp
    exact (holds_pieceFor h hm).2.1.isStretch.trimmed.2.trans hle)

theorem flatten_runs : (row h hapart).runs.flatten = pieces profile all :=
  List.flatten_splitBy _ _

include h hapart

/-- What goes for a marked unit, the blanks at its end apart, reaches only into units for which it
goes. -/
theorem eq_of_overlaps_trimmed {k : Mark} (hk : k ∈ all) (hremoved : k.isRemoved = true)
    (hm : m ∈ all)
    (hover : (d.trimmedSpan (pieceFor profile all k).1.node).overlaps m.node.span = true) :
    m.isRemoved = true ∧ pieceFor profile all m = pieceFor profile all k := by
  have hle := (holds_pieceFor h hk).2.1.isStretch.trimmed.2
  rw [Span.overlaps_iff] at hover
  exact eq_of_overlaps h hapart hk hremoved hm
    (Span.overlaps_iff.mpr ⟨hover.1, hover.2.trans_le hle⟩)

/-- Of all pieces, at most the one that would go for a unit reaches into it. -/
theorem overlaps_iff_eq (hm : m ∈ all) :
    ∀ p ∈ (row h hapart).runs.flatten,
      (d.trimmedSpan p.node).overlaps m.node.span = true ↔ p = (pieceFor profile all m).1 := by
  intro p hp
  rw [flatten_runs] at hp
  obtain ⟨k, hk, hremoved', rfl⟩ := exists_of_mem_pieces hp
  obtain ⟨hmem, hsolid, -⟩ := holds_pieceFor h hk
  constructor
  · intro hover
    rw [(eq_of_overlaps_trimmed h hapart hk hremoved' hm hover).2]
  · intro heq
    have hover := Span.overlaps_iff.mp
      (overlaps_of_holds h hmem hm (heq ▸ (holds_pieceFor h hm).2.2))
    exact Span.overlaps_iff.mpr ⟨hover.1,
      (h.solid _ (List.mem_map_of_mem hm)).start_lt_trimmed_stop hsolid hover.2⟩

section
variable (hdraft : draft.HasTaken d ((row h hapart).placed.map Removal.span) n)
include hdraft

/-- **A marked unit is taken out by one edit**, and no other edit reaches into it, unless nothing
can stand in for its run. -/
theorem editsInto_of_isRemoved (hm : m ∈ all) (hremoved : m.isRemoved = true) :
    (∃ e, draft.editsInto m.node.span = [e] ∧ e.span.contains (d.trimmedSpan m.node) = true) ∨
      draft.editsInto m.node.span = [] ∧ d.language = .python ∧ IsStuck profile d all m := by
  have hsolid := h.solid _ (List.mem_map_of_mem hm)
  obtain ⟨-, hsolid', hholds⟩ := holds_pieceFor h hm
  have hpiece := pieceFor_mem_pieces h hapart hm hremoved
  rw [← flatten_runs h hapart] at hpiece
  obtain ⟨run, hrun, hmem⟩ := List.mem_flatten.mp hpiece
  obtain ⟨r, hr, hof⟩ := (row h hapart).removal run hrun
  rcases Row.editsInto_eq hdraft hrun hr hmem hsolid (overlaps_iff_eq h hapart hm) with
    ⟨-, e, he, hspan⟩ | ⟨hplaced, hnone⟩
  · have hwithin := span_pieceFor h hm
    have hstop := hsolid.trimmed_stop_le hsolid' hwithin.2
    have hcontains : r.span.contains (d.trimmedSpan (pieceFor profile all m).1.node) = true :=
      Row.contains_of_mem hrun hof hmem
    rw [Span.contains_iff] at hcontains
    refine .inl ⟨e, he, ?_⟩
    rw [hspan, Span.contains_iff]
    exact ⟨hcontains.1.trans hwithin.1, hstop.trans hcontains.2⟩
  · exact .inr ⟨hnone, (Draft.python_of_not_isPlaced hplaced).1, run, hrun, ⟨_, hmem, hholds⟩, r,
      hr, by simpa [Draft.isPlaced] using hplaced⟩

/-- **A unit that is not marked is left alone.** -/
theorem editsInto_of_not_isRemoved (hm : m ∈ all) (hremoved : m.isRemoved = false) :
    draft.editsInto m.node.span = [] := by
  refine Row.editsInto_eq_nil hdraft (h.solid _ (List.mem_map_of_mem hm)) fun p hp => ?_
  rw [flatten_runs] at hp
  obtain ⟨k, hk, hremoved', rfl⟩ := exists_of_mem_pieces hp
  refine Bool.eq_false_iff.mpr fun hover => ?_
  rw [(eq_of_overlaps_trimmed h hapart hk hremoved' hm hover).1] at hremoved
  cases hremoved

/-- The removals count the units that are taken out. -/
theorem total_count_placed :
    total ((row h hapart).placed.map Removal.count) =
      (all.filter fun m => !(draft.editsInto m.node.span).isEmpty).length := by
  have hpieces : total ((row h hapart).placed.map Removal.count) =
      total (((pieces profile all).filter fun p =>
        !(draft.editsInto (d.trimmedSpan p.node)).isEmpty).map Piece.count) := by
    rw [Row.total_count_eq hdraft, flatten_runs]
    rfl
  rw [hpieces, total_count_pieces h hapart]
  refine congrArg List.length (List.filter_congr fun m hm => ?_)
  cases hremoved : m.isRemoved with
  | false =>
    rw [editsInto_of_not_isRemoved h hapart hdraft hm hremoved]
    rfl
  | true =>
    have hpiece := pieceFor_mem_pieces h hapart hm hremoved
    rw [← flatten_runs h hapart] at hpiece
    rw [Row.isEmpty_editsInto_eq hdraft hpiece (h.solid _ (List.mem_map_of_mem hm))
      (overlaps_iff_eq h hapart hm)]
    rfl

end

/-- **What goes apart is conserved**, unless nothing can stand in for it. -/
theorem isConservedUnlessStuck
    (hdraft : draft.HasTaken d ((row h hapart).placed.map Removal.span)
      (total ((row h hapart).placed.map Removal.count)))
    (hsum : draft.tally.get "removed.import" = draft.tally.sumOf "removed.") :
    IsConservedUnlessStuck profile d all draft where
  taken _ hm := editsInto_of_isRemoved h hapart hdraft hm
  spared _ hm := editsInto_of_not_isRemoved h hapart hdraft hm
  counted := hsum.trans (hdraft.sum.trans (total_count_placed h hapart hdraft))

end

/-- The counter of a draft is what it took out. -/
theorem get_tally_draft (external : List Pattern) (job : Job) (imports : List Node) :
    (draft external job imports).tally.get "removed.import" =
      (draft external job imports).tally.sumOf "removed." := by
  have hnoun : ∀ r, IsRemoval external job imports r → r.noun = "import" := by
    rintro r ⟨run, -, hr⟩
    unfold removalOf? at hr
    split at hr
    · exact Option.some.inj hr ▸ rfl
    · cases hr
  obtain ⟨honly, hsorted⟩ := (draft_isWritten external job imports).isOnly hnoun
  exact honly.get_eq_sumOf hsorted (by decide)

/-- **Taking imports out conserves units just where these go apart.** Marked are exactly the units
that the parser understood and the policy strips, and, in a long list, those behind the first few
that survive the policy. Where what goes for each spares all others, all marked units are taken out,
each by one edit, and counted, no other unit is reached into, and what nothing can stand in for
stays, which happens in Python alone. Nothing less will do: where a group that goes holds an import
which is no member of it, units are not conserved. Imports that stand as the grammars put them go
apart, whichever of them are marked. -/
theorem imports_conserve_units_iff (d : Document) (hd : d.IsNested) (config : Config)
    (count : Counter) {external : List Pattern} {found : List Node}
    (hexternal : compilePatterns config.imports.externalPatterns = .ok external)
    (hfound : d.queryNodes "imports" "import" = .ok found)
    (hsolid : ∀ n ∈ involved d.language.profile found, d.IsSolid n.span) :
    let profile := d.language.profile
    let units := unitsOf profile found
    let all := marks profile d config.imports external units
    let draft := draft external (d.job config count) found
    Reduction.imports.run (d.job config count) = .ok draft.finish ∧
    all.map Mark.node = units ∧
    (∀ (i : Nat) (m : Mark), all[i]? = some m → (m.isRemoved = true ↔
      (m.node.isOpaque = false ∧ isStripped config.imports.policy
          (originOf profile d config.imports external m.node) = true) ∨
        (config.imports.summarizeLong = true ∧
          survives profile d config.imports external m.node = true ∧
          config.imports.maxItemsBeforeSummary ≤
            (units.take i).countP (survives profile d config.imports external)))) ∧
    (GoApart profile all → IsConservedUnlessStuck profile d all draft) ∧
    (d.language ≠ .python → (IsConserved d all draft ↔ GoApart profile all)) ∧
    (IsRegular profile found → GoApart profile all) := by
  intro profile units all draft
  have hnodes : all.map Mark.node = units := map_node_marks _ _ _ _ _
  have hlaid : IsLaid profile d (all.map Mark.node) := hnodes ▸ isLaid_unitsOf hd hfound hsolid
  have hsum : draft.tally.get "removed.import" = draft.tally.sumOf "removed." :=
    get_tally_draft external _ found
  have hconserve : GoApart profile all → IsConservedUnlessStuck profile d all draft :=
    fun hapart => isConservedUnlessStuck hlaid hapart ((row hlaid hapart).hasTaken _) hsum
  have hexact : IsConserved d all draft → GoApart profile all := by
    intro hconserved
    have hsound := (draft_isWritten external (d.job config count) found).source_and_isSound.2
    obtain ⟨runs, htaken⟩ : ∃ runs, IsTaken hlaid draft runs :=
      exists_isTaken hlaid rfl hsound hsum
    exact hconserved.goApart htaken
  exact ⟨(Reduction.Drafts.imports hexternal hfound).run_eq, hnodes, fun i m hm => isRemoved_iff hm,
    hconserve, fun hl => ⟨hexact, fun hapart => (hconserve hapart).isConserved hl⟩,
    fun hregular => hregular.goApart hd hfound hsolid hnodes⟩

/-- A file in Go with a group of two imports of the standard library, and an import of its own. -/
def grouped : Document :=
  .ofTree .go "package p\n\nimport (\n\t\"fmt\"\n\t\"os\"\n)\nimport \"./y\"\n".toList <|
    .named "source_file" 0 48 [
      .named "package_clause" 0 9 [.token "package" 0 7, .named "package_identifier" 8 9 []],
      .named "import_declaration" 11 34 [.token "import" 11 17,
        .named "import_spec_list" 18 34 [.token "(" 18 19,
          .named "import_spec" 21 26 [.importPath 21 26],
          .named "import_spec" 28 32 [.importPath 28 32],
          .token ")" 33 34]],
      .named "import_declaration" 35 47 [.token "import" 35 41,
        .named "import_spec" 42 47 [.importPath 42 47]]]

/-- Takes out what does not come from the project. -/
def ownOnly : Config where
  imports := { policy := .stripExternal }

/-- The imports of a file in Go. -/
def specsOf (d : Document) : List Node :=
  d.scan [.kind "import_spec" "import"] "import"

theorem queryNodes_grouped : grouped.queryNodes "imports" "import" = .ok (specsOf grouped) :=
  Document.queryNodes_eq_scan (q := Grammar.kindQuery "imports" "import" ["import_spec"]) rfl
    (by decide +kernel)

theorem isWellFormed_grouped : grouped.IsWellFormed :=
  Document.isWellFormed_iff.mp (by decide +kernel)

/-- The group goes as a whole, with one edit that counts both of its imports, and the import from
the project stays. -/
theorem imports_conserve_units_iff_grouped :
    let profile := grouped.language.profile
    let all := marks profile grouped ownOnly.imports [] (unitsOf profile (specsOf grouped))
    let draft := draft [] (grouped.job ownOnly Counter.words) (specsOf grouped)
    grouped.IsNested ∧ compilePatterns ownOnly.imports.externalPatterns = .ok [] ∧
      grouped.queryNodes "imports" "import" = .ok (specsOf grouped) ∧
      (∀ n ∈ involved profile (specsOf grouped), grouped.IsSolid n.span) ∧
      IsRegular profile (specsOf grouped) ∧
      Reduction.imports.run (grouped.job ownOnly Counter.words) = .ok draft.finish ∧
      all.map Mark.isRemoved = [true, true, false] ∧
      IsConserved grouped all draft := by
  intro profile all draft
  have hnested := isWellFormed_grouped.isNested
  have hexternal : compilePatterns ownOnly.imports.externalPatterns = .ok [] := rfl
  have hsolid : ∀ n ∈ involved profile (specsOf grouped), grouped.IsSolid n.span := fun n hn =>
    isWellFormed_grouped.solid n (mem_nodes_of_mem_involved hnested queryNodes_grouped hn)
  have hregular : IsRegular profile (specsOf grouped) :=
    ⟨by decide +kernel, by decide +kernel⟩
  obtain ⟨hrun, -, -, -, hconserved, hapart⟩ := imports_conserve_units_iff grouped hnested ownOnly
    Counter.words hexternal queryNodes_grouped hsolid
  exact ⟨hnested, hexternal, queryNodes_grouped, hsolid, hregular, hrun, by decide +kernel,
    (hconserved (by decide)).mpr (hapart hregular)⟩

/-- A file in Go in whose group a comma stands between two imports: the parser sets aside the one
before it. -/
def separated : Document :=
  .ofTree .go "package p\n\nimport (\n\t\"./y\", \"fmt\"\n)\n".toList <|
    .recovered <| .named "source_file" 0 36 [
      .named "package_clause" 0 9 [.token "package" 0 7, .named "package_identifier" 8 9 []],
      .recovered <| .named "import_declaration" 11 35 [.token "import" 11 17,
        .recovered <| .named "import_spec_list" 18 35 [.token "(" 18 19,
          .error 21 27 [.named "import_spec" 21 26 [.importPath 21 26], .token "," 26 27],
          .named "import_spec" 28 33 [.importPath 28 33],
          .token ")" 34 35]]]

theorem queryNodes_separated : separated.queryNodes "imports" "import" = .ok (specsOf separated) :=
  Document.queryNodes_eq_scan (q := Grammar.kindQuery "imports" "import" ["import_spec"]) rfl
    (by decide +kernel)

/-- Takes out all imports. -/
def noImports : Config where
  imports := { policy := .stripAll }

/-- An import that the parser set aside is no member of its group, so that the group goes with it
though it would stay by the policy. Where both go, the queue refuses the group, and the other is
neither taken out nor counted. -/
theorem group_takes_import_in_error :
    let profile := separated.language.profile
    let units := unitsOf profile (specsOf separated)
    let all := marks profile separated ownOnly.imports [] units
    let draft := fun config => draft [] (separated.job config Counter.words) (specsOf separated)
    separated.IsWellFormed ∧
      separated.queryNodes "imports" "import" = .ok (specsOf separated) ∧
      Reduction.imports.run (separated.job ownOnly Counter.words) = .ok (draft ownOnly).finish ∧
      all.map (fun m => (m.node.span, m.node.isOpaque, m.isRemoved)) =
        [(.between 21 26, false, false), (.between 28 33, false, true)] ∧
      ((draft ownOnly).editsInto (.between 21 26)).map Edit.span = [.between 11 35] ∧
      (draft ownOnly).finish.text = some "package p\n\n// … import omitted\n".toList ∧
      (marks profile separated noImports.imports [] units).map Mark.isRemoved = [true, true] ∧
      (draft noImports).editsInto (.between 28 33) = [] ∧
      (draft noImports).finish.tally.get "removed.import" = 1 := by
  intro profile units all draft
  refine ⟨Document.isWellFormed_iff.mp (by decide +kernel), queryNodes_separated,
    (Reduction.Drafts.imports rfl queryNodes_separated).run_eq, ?_, ?_, ?_, ?_, ?_, ?_⟩
  all_goals decide +kernel

end Import

end Abridge
