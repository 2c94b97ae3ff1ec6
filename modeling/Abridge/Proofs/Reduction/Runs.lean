import Abridge.Proofs.Reduction.Draft
import Abridge.Proofs.Reduction.Row
import Abridge.Proofs.Reduction.Steps
import Abridge.Proofs.Tree.WellFormed
import Mathlib.Data.List.Flatten

/-!
Rows of things that are taken out run by run.

The things of a row stand one behind the other, each begins with something that can be seen, and
only blanks stand between two of one run (`Row`). Each run is one removal. The removals stand one
behind the other as well, so that none is refused (`Row.hasTaken`). Whatever a removal reaches into,
some thing of its run reaches into (`Row.exists_overlapping`). So where just one thing of the row
reaches into a span, at most one edit does, the one for its run (`Row.editsInto_eq`), and where none
does, no edit does (`Row.editsInto_eq_nil`). The draft counts what its edits reach into
(`Row.total_count_eq`).
-/
namespace Abridge

theorem Span.overlaps_iff {s t : Span} :
    s.overlaps t = true ↔ s.start < t.stop ∧ t.start < s.stop := by
  simp [overlaps]

/-- Of things that are kept apart, one stands alone among those that share a property with it. -/
theorem filter_eq_singleton {α : Type} {R : α → α → Prop} {p : α → Bool} {l : List α} {a : α}
    (hl : l.Pairwise R) (hirrefl : ¬ R a a) (ha : a ∈ l) (hp : ∀ b ∈ l, p b = true ↔ b = a) :
    l.filter p = [a] := by
  obtain ⟨pre, post, rfl⟩ := List.append_of_mem ha
  obtain ⟨-, hpost, hpre⟩ := List.pairwise_append.mp hl
  have hfront : pre.filter p = [] := by
    refine List.filter_eq_nil_iff.mpr fun b hb h => hirrefl ?_
    obtain rfl := (hp b (List.mem_append_left _ hb)).mp h
    exact hpre b hb b List.mem_cons_self
  have hback : post.filter p = [] := by
    refine List.filter_eq_nil_iff.mpr fun b hb h => hirrefl ?_
    obtain rfl := (hp b (by simp [hb])).mp h
    exact (List.pairwise_cons.mp hpost).1 b hb
  rw [List.filter_append, List.filter_cons_of_pos ((hp a ha).mpr rfl), hfront, hback]
  rfl

namespace Draft

/-- The edits of a draft that reach into a span. -/
def editsInto (draft : Draft) (s : Span) : List Edit :=
  draft.queue.edits.filter fun e => e.span.overlaps s

/-- Only in Python, and only before code on the same line, can nothing stand in for a removal. -/
theorem python_of_not_isPlaced {d : Document} {r : Removal} (h : isPlaced d r = false) :
    d.language = .python ∧ (d.lines.lineRest r.span.stop).isBlankText = false := by
  have hnone : placeholder? d r = none := by simpa [isPlaced] using h
  unfold placeholder? Placeholder.commentBefore? at hnone
  split at hnone
  · cases hnone
  next hrest =>
    refine ⟨?_, Bool.eq_false_iff.mpr hrest⟩
    by_contra hl
    have hblock : d.comments.block = some ("/*", "*/") := (Language.head_delimiters hl).2.1
    simp [CommentStyle.blockComment?, hblock] at hnone

end Draft

/-- Whether a removal goes from the start of a run to its end and counts what is in it. -/
structure Removal.IsOf {α : Type} (span : α → Span) (size : α → Nat) (run : List α) (r : Removal) :
    Prop where
  first : ∃ a ∈ run.head?, r.span.start = (span a).start
  last : ∃ a ∈ run.getLast?, r.span.stop = (span a).stop
  count : r.count = total (run.map size)

theorem Removal.isOf_of_between {α : Type} {span : α → Span} {size : α → Nat} {run : List α}
    {r : Removal} {first last : α}
    (hrow : run.Pairwise fun a b => (span a).stop ≤ (span b).start)
    (hfirst : run.head? = some first) (hlast : run.getLast? = some last)
    (hspan : r.span = .between (span first).start (span last).stop)
    (hcount : r.count = total (run.map size)) : r.IsOf span size run := by
  have hle : (span first).start ≤ (span last).stop := by
    obtain ⟨rest, rfl⟩ := List.head?_eq_some_iff.mp hfirst
    rcases List.mem_cons.mp (List.mem_of_mem_getLast? hlast) with rfl | hmem
    · exact (span last).start_le_stop
    · exact ((span first).start_le_stop.trans ((List.pairwise_cons.mp hrow).1 last hmem)).trans
        (span last).start_le_stop
  exact ⟨⟨first, hfirst, hspan ▸ rfl⟩, ⟨last, hlast, hspan ▸ Nat.max_eq_left hle⟩, hcount⟩

/-- A removal takes in all of its run. -/
theorem Removal.IsOf.contains {α : Type} {span : α → Span} {size : α → Nat} {run : List α}
    {r : Removal} (h : r.IsOf span size run)
    (hrow : run.Pairwise fun a b => (span a).stop ≤ (span b).start) {a : α} (ha : a ∈ run) :
    r.span.contains (span a) = true := by
  obtain ⟨first, hfirst, hstart⟩ := h.first
  obtain ⟨last, hlast, hstop⟩ := h.last
  rw [Span.contains_iff, hstart, hstop]
  constructor
  · obtain ⟨rest, rfl⟩ := List.head?_eq_some_iff.mp hfirst
    rcases List.mem_cons.mp ha with rfl | ha
    · exact Nat.le_refl _
    · exact (span first).start_le_stop.trans ((List.pairwise_cons.mp hrow).1 a ha)
  · obtain ⟨init, rfl⟩ := List.getLast?_eq_some_iff.mp hlast
    rcases List.mem_append.mp ha with ha | ha
    · exact ((List.pairwise_append.mp hrow).2.2 a ha last List.mem_cons_self).trans
        (span last).start_le_stop
    · exact List.mem_singleton.mp ha ▸ Nat.le_refl _

/-- Things that stand one behind the other, in runs that are taken out as one. -/
structure Row (d : Document) (α : Type) where
  runs : List (List α)
  span : α → Span
  /-- How much a thing counts. -/
  size : α → Nat
  removal? : List α → Option Removal
  solid : ∀ a ∈ runs.flatten, d.IsSolid (span a)
  ordered : runs.flatten.Pairwise fun a b => (span a).stop ≤ (span b).start
  blank : ∀ run ∈ runs, run.IsChain fun a b =>
    (d.text.slice (span a).stop (span b).start).isBlankText = true
  removal : ∀ run ∈ runs, ∃ r, removal? run = some r ∧ r.IsOf span size run

namespace Row

/-- The row of things that stand in runs in which each adjoins the next. -/
def ofRuns {d : Document} {α : Type} (runs : List (List α)) (adjoins : α → α → Bool)
    (span : α → Span) (size : α → Nat) (removal? : List α → Option Removal)
    (hruns : ∀ run ∈ runs, run ≠ [] ∧ run.IsChain fun a b => adjoins a b = true)
    (hsolid : ∀ a ∈ runs.flatten, d.IsSolid (span a))
    (hordered : runs.flatten.Pairwise fun a b => (span a).stop ≤ (span b).start)
    (hblank : ∀ a ∈ runs.flatten, ∀ b ∈ runs.flatten, adjoins a b = true →
      (d.text.slice (span a).stop (span b).start).isBlankText = true)
    (hremoval : ∀ (run : List α) (first last : α), run.head? = some first →
      run.getLast? = some last → ∃ r, removal? run = some r ∧
        r.span = .between (span first).start (span last).stop ∧ r.count = total (run.map size)) :
    Row d α where
  runs
  span
  size
  removal?
  solid := hsolid
  ordered := hordered
  blank run hrun := (hruns run hrun).2.imp_of_mem_imp fun a b ha hb =>
    hblank a (List.mem_flatten.mpr ⟨run, hrun, ha⟩) b (List.mem_flatten.mpr ⟨run, hrun, hb⟩)
  removal run hrun := by
    have hne := (hruns run hrun).1
    obtain ⟨first, hfirst⟩ := Option.isSome_iff_exists.mp (List.isSome_head?.mpr hne)
    obtain ⟨last, hlast⟩ := Option.isSome_iff_exists.mp (List.getLast?_isSome.mpr hne)
    obtain ⟨r, hr, hspan, hcount⟩ := hremoval run first last hfirst hlast
    exact ⟨r, hr, Removal.isOf_of_between ((List.pairwise_flatten.mp hordered).1 run hrun) hfirst
      hlast hspan hcount⟩

/-- The row of things that are put in runs by what adjoins what. -/
def ofSplitBy {d : Document} {α : Type} (l : List α) (adjoins : α → α → Bool) (span : α → Span)
    (size : α → Nat) (removal? : List α → Option Removal)
    (hsolid : ∀ a ∈ l, d.IsSolid (span a))
    (hordered : l.Pairwise fun a b => (span a).stop ≤ (span b).start)
    (hblank : ∀ a ∈ l, ∀ b ∈ l, adjoins a b = true →
      (d.text.slice (span a).stop (span b).start).isBlankText = true)
    (hremoval : ∀ (run : List α) (first last : α), run.head? = some first →
      run.getLast? = some last → ∃ r, removal? run = some r ∧
        r.span = .between (span first).start (span last).stop ∧ r.count = total (run.map size)) :
    Row d α :=
  ofRuns (l.splitBy adjoins) adjoins span size removal?
    (fun _ hrun => ⟨List.ne_nil_of_mem_splitBy hrun, List.isChain_of_mem_splitBy hrun⟩)
    (by rwa [List.flatten_splitBy]) (by rwa [List.flatten_splitBy])
    (by rwa [List.flatten_splitBy]) hremoval

variable {d : Document} {α : Type} (w : Row d α) {run : List α} {r : Removal} {a : α} {s : Span}

/-- The removals of the runs. -/
def removals : List Removal :=
  w.runs.filterMap w.removal?

theorem mem_removals_iff :
    r ∈ w.removals ↔ ∃ run ∈ w.runs, w.removal? run = some r ∧ r.IsOf w.span w.size run := by
  constructor
  · intro h
    obtain ⟨run, hrun, hr⟩ := List.mem_filterMap.mp h
    obtain ⟨r', hr', hof⟩ := w.removal run hrun
    obtain rfl := Option.some.inj (hr.symm.trans hr')
    exact ⟨run, hrun, hr, hof⟩
  · rintro ⟨run, hrun, hr, -⟩
    exact List.mem_filterMap.mpr ⟨run, hrun, hr⟩

theorem ordered_runs :
    (∀ run ∈ w.runs, run.Pairwise fun a b => (w.span a).stop ≤ (w.span b).start) ∧
      w.runs.Pairwise fun g h => ∀ a ∈ g, ∀ b ∈ h, (w.span a).stop ≤ (w.span b).start :=
  List.pairwise_flatten.mp w.ordered

variable {w}

theorem solid_of_mem (hrun : run ∈ w.runs) (ha : a ∈ run) : d.IsSolid (w.span a) :=
  w.solid a (List.mem_flatten.mpr ⟨run, hrun, ha⟩)

/-- A thing of a row overlaps itself and no other. -/
theorem overlaps_iff_eq (ha : a ∈ w.runs.flatten) :
    ∀ b ∈ w.runs.flatten, (w.span b).overlaps (w.span a) = true ↔ b = a := by
  intro b hb
  have hlt := (w.solid a ha).start_lt_stop
  rw [Span.overlaps_iff]
  constructor
  · intro hover
    by_contra hne
    rcases Node.rel_or_rel w.ordered hb ha hne with hle | hle <;> omega
  · rintro rfl
    exact ⟨hlt, hlt⟩

/-! ### One run -/

/-- Whatever is solid and starts in a chain with only blanks between neighbours starts in one of
them. -/
theorem exists_around_of_isChain {span : α → Span} {first : α} {rest : List α} (hs : d.IsSolid s)
    (hchain : (first :: rest).IsChain fun a b =>
      (d.text.slice (span a).stop (span b).start).isBlankText = true)
    (hsolid : ∀ a ∈ first :: rest, d.IsSolid (span a)) (hlo : (span first).start ≤ s.start)
    (hhi : ∃ last ∈ (first :: rest).getLast?, s.start < (span last).stop) :
    ∃ a ∈ first :: rest, (span a).start ≤ s.start ∧ s.start < (span a).stop := by
  induction rest generalizing first with
  | nil =>
    obtain ⟨last, hlast, hlt⟩ := hhi
    obtain rfl : first = last := by simpa using hlast
    exact ⟨first, List.mem_cons_self, hlo, hlt⟩
  | cons second rest ih =>
    obtain ⟨hblank, hchain⟩ := List.isChain_cons_cons.mp hchain
    by_cases hfirst : s.start < (span first).stop
    · exact ⟨first, List.mem_cons_self, hlo, hfirst⟩
    · have hsecond : (span second).start ≤ s.start := by
        by_contra hlt
        have hnot := hs.not_isBlankText (hsolid first List.mem_cons_self).isBoundary_stop
          (hsolid second (by simp)).isBoundary_start (by omega) (by omega)
        rw [hblank] at hnot
        cases hnot
      obtain ⟨a, ha, h⟩ := ih hchain (fun a ha => hsolid a (List.mem_cons_of_mem _ ha)) hsecond
        (by simpa using hhi)
      exact ⟨a, List.mem_cons_of_mem _ ha, h⟩

section
variable (hrun : run ∈ w.runs) (hr : r.IsOf w.span w.size run)
include hrun hr

theorem contains_of_mem (ha : a ∈ run) : r.span.contains (w.span a) = true :=
  hr.contains (w.ordered_runs.1 run hrun) ha

theorem isBoundary_of_isOf :
    d.text.isBoundary r.span.start = true ∧ d.text.isBoundary r.span.stop = true := by
  obtain ⟨first, hfirst, hstart⟩ := hr.first
  obtain ⟨last, hlast, hstop⟩ := hr.last
  rw [hstart, hstop]
  exact ⟨(solid_of_mem hrun (List.mem_of_mem_head? hfirst)).isBoundary_start,
    (solid_of_mem hrun (List.mem_of_mem_getLast? hlast)).isBoundary_stop⟩

/-- Whatever is solid and starts within a removal starts in a thing of its run: only blanks stand
between two. -/
theorem exists_around (hs : d.IsSolid s) (hlo : r.span.start ≤ s.start)
    (hhi : s.start < r.span.stop) :
    ∃ a ∈ run, (w.span a).start ≤ s.start ∧ s.start < (w.span a).stop := by
  obtain ⟨first, hfirst, hstart⟩ := hr.first
  obtain ⟨last, hlast, hstop⟩ := hr.last
  obtain ⟨rest, rfl⟩ := List.head?_eq_some_iff.mp hfirst
  exact exists_around_of_isChain hs (w.blank _ hrun) (fun a ha => solid_of_mem hrun ha)
    (hstart ▸ hlo) ⟨last, hlast, hstop ▸ hhi⟩

/-- Whatever is solid and overlaps a removal overlaps a thing of its run. -/
theorem exists_overlapping (hs : d.IsSolid s) (h : r.span.overlaps s = true) :
    ∃ a ∈ run, (w.span a).overlaps s = true := by
  have hlt := hs.start_lt_stop
  rw [Span.overlaps_iff] at h
  by_cases hlo : r.span.start ≤ s.start
  · obtain ⟨a, ha, hstart, hstop⟩ := exists_around hrun hr hs hlo h.2
    exact ⟨a, ha, Span.overlaps_iff.mpr ⟨by omega, hstop⟩⟩
  · obtain ⟨first, hfirst, hstart⟩ := hr.first
    have hmem : first ∈ run := List.mem_of_mem_head? hfirst
    have hsolid := (solid_of_mem hrun hmem).start_lt_stop
    exact ⟨first, hmem, Span.overlaps_iff.mpr ⟨by omega, by omega⟩⟩

end

/-! ### The row of removals -/

variable (w) in
theorem pairwise_removals : w.removals.Pairwise fun a b => a.span.stop ≤ b.span.start := by
  refine List.pairwise_filterMap.mpr (w.ordered_runs.2.imp_of_mem ?_)
  intro g h hg hh hrow r hr r' hr'
  obtain ⟨s, hs, hof⟩ := w.removal g hg
  obtain ⟨s', hs', hof'⟩ := w.removal h hh
  obtain rfl := Option.some.inj (hs.symm.trans hr)
  obtain rfl := Option.some.inj (hs'.symm.trans hr')
  obtain ⟨last, hlast, hstop⟩ := hof.last
  obtain ⟨first, hfirst, hstart⟩ := hof'.first
  rw [hstop, hstart]
  exact hrow last (List.mem_of_mem_getLast? hlast) first (List.mem_of_mem_head? hfirst)

variable (w) in
/-- The removals for which something can stand in. -/
def placed : List Removal :=
  w.removals.filter (Draft.isPlaced d)

variable (w) in
/-- **A row is taken out** as far as something can stand in for its runs. -/
theorem hasTaken (stubs : Stubs) :
    (w.removals.foldl (Draft.remove d) { Draft.of d with stubs }).HasTaken d
      (w.placed.map Removal.span) (total (w.placed.map Removal.count)) := by
  have hempty : ({ Draft.of d with stubs } : Draft).HasTaken d [] 0 := ⟨rfl, rfl, rfl⟩
  have hboundary : ∀ r ∈ w.removals,
      d.text.isBoundary r.span.start = true ∧ d.text.isBoundary r.span.stop = true := by
    intro r hr
    obtain ⟨run, hrun, -, hof⟩ := w.mem_removals_iff.mp hr
    exact isBoundary_of_isOf hrun hof
  have h := hempty.foldl_remove (fun r hr => (hboundary r hr).1) (fun r hr => (hboundary r hr).2)
    w.pairwise_removals fun s hs => absurd hs List.not_mem_nil
  rwa [List.nil_append, Nat.zero_add] at h

/-! ### What the edits reach into -/

section
variable {draft : Draft} {n : Nat} (hdraft : draft.HasTaken d (w.placed.map Removal.span) n)
include hdraft

theorem map_editsInto (s : Span) :
    (draft.editsInto s).map Edit.span =
      (w.placed.filter fun r => r.span.overlaps s).map Removal.span := by
  have hfilter : ∀ {β : Type} (f : β → Span) (l : List β),
      (l.filter fun b => (f b).overlaps s).map f = (l.map f).filter (Span.overlaps · s) :=
    fun f l => by rw [List.filter_map]; rfl
  rw [Draft.editsInto, hfilter, hfilter, hdraft.spans]

/-- Where nothing of a row reaches into a solid span, no edit does. -/
theorem editsInto_eq_nil (hs : d.IsSolid s)
    (hfree : ∀ a ∈ w.runs.flatten, (w.span a).overlaps s = false) : draft.editsInto s = [] := by
  have hnone : (w.placed.filter fun r => r.span.overlaps s) = [] := by
    refine List.filter_eq_nil_iff.mpr fun r hr h => ?_
    obtain ⟨run, hrun, -, hof⟩ := w.mem_removals_iff.mp (List.mem_filter.mp hr).1
    obtain ⟨a, ha, hover⟩ := exists_overlapping hrun hof hs h
    rw [hfree a (List.mem_flatten.mpr ⟨run, hrun, ha⟩)] at hover
    cases hover
  have h := map_editsInto hdraft s
  rw [hnone] at h
  exact List.map_eq_nil_iff.mp h

/-- Where just one thing of a row reaches into a solid span, the edit for its run does, if there is
one, and no other. -/
theorem editsInto_eq (hrun : run ∈ w.runs) (hr : w.removal? run = some r) (ha : a ∈ run)
    (hs : d.IsSolid s)
    (halone : ∀ b ∈ w.runs.flatten, (w.span b).overlaps s = true ↔ b = a) :
    (Draft.isPlaced d r = true ∧ ∃ e, draft.editsInto s = [e] ∧ e.span = r.span) ∨
      Draft.isPlaced d r = false ∧ draft.editsInto s = [] := by
  obtain ⟨r', hr', hof⟩ := w.removal run hrun
  obtain rfl := Option.some.inj (hr.symm.trans hr')
  have hmem : r ∈ w.removals := w.mem_removals_iff.mpr ⟨run, hrun, hr, hof⟩
  have hflat : a ∈ w.runs.flatten := List.mem_flatten.mpr ⟨run, hrun, ha⟩
  have hsolid := (w.solid a hflat).start_lt_stop
  have hcontains := Span.contains_iff.mp (contains_of_mem hrun hof ha)
  have hreach : ∀ r' ∈ w.removals, r'.span.overlaps s = true ↔ r' = r := by
    intro r' hmem'
    constructor
    · intro hover
      obtain ⟨run', hrun', -, hof'⟩ := w.mem_removals_iff.mp hmem'
      obtain ⟨b, hb, hover⟩ := exists_overlapping hrun' hof' hs hover
      obtain rfl := (halone b (List.mem_flatten.mpr ⟨run', hrun', hb⟩)).mp hover
      have hcontains' := Span.contains_iff.mp (contains_of_mem hrun' hof' hb)
      by_contra hne
      rcases Node.rel_or_rel w.pairwise_removals hmem' hmem hne with hle | hle <;> omega
    · rintro rfl
      have hover := Span.overlaps_iff.mp ((halone a hflat).mpr rfl)
      exact Span.overlaps_iff.mpr ⟨by omega, by omega⟩
  have hirrefl : ¬ r.span.stop ≤ r.span.start := by omega
  have hall : (w.removals.filter fun r' => r'.span.overlaps s) = [r] :=
    filter_eq_singleton w.pairwise_removals hirrefl hmem hreach
  have hplaced : (w.placed.filter fun r' => r'.span.overlaps s) =
      [r].filter (Draft.isPlaced d) := by
    rw [← hall, placed, List.filter_filter, List.filter_filter]
    exact List.filter_congr fun _ _ => Bool.and_comm _ _
  have hover := map_editsInto hdraft s
  rw [hplaced] at hover
  cases h : Draft.isPlaced d r with
  | true =>
    rw [List.filter_cons_of_pos h, List.filter_nil] at hover
    obtain ⟨e, he, hspan⟩ := List.map_eq_singleton_iff.mp hover
    exact .inl ⟨rfl, e, he, hspan⟩
  | false =>
    rw [List.filter_cons_of_neg (by simp [h]), List.filter_nil] at hover
    exact .inr ⟨rfl, List.map_eq_nil_iff.mp hover⟩

theorem isEmpty_editsInto (hrun : run ∈ w.runs) (hr : w.removal? run = some r) (ha : a ∈ run)
    (hs : d.IsSolid s) (halone : ∀ b ∈ w.runs.flatten, (w.span b).overlaps s = true ↔ b = a) :
    (draft.editsInto s).isEmpty = !Draft.isPlaced d r := by
  rcases editsInto_eq hdraft hrun hr ha hs halone with ⟨hplaced, e, he, -⟩ | ⟨hplaced, he⟩ <;>
    rw [he, hplaced] <;> rfl

/-- Edits reach into a thing of a row just if they reach into a span that it alone reaches into. -/
theorem isEmpty_editsInto_eq (ha : a ∈ w.runs.flatten) (hs : d.IsSolid s)
    (halone : ∀ b ∈ w.runs.flatten, (w.span b).overlaps s = true ↔ b = a) :
    (draft.editsInto s).isEmpty = (draft.editsInto (w.span a)).isEmpty := by
  obtain ⟨run, hrun, hmem⟩ := List.mem_flatten.mp ha
  obtain ⟨r, hr, -⟩ := w.removal run hrun
  rw [isEmpty_editsInto hdraft hrun hr hmem hs halone,
    isEmpty_editsInto hdraft hrun hr hmem (w.solid a ha) (overlaps_iff_eq ha)]

/-- **The removals count what the edits reach into.** -/
theorem total_count_eq :
    total (w.placed.map Removal.count) =
      total
        ((w.runs.flatten.filter fun a => !(draft.editsInto (w.span a)).isEmpty).map w.size) := by
  have hruns : ∀ run ∈ w.runs, ∃ r, w.removal? run = some r ∧
      r.count = total (run.map w.size) ∧
      ∀ a ∈ run, (!(draft.editsInto (w.span a)).isEmpty) = Draft.isPlaced d r := by
    intro run hrun
    obtain ⟨r, hr, hof⟩ := w.removal run hrun
    refine ⟨r, hr, hof.count, fun a ha => ?_⟩
    have hflat : a ∈ w.runs.flatten := List.mem_flatten.mpr ⟨run, hrun, ha⟩
    rw [isEmpty_editsInto hdraft hrun hr ha (w.solid a hflat) (overlaps_iff_eq hflat), Bool.not_not]
  show total (((w.runs.filterMap w.removal?).filter (Draft.isPlaced d)).map Removal.count) = _
  generalize w.runs = runs at hruns
  induction runs with
  | nil => rfl
  | cons run rest ih =>
    obtain ⟨r, hr, hcount, hover⟩ := hruns run List.mem_cons_self
    have hrest := ih fun run' hrun' => hruns run' (List.mem_cons_of_mem _ hrun')
    rw [List.filterMap_cons_some hr, List.flatten_cons, List.filter_append, List.map_append,
      total_append, ← hrest, List.filter_congr hover]
    cases h : Draft.isPlaced d r <;> simp [h, hcount]

section
variable (hplaced : ∀ r ∈ w.removals, Draft.isPlaced d r = true)
include hplaced

/-- Where something can stand in for all runs, edits reach wherever a thing of the row does. -/
theorem editsInto_ne_nil (ha : a ∈ w.runs.flatten) (hover : (w.span a).overlaps s = true) :
    draft.editsInto s ≠ [] := by
  intro hnil
  obtain ⟨run, hrun, hmem⟩ := List.mem_flatten.mp ha
  obtain ⟨r, hr, hof⟩ := w.removal run hrun
  have hremoval : r ∈ w.removals := w.mem_removals_iff.mpr ⟨run, hrun, hr, hof⟩
  have hcontains := Span.contains_iff.mp (contains_of_mem hrun hof hmem)
  have hreach : r ∈ w.placed.filter fun r => r.span.overlaps s := by
    rw [Span.overlaps_iff] at hover
    exact List.mem_filter.mpr ⟨List.mem_filter.mpr ⟨hremoval, hplaced r hremoval⟩,
      Span.overlaps_iff.mpr ⟨by omega, by omega⟩⟩
  have hspans := map_editsInto hdraft s
  rw [hnil, List.map_nil, eq_comm, List.map_eq_nil_iff] at hspans
  exact absurd hreach (hspans ▸ List.not_mem_nil)

/-- Where something can stand in for all runs, the removals count all things of the row. -/
theorem total_count_of_placed :
    total (w.placed.map Removal.count) = total (w.runs.flatten.map w.size) := by
  rw [total_count_eq hdraft, List.filter_eq_self.mpr fun a ha => ?_]
  simpa using editsInto_ne_nil hdraft hplaced ha ((overlaps_iff_eq ha a ha).mpr rfl)

end

end

end Row

end Abridge
