import Abridge.Document

/-!
What queries find: nodes of the document, in the order of their starts. A deeper indent is blank as
the one it is made from.
-/
namespace Abridge.Document

theorem isBlankText_deeper (d : Document) {outer : Text} (h : outer.isBlankText = true) :
    (d.deeper outer).isBlankText = true := by
  unfold deeper
  refine List.all_append.trans ?_
  rw [show outer.all Text.isBlank = true from h]
  split <;> rfl

/-- The nodes of a document, each before its children. -/
def nodes (d : Document) : List Node :=
  d.root :: d.root.descendants

section DropRepeats
variable {α : Type} {repeats : α → α → Bool}

theorem dropRepeats_go_sublist (kept : α) (l : List α) :
    (dropRepeats.go repeats kept l).Sublist (kept :: l) := by
  induction l generalizing kept with
  | nil => exact List.Sublist.refl _
  | cons a rest ih =>
    rw [dropRepeats.go]
    split
    · exact (ih kept).trans ((List.sublist_cons_self a rest).cons_cons kept)
    · exact (ih a).cons_cons kept

/-- Dropping repeats takes elements away and moves none. -/
theorem dropRepeats_sublist (l : List α) : (dropRepeats repeats l).Sublist l := by
  cases l with
  | nil => exact List.Sublist.refl _
  | cons a rest => exact dropRepeats_go_sublist a rest

section
variable {l : List α} (heq : ∀ a ∈ l, ∀ b ∈ l, repeats a b = true → a = b)
include heq

/-- Where only equals repeat each other, nothing gets lost. -/
theorem mem_dropRepeats_iff {a : α} : a ∈ dropRepeats repeats l ↔ a ∈ l := by
  refine ⟨fun h => (dropRepeats_sublist l).subset h, fun h => ?_⟩
  cases l with
  | nil => cases h
  | cons kept rest =>
    show a ∈ dropRepeats.go repeats kept rest
    induction rest generalizing kept with
    | nil => exact h
    | cons b rest ih =>
      have htail : ∀ x ∈ b :: rest, ∀ y ∈ b :: rest, repeats x y = true → x = y :=
        fun x hx y hy => heq x (List.mem_cons_of_mem kept hx) y (List.mem_cons_of_mem kept hy)
      rw [dropRepeats.go]
      split
      next hrepeats =>
        obtain rfl := heq kept List.mem_cons_self b (by simp) hrepeats
        exact ih kept htail (by simpa using h)
      · rcases List.mem_cons.mp h with rfl | h
        · exact List.mem_cons_self
        · exact List.mem_cons_of_mem kept (ih b htail h)

/-- What is in order but for repeats is in order without them. -/
theorem pairwise_dropRepeats {R : α → α → Prop} (htrans : ∀ {a b c}, R a b → R b c → R a c)
    (h : l.Pairwise fun a b => repeats a b = true ∨ R a b) :
    (dropRepeats repeats l).Pairwise R := by
  cases l with
  | nil => exact List.Pairwise.nil
  | cons kept rest =>
    show (dropRepeats.go repeats kept rest).Pairwise R
    induction rest generalizing kept with
    | nil => exact List.pairwise_singleton _ _
    | cons a rest ih =>
      have htail : ∀ x ∈ a :: rest, ∀ y ∈ a :: rest, repeats x y = true → x = y :=
        fun x hx y hy => heq x (List.mem_cons_of_mem kept hx) y (List.mem_cons_of_mem kept hy)
      obtain ⟨hkept, hrest⟩ := List.pairwise_cons.mp h
      rw [dropRepeats.go]
      split
      next hrepeats =>
        obtain rfl := heq kept List.mem_cons_self a (by simp) hrepeats
        exact ih kept htail hrest
      next hne =>
        have hahead : R kept a := (hkept a List.mem_cons_self).resolve_left hne
        refine List.pairwise_cons.mpr ⟨fun b hb => ?_, ih a htail hrest⟩
        rcases List.mem_cons.mp ((dropRepeats_go_sublist a rest).subset hb) with rfl | hb
        · exact hahead
        · rcases (List.pairwise_cons.mp hrest).1 b hb with hrepeats | hbehind
          · exact htail a List.mem_cons_self b (List.mem_cons_of_mem a hb) hrepeats ▸ hahead
          · exact htrans hahead hbehind

end

end DropRepeats

namespace Capture

theorem precedes_iff {a b : Capture} :
    precedes a b = true ↔
      a.node.start < b.node.start ∨ a.node.start = b.node.start ∧ b.node.stop ≤ a.node.stop := by
  simp [precedes]

theorem precedes_total (a b : Capture) : (precedes a b || precedes b a) = true := by
  simp only [Bool.or_eq_true, precedes_iff]
  omega

theorem precedes_trans (a b c : Capture) (hab : precedes a b = true) (hbc : precedes b c = true) :
    precedes a c = true := by
  rw [precedes_iff] at *
  omega

end Capture

variable {d : Document} {name label : String}

/-- What selectors find comes in the order of its starts. -/
theorem capturesOf_pairwise (d : Document) (selectors : List Selector) :
    (d.capturesOf selectors).Pairwise fun a b => a.node.start ≤ b.node.start := by
  refine List.Pairwise.sublist (dropRepeats_sublist _) ?_
  refine (List.pairwise_mergeSort Capture.precedes_trans Capture.precedes_total _).imp fun h => ?_
  rw [Capture.precedes_iff] at h
  omega

theorem query_pairwise {captures : List Capture} (h : d.query name = .ok captures) :
    captures.Pairwise fun a b => a.node.start ≤ b.node.start := by
  unfold query at h
  split at h
  next query _ => exact Except.ok.inj h ▸ capturesOf_pairwise d query.selectors
  · cases h

theorem queryNodes_pairwise {found : List Node} (h : d.queryNodes name label = .ok found) :
    found.Pairwise fun a b => a.start ≤ b.start := by
  unfold queryNodes at h
  cases hcaptures : d.query name with
  | error e =>
    rw [hcaptures] at h
    cases h
  | ok captures =>
    rw [hcaptures] at h
    obtain rfl := Except.ok.inj h
    exact List.pairwise_map.mpr ((query_pairwise hcaptures).sublist List.filter_sublist)

/-- What selectors find, node by node, before it is put in order. -/
def selected (d : Document) (selectors : List Selector) : List Capture :=
  d.nodes.flatMap fun n => selectors.flatMap (select n)

/-- The nodes that selectors find under one name, in the order of the walk. -/
def scan (d : Document) (selectors : List Selector) (label : String) : List Node :=
  ((dropRepeats Capture.repeats (d.selected selectors)).filter (·.label == label)).map (·.node)

/-- Where the walk comes by what is found in order, a query need not sort it. -/
theorem query_eq_selected {q : Query} (hquery : d.grammar.query? name = some q)
    (h : (d.selected q.selectors).Pairwise fun a b => Capture.precedes a b = true) :
    d.query name = .ok (dropRepeats Capture.repeats (d.selected q.selectors)) := by
  have hsorted : d.capturesOf q.selectors =
      dropRepeats Capture.repeats (d.selected q.selectors) :=
    congrArg _ (List.mergeSort_of_pairwise h)
  unfold query
  rw [hquery]
  exact congrArg Except.ok hsorted

theorem queryNodes_eq_scan {q : Query} (hquery : d.grammar.query? name = some q)
    (h : (d.selected q.selectors).Pairwise fun a b => Capture.precedes a b = true) :
    d.queryNodes name label = .ok (d.scan q.selectors label) := by
  unfold queryNodes
  rw [query_eq_selected hquery h]
  rfl

/-- What selectors find was selected at a node of the document. -/
theorem exists_of_mem_capturesOf {selectors : List Selector} {capture : Capture}
    (h : capture ∈ d.capturesOf selectors) :
    ∃ n ∈ d.nodes, ∃ s ∈ selectors, capture ∈ select n s := by
  have h' := List.mem_mergeSort.mp ((dropRepeats_sublist _).subset h)
  obtain ⟨n, hn, h'⟩ := List.mem_flatMap.mp h'
  obtain ⟨s, hs, h'⟩ := List.mem_flatMap.mp h'
  exact ⟨n, hn, s, hs, h'⟩

/-- A query for kinds of nodes finds named nodes of the document of these kinds. -/
theorem mem_nodes_of_mem_kindQuery {kinds : List String} {capture : Capture}
    (h : capture ∈ d.capturesOf (Grammar.kindQuery name label kinds).selectors) :
    capture.node ∈ d.nodes ∧ capture.node.isNamed = true ∧ capture.node.kind ∈ kinds := by
  obtain ⟨n, hn, s, hs, hcapture⟩ := exists_of_mem_capturesOf h
  obtain ⟨kind, hkind, rfl⟩ := List.mem_map.mp hs
  rw [select] at hcapture
  split at hcapture
  next hcond =>
    obtain rfl := List.mem_singleton.mp hcapture
    rw [Bool.and_eq_true, beq_iff_eq] at hcond
    exact ⟨hn, hcond.1, hcond.2 ▸ hkind⟩
  · cases hcapture

/-- The comments of a document are nodes of it that have the role of one. -/
theorem mem_nodes_of_comment {comments : List Node}
    (h : d.queryNodes "comments" "comment" = .ok comments) {n : Node} (hn : n ∈ comments) :
    n ∈ d.nodes ∧ d.hasRole n .comment = true := by
  have hquery : ∀ l : Language, ∃ kinds, l.grammar.query? "comments" =
      some (Grammar.kindQuery "comments" "comment" kinds) ∧
        ∀ kind ∈ kinds, l.grammar.hasRole kind .comment = true := by
    intro l
    cases l <;> exact ⟨_, rfl, by decide⟩
  obtain ⟨kinds, hkinds, hrole⟩ := hquery d.language
  have hcaptures : d.query "comments" =
      .ok (d.capturesOf (Grammar.kindQuery "comments" "comment" kinds).selectors) := by
    unfold query
    rw [show d.grammar.query? "comments" = _ from hkinds]
  unfold queryNodes at h
  rw [hcaptures] at h
  obtain rfl := Except.ok.inj h
  obtain ⟨capture, hcapture, rfl⟩ := List.mem_map.mp hn
  obtain ⟨hnode, -, hkind⟩ := mem_nodes_of_mem_kindQuery (List.mem_filter.mp hcapture).1
  exact ⟨hnode, hrole _ hkind⟩

end Abridge.Document
