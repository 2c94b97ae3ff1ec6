import Abridge.Proofs.Edit.Splice
import Abridge.Proofs.Reduction.Captured
import Abridge.Proofs.Tree.Laminar

/-!
Bodies of exempted functions.

The draft is what it would be if the bodies of exempted functions had not been found
(`draft_eq_filter`), so every edit takes out whole parts of a body that is not exempt (`IsPiece`).
Such an edit lies beside the body of an exempted function or holds all of it, unless the edited body
lies inside of that one (`IsPiece.cases`): functions in the body of an exempted function are asked
for themselves. Where all of these are exempt too, what no edit holds stands in the result as it was
(`exempt_bodies_change_inside`).
-/
namespace Abridge

/-! ### Spliced around a stretch -/

/-- Whether a span lies in front of a stretch or behind it. -/
def Span.Beside (s : Span) (start stop : Nat) : Prop :=
  s.stop ≤ start ∨ stop ≤ s.start

namespace EditQueue

/-- What lies beside all edits of a row is copied, between what the edits in front and those behind
give. -/
theorem exists_splice_append {source : Text} {cursor start stop : Nat} {edits : List Edit}
    (hc : source.isBoundary cursor = true) (hrow : InRow source cursor edits)
    (hstart : source.isBoundary start = true) (hstop : source.isBoundary stop = true)
    (hcursor : cursor ≤ start) (hle : start ≤ stop)
    (hbeside : ∀ e ∈ edits, e.span.Beside start stop) :
    ∃ pre post, edits = pre ++ post ∧
      splice source cursor edits =
        splice (source.before start) cursor pre ++ source.slice start stop ++
          splice source stop post := by
  have hcopied : ∀ {cursor : Nat} {edits : List Edit}, source.isBoundary cursor = true →
      cursor ≤ start → InRow source stop edits →
      splice source cursor edits =
        splice (source.before start) cursor [] ++ source.slice start stop ++
          splice source stop edits := fun hc hcursor hrow => by
    rw [splice_eq_slice_append hc hstop (Nat.le_trans hcursor hle) hrow, splice,
      Text.after_before hc hstart hcursor, Text.slice_append_slice hc hstart hstop hcursor hle]
  induction edits generalizing cursor with
  | nil => exact ⟨[], [], rfl, hcopied hc hcursor trivial⟩
  | cons e edits ih =>
    obtain ⟨hcursorEdit, hstartEdit, hstopEdit, hrest⟩ := hrow
    obtain ⟨hedit, hedits⟩ := List.forall_mem_cons.mp hbeside
    rcases hedit with hfront | hback
    · obtain ⟨pre, post, rfl, heq⟩ := ih hstopEdit hrest hfront hedits
      refine ⟨e :: pre, post, rfl, ?_⟩
      have hgap := Text.slice_before hc hstartEdit hstart hcursorEdit
        (Nat.le_trans e.span.start_le_stop hfront)
      rw [splice_cons hcursorEdit, splice_cons hcursorEdit, heq, hgap]
      simp only [List.append_assoc]
    · exact ⟨[], e :: edits, rfl, hcopied hc hcursor ⟨hback, hstartEdit, hstopEdit, hrest⟩⟩

/-- A queue without edits changes nothing. -/
theorem getD_edited? (q : EditQueue) : q.edited?.getD q.source = q.apply := by
  unfold edited?
  split
  next hempty =>
    have hnil : q.edits = [] := List.isEmpty_iff.mp hempty
    have horder : q.inOrder = [] := List.Perm.eq_nil (hnil ▸ q.inOrder_perm)
    rw [apply, horder, splice, Text.after_zero]
    rfl
  · rfl

end EditQueue

/-! ### Bodies that are passed over -/

namespace Body

/-- Whether a body belongs to an exempted function. -/
def Exemptions.spares (e : Exemptions) (profile : Profile) (d : Document) (body : Node) : Bool :=
  body.parent?.any (e.exempts profile d)

theorem treat_of_spares {c : Context} {draft : Draft} {body : Node}
    (h : c.exemptions.spares c.job.profile c.job.document body = true) :
    treat c draft body = draft := by
  unfold treat
  simp only
  split
  · rfl
  next function hparent =>
    rw [Exemptions.spares, hparent, Option.any_some] at h
    rw [h, Bool.or_true, if_pos rfl]

/-- Bodies of exempted functions are passed over. -/
theorem draft_eq_filter (exemptions : Exemptions) (job : Job) (bodies : List Node) :
    draft exemptions job bodies =
      draft exemptions job
        (bodies.filter fun body => !exemptions.spares job.profile job.document body) := by
  unfold draft
  simp only
  rw [List.foldl_filter]
  congr 1
  funext draft body
  split
  · rfl
  next h => exact treat_of_spares (by simpa using h)

/-! ### Parts of bodies -/

/-- Whether a span is made up of children of a node and what stands between them: each child lies
beside it or in it. -/
structure Parts (n : Node) (s : Span) : Prop where
  within : n.span.contains s = true
  whole : ∀ c ∈ n.children, s.Beside c.start c.stop ∨ s.contains c.span = true

/-- Whether a node is a body, or the list in a body that holds its statements. -/
def IsHolder (n body : Node) : Prop :=
  n = body ∨ n ∈ body.children ∧ n.kind = "statement_list"

/-- Whether a span takes whole parts out of a body. -/
def IsPiece (body : Node) (s : Span) : Prop :=
  ∃ n, IsHolder n body ∧ Parts n s

theorem parts_between {n : Node} {start stop : Nat} (hstart : n.start ≤ start) (hle : start ≤ stop)
    (hstop : stop ≤ n.stop)
    (hwhole : ∀ c ∈ n.children,
      c.stop ≤ start ∨ stop ≤ c.start ∨ start ≤ c.start ∧ c.stop ≤ stop) :
    Parts n (.between start stop) := by
  have hmax : (Span.between start stop).stop = stop := Nat.max_eq_left hle
  refine ⟨Span.contains_iff.mpr ⟨hstart, hmax.le.trans hstop⟩, fun c hc => ?_⟩
  rcases hwhole c hc with hfront | hback | ⟨hstart, hstop⟩
  · exact .inl (.inr hfront)
  · exact .inl (.inl (hmax.le.trans hback))
  · exact .inr (Span.contains_iff.mpr ⟨hstart, hstop.trans hmax.ge⟩)

section Nested
variable {d : Document} (hd : d.IsNested) {n : Node} (hn : n ∈ d.nodes)
include hd hn

theorem parts_span : Parts n n.span where
  within := Span.contains_iff.mpr ⟨Nat.le_refl _, Nat.le_refl _⟩
  whole c hc := .inr (hd.nested n hn c hc)

theorem start_le_stop_of_mem_children {c : Node} (hc : c ∈ n.children) : c.start ≤ c.stop :=
  (hd.stretch c (Document.mem_nodes_of_mem_children hn hc)).start_le_stop

/-- Of two children of a node, the one in front stops before the other starts. -/
theorem children_eq_or {a c : Node} (ha : a ∈ n.children) (hc : c ∈ n.children) :
    c = a ∨ c.stop ≤ a.start ∨ a.stop ≤ c.start := by
  by_cases heq : c = a
  · exact .inl heq
  · exact .inr (Node.rel_or_rel (hd.children_pairwise hn) hc ha heq)

/-- All that stands behind a child. -/
theorem parts_behind {a : Node} (ha : a ∈ n.children) : Parts n (.between a.stop n.stop) := by
  have hspan := hd.span_le hn ha
  have hwidth := start_le_stop_of_mem_children hd hn ha
  refine parts_between (hspan.1.trans hwidth) hspan.2 (Nat.le_refl _) fun c hc => ?_
  have hstop := (hd.span_le hn hc).2
  rcases children_eq_or hd hn ha hc with rfl | hfront | hback
  · exact .inl (Nat.le_refl _)
  · exact .inl (hfront.trans hwidth)
  · exact .inr (.inr ⟨hback, hstop⟩)

/-- All from the first to the last of some children in order. -/
theorem parts_through {kept : List Node} (hsome : kept.Sublist n.children) {a b : Node}
    (ha : kept.head? = some a) (hb : kept.getLast? = some b) :
    Parts n (.between a.start b.stop) := by
  have hle : a = b ∨ a.stop ≤ b.start := by
    obtain ⟨rest, rfl⟩ := List.head?_eq_some_iff.mp ha
    have hpairwise := List.pairwise_cons.mp ((hd.children_pairwise hn).sublist hsome)
    rcases List.mem_cons.mp (List.mem_of_mem_getLast? hb) with rfl | hmem
    · exact .inl rfl
    · exact .inr (hpairwise.1 b hmem)
  have ha := hsome.subset (List.mem_of_mem_head? ha)
  have hb := hsome.subset (List.mem_of_mem_getLast? hb)
  have hwidthA := start_le_stop_of_mem_children hd hn ha
  have hwidthB := start_le_stop_of_mem_children hd hn hb
  have hordered : a.start ≤ b.stop := by
    rcases hle with rfl | hle <;> omega
  refine parts_between (hd.span_le hn ha).1 hordered (hd.span_le hn hb).2 fun c hc => ?_
  have hwidth := start_le_stop_of_mem_children hd hn hc
  rcases children_eq_or hd hn ha hc with rfl | hfront | hback
  · rcases children_eq_or hd hn hb ha with rfl | hfront | hback <;> omega
  · exact .inl hfront
  · rcases children_eq_or hd hn hb hc with rfl | hfront | hback <;> omega

end Nested

/-- The statements of a body are children of the body or of the list in it, in order. -/
theorem exists_statements_sublist (body : Node) :
    ∃ n, IsHolder n body ∧ (statements body).Sublist n.children := by
  have hall : ∀ n : Node, n.statements.Sublist n.children := fun n =>
    List.filter_sublist.trans List.filter_sublist
  unfold statements
  split
  next list heq =>
    have hlist : list ∈ body.children := (hall body).subset (heq ▸ List.mem_singleton_self list)
    split
    next hkind => exact ⟨list, .inr ⟨hlist, beq_iff_eq.mp hkind⟩, hall list⟩
    · exact ⟨body, .inl rfl, heq ▸ hall body⟩
  · exact ⟨body, .inl rfl, hall body⟩

section Edits
variable {d : Document} {n body : Node} (hbody : body ∈ d.nodes)
include hbody

theorem IsHolder.mem_nodes (h : IsHolder n body) : n ∈ d.nodes := by
  rcases h with rfl | ⟨hn, -⟩
  · exact hbody
  · exact Document.mem_nodes_of_mem_children hbody hn

variable (hd : d.IsNested)
include hd

theorem IsHolder.span_le (h : IsHolder n body) : body.start ≤ n.start ∧ n.stop ≤ body.stop := by
  rcases h with rfl | ⟨hn, -⟩
  · exact ⟨Nat.le_refl _, Nat.le_refl _⟩
  · exact hd.span_le hbody hn

theorem isPiece_of_elideIndented? {docstrings : List Node} {noun : Text} {e : Edit}
    (h : elideIndented? d docstrings body noun = some e) : IsPiece body e.span := by
  have hwhole : IsPiece body body.span := ⟨body, .inl rfl, parts_span hd hbody⟩
  unfold elideIndented? at h
  simp only at h
  split at h
  · obtain rfl := Option.some.inj h
    exact hwhole
  next first rest hstatements =>
    have hfirst : first ∈ body.children :=
      (List.filter_sublist.trans List.filter_sublist).subset
        (hstatements ▸ List.mem_cons_self : first ∈ body.statements)
    split at h
    · obtain rfl := Option.some.inj h
      exact hwhole
    · split at h
      · cases h
      · obtain rfl := Option.some.inj h
        exact ⟨body, .inl rfl, parts_behind hd hbody hfirst⟩

theorem isPiece_of_excess? {count : Counter} {max : Nat} {r : Removal}
    (h : excess? d count body max = some r) : IsPiece body r.span := by
  obtain ⟨n, hn, hsublist⟩ := exists_statements_sublist body
  unfold excess? at h
  simp only at h
  split at h
  · cases h
  · split at h
    next first last hfirst hlast =>
      obtain rfl := Option.some.inj h
      exact ⟨n, hn, parts_through hd (hn.mem_nodes hbody) ((List.drop_sublist _ _).trans hsublist)
        hfirst hlast⟩
    · cases h

end Edits

/-! ### Pieces and other bodies -/

/-- What lies within one of two nodes that are apart lies beside the other. -/
theorem Parts.beside {n m : Node} {s : Span} (h : Parts n s)
    (hapart : n.stop ≤ m.start ∨ m.stop ≤ n.start) : s.Beside m.start m.stop := by
  obtain ⟨hstart, hstop⟩ := Span.contains_iff.mp h.within
  exact hapart.imp hstop.trans fun h => h.trans hstart

/-- What is made up of children of a node lies beside a node below it, or holds it. -/
theorem Parts.beside_or_contains {d : Document} (hd : d.IsNested) {n m : Node} (hn : n ∈ d.nodes)
    (hm : m ∈ d.nodes) {s : Span} (h : Parts n s) (hencloses : n.encloses m = true) :
    s.Beside m.start m.stop ∨ s.contains m.span = true := by
  obtain ⟨c, hc, -, hstart, hstop⟩ := hd.exists_child_of_encloses hn hm hencloses
  rcases h.whole c hc with (hfront | hback) | hcontains
  · exact .inl (.inl (hfront.trans hstart))
  · exact .inl (.inr (hstop.trans hback))
  · have hspan := Span.contains_iff.mp hcontains
    exact .inr (Span.contains_iff.mpr ⟨hspan.1.trans hstart, hstop.trans hspan.2⟩)

theorem IsHolder.holds {n body : Node} (h : IsHolder n body) : body.Holds n := by
  rcases h with rfl | ⟨hn, -⟩
  · exact Node.Holds.refl n
  · exact Node.holds_of_encloses (Node.encloses_of_mem_children hn)

/-- What holds the statements of a body and is not their list holds the body. -/
theorem IsHolder.holds_of_holds {n m body : Node} (h : IsHolder n body) (hm : m.Holds n)
    (hne : m.path ≠ n.path) : m.Holds body := by
  rcases h with rfl | ⟨hn, -⟩
  · exact hm
  · obtain ⟨pre, post, hsplit⟩ := List.append_of_mem hn
    have hpath := Node.path_eq hsplit
    rw [Node.Holds, hpath, List.suffix_cons_iff] at hm
    exact hm.resolve_left fun heq => hne (heq.trans hpath.symm)

/-- A piece of one body lies beside another body or holds it, unless it is a piece of a body inside
the other one. -/
theorem IsPiece.cases {d : Document} (hd : d.IsNested) {body other : Node} {s : Span}
    (h : IsPiece other s) (hother : other ∈ d.nodes) (hbody : body ∈ d.nodes)
    (hkind : body.kind ≠ "statement_list") (hne : body ≠ other) :
    other.span.contains s = true ∧
      (s.Beside body.start body.stop ∨
        other.encloses body = true ∧ s.contains body.span = true ∨
        body.encloses other = true) := by
  obtain ⟨n, hn, hparts⟩ := h
  have hnodes := hn.mem_nodes hother
  have hdiffers : n.path ≠ body.path := fun heq => by
    obtain rfl := Document.eq_of_path_eq hnodes hbody heq
    rcases hn with rfl | ⟨-, hlist⟩
    · exact hne rfl
    · exact hkind hlist
  constructor
  · have hspan := hn.span_le hother hd
    have hwithin := Span.contains_iff.mp hparts.within
    exact Span.contains_iff.mpr ⟨hspan.1.trans hwithin.1, hwithin.2.trans hspan.2⟩
  rcases hd.holds_or_stop_le hnodes hbody with (hnb | hbn) | hapart
  · have hencloses : n.encloses body = true := Node.encloses_iff.mpr ⟨hnb, hdiffers⟩
    rcases hparts.beside_or_contains hd hnodes hbody hencloses with hbeside | hcontains
    · exact .inl hbeside
    · exact .inr (.inl ⟨Node.encloses_of_holds_of_encloses hn.holds hencloses, hcontains⟩)
  · refine .inr (.inr (Node.encloses_iff.mpr
      ⟨hn.holds_of_holds hbn hdiffers.symm, fun heq => ?_⟩))
    exact hne (Document.eq_of_path_eq hbody hother heq)
  · exact .inl (hparts.beside hapart)

/-! ### Exempted bodies -/

/-- No body is a list of statements. -/
theorem kind_ne_of_mem_bodies {d : Document} {bodies : List Node}
    (h : d.queryNodes "functions" "body" = .ok bodies) {body : Node} (hbody : body ∈ bodies) :
    body.kind ≠ "statement_list" := by
  have hquery : ∀ l : Language, ∃ kinds, l.grammar.query? "functions" =
      some (Grammar.functionQuery kinds) ∧ ∀ kind ∈ kinds, kind.2 ≠ "statement_list" := by
    intro l
    cases l <;> exact ⟨_, rfl, by decide⟩
  obtain ⟨kinds, hkinds, hother⟩ := hquery d.language
  have hcaptures : d.query "functions" =
      .ok (d.capturesOf (Grammar.functionQuery kinds).selectors) := by
    unfold Document.query
    rw [show d.grammar.query? "functions" = _ from hkinds]
  unfold Document.queryNodes at h
  rw [hcaptures] at h
  obtain rfl := Except.ok.inj h
  obtain ⟨capture, hcapture, rfl⟩ := List.mem_map.mp hbody
  obtain ⟨hmem, hlabel⟩ := List.mem_filter.mp hcapture
  obtain ⟨n, -, selector, hselector, hselect⟩ := Document.exists_of_mem_capturesOf hmem
  obtain ⟨kind, hkind, rfl⟩ := List.mem_map.mp hselector
  rw [Document.select] at hselect
  split at hselect
  · obtain ⟨c, hc, hselect⟩ := List.mem_flatMap.mp hselect
    rcases List.mem_cons.mp hselect with rfl | hselect
    · exact absurd hlabel (show ¬ ("function" == "body") = true by decide)
    · obtain rfl : capture = ⟨c, "body"⟩ := by simpa using hselect
      have hnamed := And.right (List.mem_filter.mp hc)
      rw [Bool.and_eq_true, beq_iff_eq] at hnamed
      exact fun heq => hother kind hkind (hnamed.2.symm.trans heq)
  · cases hselect

section Draft
variable {d : Document} (hd : d.IsNested) {config : Config} {count : Counter} {bodies : List Node}
include hd

/-- Every edit takes out a piece of a body that is not exempt. -/
theorem draft_keeps_pieces (exemptions : Exemptions)
    (hbodies : ∀ body ∈ bodies, body ∈ d.nodes) :
    (draft exemptions (d.job config count) bodies).Keeps d d.language.profile fun e =>
      ∃ other ∈ bodies, exemptions.spares d.language.profile d other = false ∧
        IsPiece other e.span := by
  have hwritten := draft_isWritten exemptions (d.job config count)
    (bodies.filter fun body => !exemptions.spares d.language.profile d body)
  have hopen : ∀ {other : Node}, IsOpen (bodies.filter fun body =>
      !exemptions.spares d.language.profile d body) other →
      other ∈ bodies ∧ exemptions.spares d.language.profile d other = false := fun h => by
    obtain ⟨hmem, hspares⟩ := List.mem_filter.mp h.1
    exact ⟨hmem, by simpa using hspares⟩
  rw [draft_eq_filter]
  refine hwritten.keeps (fun r hr text => ?removed) fun e key n he => ?elided
  case removed =>
    cases hr with
    | mk hbody _ hexcess =>
      obtain ⟨hmem, hspares⟩ := hopen hbody
      exact ⟨_, hmem, hspares, isPiece_of_excess? (hbodies _ hmem) hd hexcess⟩
  case elided =>
    cases he with
    | mk noun key hbody _ hedit =>
      obtain ⟨hmem, hspares⟩ := hopen hbody
      refine ⟨_, hmem, hspares, ?_⟩
      rcases hedit with rfl | hedit
      · exact ⟨_, .inl rfl, parts_span hd (hbodies _ hmem)⟩
      · exact isPiece_of_elideIndented? (hbodies _ hmem) hd hedit

/-- An edit lies within the body of a function that is not exempt. It lies beside the body of an
exempted function, or around it with the other function, or the other function is inside of it. -/
theorem edit_cases {exemptions : Exemptions} (hfound : d.queryNodes "functions" "body" = .ok bodies)
    {body : Node} (hbody : body ∈ bodies)
    (hspares : exemptions.spares d.language.profile d body = true) {e : Edit}
    (he : e ∈ (draft exemptions (d.job config count) bodies).queue.edits) :
    ∃ other ∈ bodies, exemptions.spares d.language.profile d other = false ∧
      other.span.contains e.span = true ∧
      (e.span.Beside body.start body.stop ∨
        other.encloses body = true ∧ e.span.contains body.span = true ∨
        body.encloses other = true) := by
  have hnodes : ∀ body ∈ bodies, body ∈ d.nodes := fun body hbody =>
    Document.mem_nodes_of_queryNodes hfound hbody
  obtain ⟨other, hother, hopen, hpiece⟩ := (draft_keeps_pieces hd exemptions hnodes).edits e he
  have hne : body ≠ other := by
    rintro rfl
    rw [hspares] at hopen
    cases hopen
  exact ⟨other, hother, hopen, hpiece.cases hd (hnodes other hother) (hnodes body hbody)
    (kind_ne_of_mem_bodies hfound hbody) hne⟩

/-- A body beside all edits stands in the result as it was. -/
theorem draft_spliced_around {exemptions : Exemptions} (hbodies : ∀ body ∈ bodies, body ∈ d.nodes)
    {body : Node} (hbody : body ∈ bodies)
    (hbeside : ∀ e ∈ (draft exemptions (d.job config count) bodies).queue.edits,
      e.span.Beside body.start body.stop) :
    let queue := (draft exemptions (d.job config count) bodies).queue
    ∃ pre post, queue.inOrder = pre ++ post ∧
      queue.edited?.getD d.text =
        EditQueue.splice (d.text.before body.start) 0 pre ++ d.textOf body ++
          EditQueue.splice d.text body.stop post := by
  intro queue
  have hkeeps := @draft_keeps_pieces d hd config count bodies exemptions hbodies
  have hstretch := hd.stretch body (hbodies body hbody)
  have hrow := hkeeps.sound.inRow
  rw [hkeeps.source] at hrow
  obtain ⟨pre, post, horder, heq⟩ := EditQueue.exists_splice_append (Text.isBoundary_zero d.text)
    hrow hstretch.isBoundary_start hstretch.isBoundary_stop (Nat.zero_le _)
    hstretch.start_le_stop fun e he => hbeside e (EditQueue.mem_inOrder.mp he)
  have htext := queue.getD_edited?
  rw [EditQueue.apply, hkeeps.source, heq] at htext
  exact ⟨pre, post, horder, htext⟩

end Draft

end Body

namespace Reduction
open Body

/-- **The body of an exempted function changes only where a function inside of it is not exempt.**
Every edit lies within the body of a function that is not exempt. It lies beside the body of an
exempted function, or it holds this body and the other function is around it, or the other function
is inside of it. So where all functions inside are exempt as well, either an edit for a function
around it holds the body, or it stands in the result as it was, between what the edits in front and
those behind give. -/
theorem exempt_bodies_change_inside {d : Document} (hd : d.IsNested) {config : Config}
    {count : Counter} {o : Outcome} (h : functionBodies.run (d.job config count) = .ok o) :
    ∃ exemptions bodies, Exemptions.IsRead exemptions (d.job config count) ∧
      d.queryNodes "functions" "body" = .ok bodies ∧
      let spares := exemptions.spares d.language.profile d
      let queue := (Body.draft exemptions (d.job config count) bodies).queue
      o.text = queue.edited? ∧
      ∀ body ∈ bodies, spares body = true →
        (∀ e ∈ queue.edits, ∃ other ∈ bodies, spares other = false ∧
          other.span.contains e.span = true ∧
          (e.span.Beside body.start body.stop ∨
            other.encloses body = true ∧ e.span.contains body.span = true ∨
            body.encloses other = true)) ∧
        ((∀ other ∈ bodies, body.encloses other = true → spares other = true) →
          (∃ e ∈ queue.edits, ∃ other ∈ bodies, spares other = false ∧
            other.encloses body = true ∧ other.span.contains e.span = true ∧
            e.span.contains body.span = true) ∨
          ∃ pre post, queue.inOrder = pre ++ post ∧
            o.text.getD d.text =
              EditQueue.splice (d.text.before body.start) 0 pre ++ d.textOf body ++
                EditQueue.splice d.text body.stop post) := by
  obtain ⟨exemptions, bodies, hread, hfound, rfl⟩ := exists_draft_of_functionBodies h
  have hnodes : ∀ body ∈ bodies, body ∈ d.nodes := fun body hbody =>
    Document.mem_nodes_of_queryNodes hfound hbody
  refine ⟨exemptions, bodies, hread, hfound, rfl, fun body hbody hspares =>
    ⟨fun e he => edit_cases hd hfound hbody hspares he, fun hinside => ?_⟩⟩
  refine Classical.or_iff_not_imp_left.mpr fun hheld =>
    draft_spliced_around hd hnodes hbody fun e he => ?_
  obtain ⟨other, hother, hopen, hwithin, hbeside | ⟨hencloses, hcontains⟩ | hencloses⟩ :=
    edit_cases hd hfound hbody hspares he
  · exact hbeside
  · exact absurd ⟨e, he, other, hother, hopen, hencloses, hwithin, hcontains⟩ hheld
  · rw [hinside other hother hencloses] at hopen
    cases hopen

/-- A file in Rust with a function inside of another and one behind it. -/
def innerFunction : Document :=
  .ofTree .rust
    ("fn main() \x7b\n    fn inner() \x7b\n        1\n    \x7d\n\x7d\n" ++
      "fn other() \x7b\n    2\n\x7d\n").toList <|
    .named "source_file" 0 68 [
      .named "function_item" 0 46 [
        .token "fn" 0 2,
        .inField "name" (.named "identifier" 3 7 []),
        .inField "parameters" (.named "parameters" 7 9 [.token "(" 7 8, .token ")" 8 9]),
        .inField "body" (.named "block" 10 46 [
          .token "\x7b" 10 11,
          .named "function_item" 16 44 [
            .token "fn" 16 18,
            .inField "name" (.named "identifier" 19 24 []),
            .inField "parameters" (.named "parameters" 24 26 [.token "(" 24 25, .token ")" 25 26]),
            .inField "body" (.named "block" 27 44 [
              .token "\x7b" 27 28,
              .named "integer_literal" 37 38 [],
              .token "\x7d" 43 44])],
          .token "\x7d" 45 46])],
      .named "function_item" 47 67 [
        .token "fn" 47 49,
        .inField "name" (.named "identifier" 50 55 []),
        .inField "parameters" (.named "parameters" 55 57 [.token "(" 55 56, .token ")" 56 57]),
        .inField "body" (.named "block" 58 67 [
          .token "\x7b" 58 59,
          .named "integer_literal" 64 65 [],
          .token "\x7d" 66 67])]]

namespace innerFunction

theorem isNested : innerFunction.IsNested :=
  (Document.isWellFormed_iff.mp (by decide +kernel)).isNested

/-- All bodies of more than one line go, but for those of functions with some names. -/
def keeping (names : List String) : Config where
  functionBodies := { mode := .all, exceptPatterns := names }

def exempting (names : List String) : Exemptions where
  names := (compilePatterns names).toOption.getD []
  annotations := []

/-- The bodies in the order in which they begin. -/
def bodies : List Node :=
  innerFunction.scan (Grammar.functionQuery [("function_item", "block")]).selectors "body"

theorem queryNodes_eq : innerFunction.queryNodes "functions" "body" = .ok bodies :=
  Document.queryNodes_eq_scan (q := Grammar.functionQuery [("function_item", "block")]) rfl
    (by decide +kernel)

/-- The body of `main`. -/
def main : Node :=
  bodies.head (by decide +kernel)

theorem main_mem : main ∈ bodies :=
  List.head_mem _

end innerFunction

open innerFunction

/-- With the function inside of it, `main` keeps its body as it was, and the body of the function
behind goes. -/
theorem exempt_bodies_change_inside_kept :
    let job := innerFunction.job (keeping ["^main$", "^inner$"]) Counter.bytes
    innerFunction.IsNested ∧ ∃ o, functionBodies.run job = .ok o ∧
      ∃ pre post, (Body.draft (exempting ["^main$", "^inner$"]) job bodies).queue.inOrder =
          pre ++ post ∧
        o.text.getD innerFunction.text =
          EditQueue.splice (innerFunction.text.before 10) 0 pre ++ innerFunction.textOf main ++
            EditQueue.splice innerFunction.text 46 post := by
  intro job
  have hsome : (functionBodies.run job).toOption.isSome = true := by decide +kernel
  obtain ⟨o, ho⟩ := Option.isSome_iff_exists.mp hsome
  have hrun := eq_ok_of_toOption ho
  refine ⟨isNested, o, hrun, ?_⟩
  obtain ⟨⟨names, annotations⟩, found, hread, hfound, -, hkept⟩ :=
    exempt_bodies_change_inside isNested hrun
  obtain rfl : bodies = found := Except.ok.inj (queryNodes_eq.symm.trans hfound)
  obtain rfl : (exempting ["^main$", "^inner$"]).names = names :=
    Except.ok.inj (Eq.trans (by rfl) hread.names)
  obtain rfl : [] = annotations := Except.ok.inj (Eq.trans (by rfl) hread.annotations)
  have hstart : main.start = 10 := by decide +kernel
  have hstop : main.stop = 46 := by decide +kernel
  have houter : ∀ other ∈ bodies, other.encloses main = false := by decide +kernel
  rcases (hkept main main_mem (by decide +kernel)).2 (by decide +kernel) with
    ⟨e, -, other, hother, -, hencloses, -⟩ | hspliced
  · rw [houter other hother] at hencloses
    cases hencloses
  · rwa [hstart, hstop] at hspliced

/-- The body of `main` is exempt, and the body of the function inside of it goes all the same. -/
theorem exempt_body_loses_inner_body :
    ¬ ∀ (d : Document) (config : Config) (count : Counter) (exemptions : Exemptions)
      (bodies : List Node), d.IsNested → Exemptions.IsRead exemptions (d.job config count) →
      d.queryNodes "functions" "body" = .ok bodies →
      ∀ body ∈ bodies, exemptions.spares d.language.profile d body = true →
        ∀ e ∈ (Body.draft exemptions (d.job config count) bodies).queue.edits,
          e.span.Beside body.start body.stop ∨ e.span.contains body.span = true := by
  intro hkept
  have hedits := hkept innerFunction (keeping ["^main$"]) Counter.bytes (exempting ["^main$"])
    bodies isNested ⟨by rfl, by rfl⟩ queryNodes_eq main main_mem (by decide +kernel)
  have hedit : ∃ e ∈ (Body.draft (exempting ["^main$"])
      (innerFunction.job (keeping ["^main$"]) Counter.bytes) bodies).queue.edits,
      ¬ (e.span.Beside main.start main.stop ∨ e.span.contains main.span = true) := by
    unfold Span.Beside
    decide +kernel
  obtain ⟨e, he, hnot⟩ := hedit
  exact hnot (hedits e he)

end Reduction

end Abridge
