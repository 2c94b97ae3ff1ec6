import Abridge.Proofs.Profile.Places
import Abridge.Proofs.Reduction.Removals
import Abridge.Proofs.Reduction.Run
import Abridge.Proofs.Reduction.Steps

/-!
The nodes at which reductions begin their edits.

A reduction takes out what its query captured, what goes with that, or statements of it. So its
edits begin where these nodes do, but for the elided part of an indented body, which begins a line
of its own (`Reduction.Drafts.keeps`). Only what can be seen is asked of the nodes, and of no other
node of the document.
-/
namespace Abridge

/-- Whether something that can be seen stands at an offset. -/
def Document.ShowsAt (d : Document) (offset : Nat) : Prop :=
  ((d.text.after offset).head?.any fun c => !Text.isBlank c) = true

/-- Whether an edit begins where something can be seen, or with a new line. -/
def Edit.IsApparent (d : Document) (e : Edit) : Prop :=
  d.ShowsAt e.span.start ∨ e.text.head? = some '\n'

/-- What holds of all edits of the steps holds of the edits of a draft. -/
theorem Draft.IsWritten.keeps {d : Document} {profile : Profile} {draft : Draft}
    {Removes : Removal → Prop} {Offers : Edit → String → Nat → Prop}
    (h : draft.IsWritten d profile Removes Offers) {P : Edit → Prop}
    (hremoves : ∀ r, Removes r → ∀ text, P ⟨r.span, text⟩)
    (hoffers : ∀ e key n, Offers e key n → P e) : draft.Keeps d profile P := by
  induction h with
  | empty => exact keeps_of d profile P
  | plan _ removed ih => exact ih.withStubs (Stubs.isOf_plan profile removed)
  | remove _ hr ih =>
    rcases Draft.remove_cases (d := d) ih.stubs _ with heq | ⟨stubs, _, _, hstubs, -, -, heq⟩ <;>
      rw [heq]
    · exact ih
    · exact (ih.withStubs hstubs).replace _ _ (hremoves _ hr _)
  | replace _ he ih => exact ih.replace _ _ (hoffers _ _ _ he)

theorem Draft.IsWritten.source_and_isSound {d : Document} {profile : Profile} {draft : Draft}
    {Removes : Removal → Prop} {Offers : Edit → String → Nat → Prop}
    (h : draft.IsWritten d profile Removes Offers) :
    draft.queue.source = d.text ∧ draft.queue.IsSound := by
  have hkeeps := h.keeps (P := fun _ => True) (fun _ _ _ => trivial) fun _ _ _ _ => trivial
  exact ⟨hkeeps.source, hkeeps.sound⟩

/-! ### Imports -/

namespace Import

/-- The nodes that may be taken out for imports: their units and the groups of these. -/
def captured (profile : Profile) (imports : List Node) : List Node :=
  let units := unitsOf profile imports
  units ++ units.filterMap profile.groupOf?

theorem node_mem_captured {external : List Pattern} {job : Job} {imports : List Node}
    {piece : Piece} (h : piece ∈ gone external job imports) :
    piece.node ∈ captured job.profile imports := by
  obtain ⟨m, hm, rfl⟩ := exists_mark_of_mem_pieces h
  have hunit : m.node ∈ unitsOf job.profile imports := by
    have hnode := List.mem_map_of_mem (f := Mark.node) hm
    rwa [map_node_marks] at hnode
  unfold pieceFor
  split
  · exact List.mem_append_left _ hunit
  next group hgroup =>
    simp only
    split
    · exact List.mem_append_right _ (List.mem_filterMap.mpr ⟨m.node, hunit, hgroup⟩)
    · exact List.mem_append_left _ hunit

theorem IsRemoval.exists_captured {external : List Pattern} {job : Job} {imports : List Node}
    {r : Removal} (h : IsRemoval external job imports r) :
    ∃ n ∈ captured job.profile imports, r.span.start = n.start := by
  obtain ⟨run, hrun, hr⟩ := h
  unfold removalOf? at hr
  split at hr
  next first _ hfirst _ =>
    obtain rfl := Option.some.inj hr
    have hgone := mem_of_mem_splitBy hrun (List.mem_of_mem_head? hfirst)
    exact ⟨first.node, node_mem_captured hgone, rfl⟩
  · cases hr

end Import

/-! ### Comments -/

namespace Comment
variable {rules : Rules} {job : Job} {comments : List Node}

/-- The comments, the docstrings and the statements of these. -/
def captured (profile : Profile) (d : Document) (comments : List Node) : List Node :=
  let docstrings := profile.docstrings d
  comments ++ docstrings ++ docstrings.filterMap Node.parent?

/-- What goes for a docstring is its parent. -/
theorem parent?_of_judgeDocstring {profile : Profile} {d : Document} {string statement : Node}
    (h : judgeDocstring profile d rules string = .remove statement) :
    string.parent? = some statement := by
  unfold judgeDocstring at h
  split at h
  · cases h
  next parent hparent =>
    split at h
    · cases h
    · split at h
      · cases h
      · exact DocstringFate.remove.inj h ▸ hparent
      · split at h
        · cases h
        · split at h
          · cases h
          · exact DocstringFate.remove.inj h ▸ hparent
          · cases h

theorem IsTreated.exists_captured {segment : List Verdict} {first last : Verdict}
    (h : IsTreated rules job comments segment first last) :
    ∃ n ∈ comments, first.item = Item.of job.document n := by
  obtain ⟨n, hn, hitem, -⟩ := exists_of_mem_segment h.mem first (List.mem_of_mem_head? h.head)
  exact ⟨n, (List.mem_filter.mp hn).1, hitem⟩

theorem IsRemoval.exists_captured {r : Removal} (h : IsRemoval rules job comments r) :
    ∃ n ∈ captured job.profile job.document comments, r.span.start = n.start := by
  cases h with
  | segment h =>
    obtain ⟨n, hn, hitem⟩ := h.exists_captured
    exact ⟨n, List.mem_append_left _ (List.mem_append_left _ hn), by rw [removalOf, hitem]; rfl⟩
  | @docstring string statement hstring hjudged =>
    have hparent := parent?_of_judgeDocstring hjudged
    exact ⟨statement, List.mem_append_right _ (List.mem_filterMap.mpr ⟨string, hstring, hparent⟩),
      rfl⟩

theorem IsShortening.exists_captured {e : Edit} {key : String} {n : Nat}
    (h : IsShortening rules job comments e key n) :
    ∃ n ∈ captured job.profile job.document comments, e.span.start = n.start := by
  cases h with
  | segment h text =>
    obtain ⟨n, hn, hitem⟩ := h.exists_captured
    exact ⟨n, List.mem_append_left _ (List.mem_append_left _ hn),
      by simp only [removalOf, hitem]; rfl⟩
  | @docstring string text hstring hjudged =>
    exact ⟨string, List.mem_append_left _ (List.mem_append_right _ hstring), rfl⟩

end Comment

/-! ### Function bodies -/

namespace Body
variable {job : Job} {bodies : List Node}

/-- The bodies and their statements. -/
def captured (bodies : List Node) : List Node :=
  bodies ++ bodies.flatMap statements

theorem IsExcess.exists_captured {r : Removal} (h : IsExcess job bodies r) :
    ∃ n ∈ captured bodies, r.span.start = n.start := by
  cases h with
  | @mk body max r hbody _ hexcess =>
    unfold excess? at hexcess
    simp only at hexcess
    split at hexcess
    · cases hexcess
    · split at hexcess
      next first _ hfirst _ =>
        obtain rfl := Option.some.inj hexcess
        have hstatement : first ∈ statements body :=
          List.mem_of_mem_drop (List.mem_of_mem_head? hfirst)
        exact ⟨first, List.mem_append_right _ (List.mem_flatMap.mpr ⟨body, hbody.1, hstatement⟩),
          rfl⟩
      · cases hexcess

theorem IsElision.exists_captured_or_head {e : Edit} {key : String} {n : Nat}
    (h : IsElision job bodies e key n) :
    (∃ n ∈ captured bodies, e.span.start = n.start) ∨ e.text.head? = some '\n' := by
  cases h with
  | @mk body standing e noun key hbody _ hedit =>
    have hwhole : body ∈ captured bodies := List.mem_append_left _ hbody.1
    rcases hedit with rfl | hedit
    · exact .inl ⟨body, hwhole, rfl⟩
    · unfold elideIndented? at hedit
      simp only at hedit
      split at hedit
      · exact .inl ⟨body, hwhole, by obtain rfl := Option.some.inj hedit; rfl⟩
      · split at hedit
        · exact .inl ⟨body, hwhole, by obtain rfl := Option.some.inj hedit; rfl⟩
        · split at hedit
          · cases hedit
          · obtain rfl := Option.some.inj hedit
            exact .inr rfl

end Body

/-! ### The public surface -/

namespace Declaration

/-- The nodes at which what does not belong to the surface begins. -/
def captured (job : Job) : List Node :=
  let hidden := outermostHidden (job.profile.declarations job.document)
  job.document.nodes.filter fun n => hidden.any fun e => e.span.start == n.start

theorem mem_of_mem_outermostHidden {ds : List Declaration} {e : Declaration}
    (h : e ∈ outermostHidden ds) : e ∈ ds :=
  (List.mem_filter.mp (List.mem_mergeSort.mp ((Document.dropRepeats_sublist _).subset h))).1

theorem IsGroupRemoval.exists_captured {d : Document} {config : Config} {count : Counter}
    {r : Removal} (h : IsGroupRemoval (d.job config count) r) :
    ∃ n ∈ captured (d.job config count), r.span.start = n.start := by
  obtain ⟨group, hgroup, hr⟩ := h
  unfold removalOf? at hr
  split at hr
  next first _ hfirst _ =>
    obtain rfl := Option.some.inj hr
    have hhidden := mem_of_mem_splitBy hgroup (List.mem_of_mem_head? hfirst)
    obtain ⟨n, hn, heq⟩ :=
      (d.language.isPlaced_of_mem first (mem_of_mem_outermostHidden hhidden)).exists_start
    exact ⟨n, List.mem_filter.mpr ⟨hn, List.any_eq_true.mpr ⟨first, hhidden, beq_iff_eq.mpr heq⟩⟩,
      heq⟩
  · cases hr

end Declaration

/-! ### Drafts -/

namespace Reduction

/-- The draft that a reduction with placeholders writes in a job, and the nodes that it may begin
at. -/
inductive Drafts (job : Job) : Reduction → List Node → Draft → Prop
  | imports {external : List Pattern} {found : List Node}
      (hexternal : compilePatterns job.config.imports.externalPatterns = .ok external)
      (hfound : job.document.queryNodes "imports" "import" = .ok found) :
      Drafts job .imports (Import.captured job.profile found) (Import.draft external job found)
  | comments {rules : Comment.Rules} {found : List Node} (hrules : rules.IsRead job)
      (hfound : job.document.queryNodes "comments" "comment" = .ok found) :
      Drafts job .comments (Comment.captured job.profile job.document found)
        (Comment.draft rules job found)
  | functionBodies {exemptions : Body.Exemptions} {found : List Node}
      (hexemptions : exemptions.IsRead job)
      (hfound : job.document.queryNodes "functions" "body" = .ok found) :
      Drafts job .functionBodies (Body.captured found) (Body.draft exemptions job found)
  | publicSurface :
      Drafts job .publicSurface (Declaration.captured job) (Declaration.draft job)

/-- The reductions that put placeholders in the place of what they take out. -/
def replacing : List Reduction :=
  [.imports, .comments, .functionBodies, .publicSurface]

theorem exists_drafts_of_run {r : Reduction} (hr : r ∈ replacing) {job : Job} {o : Outcome}
    (h : r.run job = .ok o) : ∃ captured draft, r.Drafts job captured draft ∧ o = draft.finish := by
  simp only [replacing, List.mem_cons, List.not_mem_nil, or_false] at hr
  rcases hr with rfl | rfl | rfl | rfl
  · obtain ⟨external, found, hexternal, hfound, rfl⟩ := exists_draft_of_imports h
    exact ⟨_, _, .imports hexternal hfound, rfl⟩
  · obtain ⟨rules, found, hrules, hfound, rfl⟩ := exists_draft_of_comments h
    exact ⟨_, _, .comments hrules hfound, rfl⟩
  · obtain ⟨exemptions, found, hexemptions, hfound, rfl⟩ := exists_draft_of_functionBodies h
    exact ⟨_, _, .functionBodies hexemptions hfound, rfl⟩
  · obtain rfl := draft_of_publicSurface h
    exact ⟨_, _, .publicSurface, rfl⟩

/-- A run comes to the draft of its reduction. -/
theorem Drafts.run_eq {r : Reduction} {job : Job} {captured : List Node} {draft : Draft}
    (h : r.Drafts job captured draft) : r.run job = .ok draft.finish := by
  cases h with
  | imports hexternal hfound =>
    rw [run_of_prepare (prepare_imports hexternal), Import.reduce, Job.queryNodes, hfound]
    rfl
  | @comments rules found hrules hfound =>
    obtain ⟨options, keep, strip, count⟩ := rules
    obtain ⟨rfl, hkeep, hstrip, rfl⟩ := hrules
    rw [run_of_prepare (prepare_comments hkeep hstrip), Comment.reduce, Job.queryNodes, hfound]
    rfl
  | functionBodies hexemptions hfound =>
    rw [run_of_prepare (prepare_functionBodies hexemptions.names hexemptions.annotations),
      Body.reduce, Job.queryNodes, hfound]
    rfl
  | publicSurface => rfl

/-- The drafts of a reduction are those that its runs come from. -/
theorem run_eq_ok_iff {r : Reduction} (hr : r ∈ replacing) {job : Job} {o : Outcome} :
    r.run job = .ok o ↔ ∃ captured draft, r.Drafts job captured draft ∧ o = draft.finish := by
  refine ⟨exists_drafts_of_run hr, ?_⟩
  rintro ⟨captured, draft, hdraft, rfl⟩
  exact hdraft.run_eq

/-- Where the captured nodes can be seen, so can the places at which edits begin. -/
theorem Drafts.keeps {r : Reduction} {d : Document} {config : Config} {count : Counter}
    {captured : List Node} {draft : Draft} (h : r.Drafts (d.job config count) captured draft)
    (hcaptured : ∀ n ∈ captured, d.ShowsAt n.start) :
    draft.Keeps d d.language.profile (Edit.IsApparent d) := by
  have happarent : ∀ e : Edit, (∃ n ∈ captured, e.span.start = n.start) → e.IsApparent d := by
    rintro e ⟨n, hn, heq⟩
    exact .inl (heq ▸ hcaptured n hn)
  let job := d.job config count
  cases h with
  | @imports external found =>
    exact (Import.draft_isWritten external job found).keeps (P := Edit.IsApparent d)
      (fun _ hr _ => happarent _ hr.exists_captured) fun _ _ _ => False.elim
  | @comments rules found =>
    exact (Comment.draft_isWritten rules job found).keeps (P := Edit.IsApparent d)
      (fun _ hr _ => happarent _ hr.exists_captured)
      fun _ _ _ he => happarent _ he.exists_captured
  | @functionBodies exemptions found =>
    exact (Body.draft_isWritten exemptions job found).keeps (P := Edit.IsApparent d)
      (fun _ hr _ => happarent _ hr.exists_captured)
      fun e _ _ he => he.exists_captured_or_head.elim (happarent e) .inr
  | publicSurface =>
    exact (Declaration.draft_isWritten job).keeps (P := Edit.IsApparent d)
      (fun _ hr _ => happarent _ hr.exists_captured) fun _ _ _ => False.elim

end Reduction

end Abridge
