import Abridge.Proofs.Comment.Reach
import Abridge.Proofs.Reduction.Emptied

/-!
Functions and classes that lose their docstring.

First comments go and docstrings are cut short (`shortened`), without a stub: in Python a comment is
replaced by a comment, and what is left of a docstring begins as the docstring did
(`isStubless_shortened`). Then docstrings go. Each is the first statement of its scope
(`exists_scope_of_docstring`), so that a scope loses one statement at most (`eq_docstringRemoval`).
Where that was the only one in a block, just one stub is written into it (`draft_stubsOnce`).
-/
namespace Abridge

namespace StringShape

/-- The opener of a string begins with a quote or with what may stand in front of one. -/
theorem isLeadChar_or_isQuote {text : Text} {start : Nat} {shape : StringShape}
    (h : ofText? text start = some shape) :
    ∃ c ∈ shape.opener.head?, isLeadChar c = true ∨ isQuote c = true := by
  obtain ⟨lead, q, rest, -, hlead, hq, -, hdelimiters, -⟩ := ofText?_eq_some_iff.mp h
  rw [head?_opener hq hdelimiters]
  cases lead with
  | nil => exact ⟨q, rfl, .inr hq⟩
  | cons c lead => exact ⟨c, rfl, .inl (hlead c List.mem_cons_self)⟩

end StringShape

/-! ### Drafts without stubs -/

namespace Draft
variable {d : Document} {draft : Draft}

/-- Whether no block waits for a stub and none is written. -/
structure IsStubless (draft : Draft) : Prop where
  stubs : draft.stubs = {}
  edits : ∀ e ∈ draft.queue.edits, e.text.startsWith Profile.Python.stub = false

theorem isStubless_of (d : Document) : (Draft.of d).IsStubless :=
  ⟨rfl, fun _ h => absurd h List.not_mem_nil⟩

theorem IsStubless.remove (hl : d.language = .python) (h : draft.IsStubless) (r : Removal) :
    (draft.remove d r).IsStubless := by
  have htake : ∀ statement, ({} : Stubs).take statement = (none, {}) := by
    intro statement
    unfold Stubs.take
    split <;> rfl
  refine ⟨?_, fun e he => ?_⟩
  · rw [stubs_remove, h.stubs, htake, ite_self]
  · rw [edits_remove] at he
    rcases List.mem_append.mp he with he | he
    · exact h.edits e he
    · obtain ⟨-, -, comment, hcomment, rfl⟩ := added?_eq_some_iff.mp (Option.mem_toList.mp he)
      rw [h.stubs, htake]
      exact startsWith_placeholder? hl hcomment

theorem IsStubless.replace (h : draft.IsStubless) {text : Text}
    (htext : text.startsWith Profile.Python.stub = false) (span : Span) (key : String) (n : Nat) :
    (draft.replace span text key n).IsStubless := by
  rcases replace_cases draft span text key n with heq | ⟨queue, -, hedits, heq⟩ <;> rw [heq]
  · exact h
  · refine ⟨h.stubs, fun e he => ?_⟩
    rw [hedits] at he
    rcases List.mem_append.mp he with he | he
    · exact h.edits e he
    · exact List.mem_singleton.mp he ▸ htext

end Draft

namespace Comment
variable {d : Document} {rules : Rules} {comments : List Node}

/-- The docstrings of a document with what becomes of them. -/
def judged (rules : Rules) (job : Job) : List (Node × DocstringFate) :=
  (job.profile.docstrings job.document).map fun s =>
    (s, judgeDocstring job.profile job.document rules s)

/-- The draft in which comments are gone or cut short, and docstrings cut short. -/
def shortened (rules : Rules) (job : Job) (comments : List Node) : Draft :=
  (judged rules job).foldl shortenDocstring
    ((segments job.profile job.document rules (touchable job.profile job.document comments)).foldl
      (treatSegment job.document rules) (.of job.document))

/-- The statements of the docstrings that go. -/
def goneDocstrings (rules : Rules) (job : Job) : List Node :=
  (judged rules job).filterMap removedDocstring?

/-- The removal of a docstring. -/
def docstringRemoval (s : Node) : Removal where
  span := s.span
  statement := s
  count := 1
  noun := "comment"

theorem draft_eq_foldl (rules : Rules) (job : Job) (comments : List Node) :
    draft rules job comments =
      ((goneDocstrings rules job).map docstringRemoval).foldl (Draft.remove job.document)
        { shortened rules job comments with
          stubs := Stubs.plan job.profile <|
            (goneDocstrings rules job).map fun s => (s.span, s) } := by
  rw [List.foldl_map]
  rfl

theorem exists_docstring_of_mem_gone {job : Job} {s : Node} (h : s ∈ goneDocstrings rules job) :
    ∃ string ∈ job.profile.docstrings job.document, string.parent? = some s := by
  obtain ⟨entry, hmem, hremoved⟩ := List.mem_filterMap.mp h
  obtain ⟨string, hstring, rfl⟩ := List.mem_map.mp hmem
  refine ⟨string, hstring, ?_⟩
  unfold removedDocstring? at hremoved
  split at hremoved
  next heq =>
    obtain rfl := Option.some.inj hremoved
    exact parent?_of_judgeDocstring heq
  · cases hremoved

/-- The statement of a docstring is the first one of its scope. -/
theorem exists_scope_of_docstring {string s : Node}
    (hstring : string ∈ d.language.profile.docstrings d) (hparent : string.parent? = some s) :
    ∃ scope, d.IsScope scope ∧ s ∈ scope.children ∧ scope.statements.head? = some s := by
  obtain ⟨-, hstringMem, hdocstring⟩ := isDocstring_of_mem hstring
  have hmem := (Document.mem_children_of_parent? hstringMem hparent).1
  simp only [Profile.Python.isDocstring, hparent, Option.any_some, Bool.and_eq_true,
    Option.any_eq_true] at hdocstring
  obtain ⟨-, scope, hscope, hkind, first, hfirst, hsame⟩ := hdocstring
  obtain ⟨hscopes, hchild⟩ := Document.mem_children_of_parent? hmem hscope
  have hfirstChild : first ∈ scope.children :=
    (List.mem_filter.mp (List.mem_filter.mp (List.mem_of_mem_head? hfirst)).1).1
  obtain rfl := Document.eq_of_path_eq (Document.mem_nodes_of_mem_children hscopes hfirstChild)
    hmem (eq_of_beq hsame)
  refine ⟨scope, ⟨hscopes, ?_⟩, hchild, hfirst⟩
  simp only [Bool.or_eq_true, Bool.and_eq_true, beq_iff_eq] at hkind
  exact hkind.imp id And.left

/-- In Python comments go or stay, and are not cut short. -/
theorem isStubless_treatSegment (hl : d.language = .python) {draft : Draft}
    (h : draft.IsStubless) {segment : List Verdict}
    (hsegment : segment ∈ segments d.language.profile d rules comments) :
    (treatSegment d rules draft segment).IsStubless := by
  unfold treatSegment
  split
  next first last hfirst hlast =>
    simp only
    split
    · exact h
    · exact h.remove hl _
    next hfate => exact absurd hl (ne_python_of_truncate hsegment hfirst hfate)
  · exact h

/-- A docstring that is cut short begins as it did. -/
theorem startsWith_shorten (hl : d.language = .python) {string : Node} {text : Text}
    (h : judgeDocstring d.language.profile d rules string = .shorten text) :
    text.startsWith Profile.Python.stub = false := by
  obtain ⟨shape, short, hshape, -, rfl⟩ := exists_of_shorten h
  rw [hl] at hshape
  obtain ⟨c, hc, hkind⟩ := StringShape.isLeadChar_or_isQuote hshape
  obtain ⟨rest, hopener⟩ := List.head?_eq_some_iff.mp hc
  have hdot : c ≠ '.' := by
    rintro rfl
    exact absurd hkind (by decide)
  rw [hopener]
  simp [Text.startsWith, Profile.Python.stub, List.isPrefixOf, hdot.symm]

/-- No stub is written before docstrings go. -/
theorem isStubless_shortened (hl : d.language = .python) (rules : Rules) (config : Config)
    (count : Counter) (comments : List Node) :
    (shortened rules (d.job config count) comments).IsStubless := by
  refine List.foldlRecOn _ _ (List.foldlRecOn _ _ (Draft.isStubless_of d)
    fun draft h segment hsegment => isStubless_treatSegment hl h hsegment)
    fun draft h entry hentry => ?_
  obtain ⟨string, -, rfl⟩ := List.mem_map.mp hentry
  unfold shortenDocstring
  split
  next text htext => exact h.replace (startsWith_shorten hl htext) _ _ _
  · exact h

/-! ### Docstrings that go -/

theorem exists_isFrom_of_mem_gone (hd : d.IsPython) {config : Config} {count : Counter} {s : Node}
    (hs : s ∈ goneDocstrings rules (d.job config count)) :
    ∃ scope, (docstringRemoval s).IsFrom d scope ∧ scope.statements.head? = some s := by
  obtain ⟨string, hstring, hparent⟩ := exists_docstring_of_mem_gone hs
  obtain ⟨scope, hscope, hchild, hhead⟩ := exists_scope_of_docstring hstring hparent
  have hsolid := hd.solid scope hscope s hchild
  exact ⟨scope, ⟨hscope, Node.parent?_of_mem_children hchild,
    ⟨s, hchild, rfl⟩, ⟨s, hchild, rfl⟩, hsolid.start_lt_stop⟩, hhead⟩

/-- A scope loses just its first statement. -/
theorem eq_docstringRemoval (hd : d.IsPython) {config : Config} {count : Counter} {r : Removal}
    (hr : r ∈ (goneDocstrings rules (d.job config count)).map docstringRemoval) {scope : Node}
    (hfrom : r.IsFrom d scope) :
    ∃ s, r = docstringRemoval s ∧ scope.statements.head? = some s := by
  obtain ⟨s, hs, rfl⟩ := List.mem_map.mp hr
  obtain ⟨scope', hfrom', hhead⟩ := exists_isFrom_of_mem_gone hd hs
  obtain rfl := Option.some.inj (hfrom'.parent.symm.trans hfrom.parent)
  exact ⟨s, rfl, hhead⟩

/-- **Where docstrings that go empty blocks of Python, each has just one stub.** -/
theorem draft_stubsOnce (hd : d.IsPython) (rules : Rules) (config : Config) (count : Counter)
    (comments : List Node) :
    ∃ taken, (draft rules (d.job config count) comments).queue.edits =
        (shortened rules (d.job config count) comments).queue.edits ++ taken ∧
      (draft rules (d.job config count) comments).StubsOnce d taken := by
  have hstubless := isStubless_shortened hd.language rules config count comments
  have hsound := (draft_isWritten rules (d.job config count) comments).source_and_isSound.2
  rw [draft_eq_foldl] at hsound ⊢
  refine ⟨_, Draft.edits_foldl_remove _ _ _, ?_⟩
  refine Draft.stubsOnce_foldl_remove hd rfl hstubless.edits hsound (fun r hr => ?_)
    (fun r hr scope hfrom s hs hcontains => ?_)
    fun block w hw hfrom front r back heq hr hplaced hnone => ?_
  · obtain ⟨s, hs, rfl⟩ := List.mem_map.mp hr
    obtain ⟨scope, hscope, -⟩ := exists_isFrom_of_mem_gone hd hs
    exact ⟨scope, hscope⟩
  · obtain ⟨s, hs, rfl⟩ := List.mem_map.mp hr
    exact ⟨_, List.mem_map_of_mem hs, hfrom.parent, hcontains⟩
  · -- The removal that was taken is this one, perhaps further behind.
    obtain rfl : r = w.1 := by
      have hmem : r ∈ (goneDocstrings rules (d.job config count)).map docstringRemoval := by
        rw [heq]
        simp
      obtain ⟨s, hs, hhead⟩ := eq_docstringRemoval hd hmem hr
      obtain ⟨s', hs', hhead'⟩ := eq_docstringRemoval hd (Draft.span_of_mem_written hw).1 hfrom
      rw [hs, hs', Option.some.inj (hhead.symm.trans hhead')]
    obtain ⟨front', back', heq', hadded⟩ := Draft.exists_of_mem_written hw
    refine Draft.isSome_added?_of_not_mem (heq.symm.trans heq') (fun hmem => ?_) ?_
    · have hnot := hnone w.1 hmem hplaced
      rw [(hr.isIn_iff hr.isScope.mem).mpr rfl] at hnot
      cases hnot
    · rw [hadded]
      rfl

end Comment

end Abridge
