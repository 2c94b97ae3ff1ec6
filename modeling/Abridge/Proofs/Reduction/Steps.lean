import Abridge.Body.Reduction
import Abridge.Comment.Reduction
import Abridge.Declaration.Reduction
import Abridge.Import.Reduction
import Mathlib.Data.List.SplitBy

/-!
The steps by which each reduction writes its draft.

A draft grows by removals, by edits that come with a counter, and by plans for stubs
(`Draft.IsWritten`). For each reduction it is said which removals and which edits these are, so that
what every step keeps holds of the whole draft.
-/
namespace Abridge

theorem mem_of_mem_splitBy {α : Type} {r : α → α → Bool} {l run : List α} {a : α}
    (hrun : run ∈ l.splitBy r) (ha : a ∈ run) : a ∈ l := by
  rw [← List.flatten_splitBy r l]
  exact List.mem_flatten.mpr ⟨run, hrun, ha⟩

namespace Draft

/-- Whether a draft was written step by step, by removals and edits of given sorts. -/
inductive IsWritten (d : Document) (profile : Profile) (Removes : Removal → Prop)
    (Offers : Edit → String → Nat → Prop) : Draft → Prop
  | empty : IsWritten d profile Removes Offers (.of d)
  | plan {draft : Draft} (h : IsWritten d profile Removes Offers draft)
      (removed : List (Span × Node)) :
      IsWritten d profile Removes Offers { draft with stubs := Stubs.plan profile removed }
  | remove {draft : Draft} (h : IsWritten d profile Removes Offers draft) {r : Removal}
      (hr : Removes r) : IsWritten d profile Removes Offers (draft.remove d r)
  | replace {draft : Draft} (h : IsWritten d profile Removes Offers draft) {span : Span}
      {text : Text} {key : String} {n : Nat} (he : Offers ⟨span, text⟩ key n) :
      IsWritten d profile Removes Offers (draft.replace span text key n)

theorem IsWritten.foldl_remove {d : Document} {profile : Profile} {Removes : Removal → Prop}
    {Offers : Edit → String → Nat → Prop} {draft : Draft}
    (h : draft.IsWritten d profile Removes Offers) {removals : List Removal}
    (hremoves : ∀ r ∈ removals, Removes r) :
    (removals.foldl (Draft.remove d) draft).IsWritten d profile Removes Offers :=
  List.foldlRecOn removals (Draft.remove d) h fun _ hdraft r hr => hdraft.remove (hremoves r hr)

end Draft

/-! ### Imports -/

namespace Import

/-- What goes of the imports of a document. -/
def gone (external : List Pattern) (job : Job) (imports : List Node) : List Piece :=
  pieces job.profile <|
    marks job.profile job.document job.config.imports external (unitsOf job.profile imports)

/-- Whatever goes, goes for one of the imports. -/
theorem exists_mark_of_mem_pieces {profile : Profile} {all : List Mark} {piece : Piece}
    (h : piece ∈ pieces profile all) : ∃ m ∈ all, piece = (pieceFor profile all m).1 := by
  have hrun : ∀ piece ∈ pieces profile all, ∃ m ∈ all, piece = (pieceFor profile all m).1 := by
    refine List.foldlRecOn (motive := fun found : List Piece =>
      ∀ piece ∈ found, ∃ m ∈ all, piece = (pieceFor profile all m).1) _ _
      (fun _ h => absurd h List.not_mem_nil) fun found ih m hm => ?_
    have hm : m ∈ all := (List.mem_filter.mp hm).1
    unfold addPiece
    simp only
    split
    · exact ih
    · intro piece hpiece
      rcases List.mem_append.mp hpiece with hpiece | hpiece
      · exact ih piece hpiece
      · exact ⟨m, hm, List.mem_singleton.mp hpiece⟩
  exact hrun piece h

theorem map_node_markBeyond (limit : Nat) (ms : List Mark) :
    (markBeyond limit ms).map Mark.node = ms.map Mark.node := by
  fun_induction markBeyond limit ms with
  | case1 limit => rfl
  | case2 limit m rest _ ih => rw [List.map_cons, List.map_cons, ih]
  | case3 m rest _ ih => rw [List.map_cons, List.map_cons, ih]
  | case4 m rest limit _ ih => rw [List.map_cons, List.map_cons, ih]

/-- Every import is marked, in the order in which they come. -/
theorem map_node_marks (profile : Profile) (d : Document) (config : ImportConfig)
    (external : List Pattern) (units : List Node) :
    (marks profile d config external units).map Mark.node = units := by
  have hpolicy : (units.map (markByPolicy profile d config external)).map Mark.node = units := by
    rw [List.map_map]
    exact List.map_id' units
  unfold marks
  dsimp only
  split
  · rw [map_node_markBeyond, hpolicy]
  · exact hpolicy

/-- The removal of a run of imports that go. -/
def IsRemoval (external : List Pattern) (job : Job) (imports : List Node) (r : Removal) : Prop :=
  ∃ run ∈ (gone external job imports).splitBy (adjoins job.document),
    removalOf? job.document run = some r

theorem draft_isWritten (external : List Pattern) (job : Job) (imports : List Node) :
    (draft external job imports).IsWritten job.document job.profile
      (IsRemoval external job imports) fun _ _ _ => False :=
  (Draft.IsWritten.empty.plan _).foldl_remove fun _ hr => List.mem_filterMap.mp hr

end Import

/-! ### The public surface -/

namespace Declaration

/-- The removal of a group of hidden declarations. -/
def IsGroupRemoval (job : Job) (r : Removal) : Prop :=
  ∃ group ∈ (outermostHidden (job.profile.declarations job.document)).splitBy
      (adjoins job.document),
    removalOf? group = some r

theorem draft_isWritten (job : Job) :
    (draft job).IsWritten job.document job.profile (IsGroupRemoval job) fun _ _ _ => False :=
  (Draft.IsWritten.empty.plan _).foldl_remove fun _ hr => List.mem_filterMap.mp hr

end Declaration

/-! ### Comments -/

namespace Comment
variable {rules : Rules} {job : Job} {comments : List Node}

/-- A segment of the comments that may be touched, between its ends, which is not kept. -/
structure IsTreated (rules : Rules) (job : Job) (comments : List Node) (segment : List Verdict)
    (first last : Verdict) : Prop where
  mem : segment ∈ segments job.profile job.document rules
    (touchable job.profile job.document comments)
  head : segment.head? = some first
  getLast : segment.getLast? = some last
  fate : first.fate ≠ .keep

/-- The removal of a segment or of a docstring. -/
inductive IsRemoval (rules : Rules) (job : Job) (comments : List Node) : Removal → Prop
  | segment {segment : List Verdict} {first last : Verdict}
      (h : IsTreated rules job comments segment first last) :
      IsRemoval rules job comments (removalOf first.item last.item segment.length)
  | docstring {string statement : Node} (hstring : string ∈ job.profile.docstrings job.document)
      (hjudged : judgeDocstring job.profile job.document rules string = .remove statement) :
      IsRemoval rules job comments ⟨statement.span, statement, 1, "comment"⟩

/-- The short form of a segment or of a docstring. -/
inductive IsShortening (rules : Rules) (job : Job) (comments : List Node) :
    Edit → String → Nat → Prop
  | segment {segment : List Verdict} {first last : Verdict}
      (h : IsTreated rules job comments segment first last) (text : Text) :
      IsShortening rules job comments
        ⟨(removalOf first.item last.item segment.length).span, text⟩ truncatedKey 1
  | docstring {string : Node} {text : Text}
      (hstring : string ∈ job.profile.docstrings job.document)
      (hjudged : judgeDocstring job.profile job.document rules string = .shorten text) :
      IsShortening rules job comments ⟨string.span, text⟩ truncatedKey 1

/-- The groups that comments form. -/
def groups (d : Document) (comments : List Node) : List (List Item) :=
  (comments.map (Item.of d)).splitBy (Item.continues d)

/-- A segment is a stretch of a group, and the fate of its comments is decided there. -/
theorem exists_group_of_mem_segments {profile : Profile} {d : Document} {segment : List Verdict}
    (hsegment : segment ∈ segments profile d rules comments) :
    ∃ group ∈ groups d comments, segment <:+: judge profile d rules group := by
  obtain ⟨group, hgroup, hrun⟩ := List.mem_flatMap.mp hsegment
  refine ⟨group, hgroup, ?_⟩
  rw [← List.flatten_splitBy (fun a b => a.fate == b.fate) (judge profile d rules group)]
  exact List.infix_of_mem_flatten hrun

theorem map_item_judge (profile : Profile) (d : Document) (rules : Rules) (group : List Item) :
    (judge profile d rules group).map Verdict.item = group := by
  rw [judge, List.map_map]
  exact List.map_id' group

theorem exists_of_mem_group {d : Document} {group : List Item} (hgroup : group ∈ groups d comments)
    {item : Item} (hitem : item ∈ group) : ∃ n ∈ comments, item = Item.of d n := by
  obtain ⟨n, hn, heq⟩ := List.mem_map.mp (mem_of_mem_splitBy hgroup hitem)
  exact ⟨n, hn, heq.symm⟩

/-- The comments of a segment are among those that were given, and their fate is what the rules
decide. -/
theorem exists_of_mem_segment {profile : Profile} {d : Document} {segment : List Verdict}
    (hsegment : segment ∈ segments profile d rules comments) :
    ∀ v ∈ segment, ∃ n ∈ comments, v.item = Item.of d n ∧
      ∃ isDoc, v.fate = rules.decide (d.textOf n) isDoc := by
  intro v hv
  obtain ⟨group, hgroup, hrun⟩ := exists_group_of_mem_segments hsegment
  obtain ⟨item, hitem, rfl⟩ := List.mem_map.mp (hrun.subset hv)
  obtain ⟨n, hn, rfl⟩ := exists_of_mem_group hgroup hitem
  exact ⟨n, hn, rfl, _, rfl⟩

theorem treatSegment_cases (d : Document) (rules : Rules) (draft : Draft)
    (segment : List Verdict) :
    treatSegment d rules draft segment = draft ∨
      ∃ first last, segment.head? = some first ∧ segment.getLast? = some last ∧
        first.fate ≠ .keep ∧
        (treatSegment d rules draft segment =
            draft.remove d (removalOf first.item last.item segment.length) ∨
          ∃ text, treatSegment d rules draft segment =
            draft.replace (removalOf first.item last.item segment.length).span text truncatedKey
              1) := by
  unfold treatSegment
  split
  next first last hfirst hlast =>
    simp only
    split
    · exact .inl rfl
    next hfate => exact .inr ⟨first, last, hfirst, hlast, by simp [hfate], .inl rfl⟩
    next hfate =>
      split
      · exact .inl rfl
      · exact .inr ⟨first, last, hfirst, hlast, by simp [hfate], .inl rfl⟩
      · exact .inr ⟨first, last, hfirst, hlast, by simp [hfate], .inr ⟨_, rfl⟩⟩
  · exact .inl rfl

theorem IsWritten.treatSegment {draft : Draft}
    (h : draft.IsWritten job.document job.profile (IsRemoval rules job comments)
      (IsShortening rules job comments)) {segment : List Verdict}
    (hsegment : segment ∈ segments job.profile job.document rules
      (touchable job.profile job.document comments)) :
    (treatSegment job.document rules draft segment).IsWritten job.document job.profile
      (IsRemoval rules job comments) (IsShortening rules job comments) := by
  rcases treatSegment_cases job.document rules draft segment with
    heq | ⟨first, last, hfirst, hlast, hfate, heq | ⟨text, heq⟩⟩ <;> rw [heq]
  · exact h
  · exact h.remove (.segment ⟨hsegment, hfirst, hlast, hfate⟩)
  · exact h.replace (.segment ⟨hsegment, hfirst, hlast, hfate⟩ text)

theorem IsWritten.treatDocstrings {draft : Draft}
    (h : draft.IsWritten job.document job.profile (IsRemoval rules job comments)
      (IsShortening rules job comments)) :
    (treatDocstrings job.profile job.document rules draft).IsWritten job.document job.profile
      (IsRemoval rules job comments) (IsShortening rules job comments) := by
  have hjudged : ∀ judged ∈ (job.profile.docstrings job.document).map fun s =>
      (s, judgeDocstring job.profile job.document rules s),
      judged.1 ∈ job.profile.docstrings job.document ∧
        judgeDocstring job.profile job.document rules judged.1 = judged.2 := by
    intro judged hmem
    obtain ⟨s, hs, rfl⟩ := List.mem_map.mp hmem
    exact ⟨hs, rfl⟩
  refine List.foldlRecOn _ _ (Draft.IsWritten.plan ?_ _) fun draft hdraft statement hmem => ?_
  · refine List.foldlRecOn _ _ h fun draft hdraft judged hmem => ?_
    obtain ⟨hstring, hfate⟩ := hjudged judged hmem
    unfold shortenDocstring
    split
    next text heq => exact hdraft.replace (.docstring hstring (hfate.trans heq))
    · exact hdraft
  · obtain ⟨judged, hmem, hremoved⟩ := List.mem_filterMap.mp hmem
    obtain ⟨hstring, hfate⟩ := hjudged judged hmem
    unfold removedDocstring? at hremoved
    split at hremoved
    next heq =>
      obtain rfl := Option.some.inj hremoved
      exact hdraft.remove (.docstring hstring (hfate.trans heq))
    · cases hremoved

theorem draft_isWritten (rules : Rules) (job : Job) (comments : List Node) :
    (draft rules job comments).IsWritten job.document job.profile (IsRemoval rules job comments)
      (IsShortening rules job comments) :=
  IsWritten.treatDocstrings <|
    List.foldlRecOn _ _ .empty fun _ hdraft _ hmem => IsWritten.treatSegment hdraft hmem

end Comment

/-! ### Function bodies -/

namespace Body
variable {job : Job} {bodies : List Node}

/-- The body of a function that the parser understood. -/
def IsOpen (bodies : List Node) (body : Node) : Prop :=
  body ∈ bodies ∧ ∃ function, body.parent? = some function ∧ function.isOpaque = false

/-- An edit that takes out the body of a function whose standing asks for it. -/
inductive IsElision (job : Job) (bodies : List Node) : Edit → String → Nat → Prop
  | mk {body : Node} {standing : Option Standing} {edit : Edit} (noun key : String)
      (hbody : IsOpen bodies body)
      (hstripped : isStripped job.config.functionBodies (job.document.lineCount body) standing =
        true)
      (hedit : edit = elideBraces job.document body noun.toList ∨
        elideIndented? job.document (job.profile.docstrings job.document) body noun.toList =
          some edit) :
      IsElision job bodies edit key 1

/-- The removal of the statements of a body that do not fit. -/
inductive IsExcess (job : Job) (bodies : List Node) : Removal → Prop
  | mk {body : Node} {max : Nat} {r : Removal} (hbody : IsOpen bodies body)
      (hmax : job.config.functionBodies.maxTokens = some max)
      (hexcess : excess? job.document job.count body max = some r) : IsExcess job bodies r

section
variable {c : Context} {draft : Draft} {body : Node}

theorem elide_cases (c : Context) (draft : Draft) (body : Node) (method : Bool) :
    elide c draft body method = draft ∨
      ∃ (noun key : String) (edit : Edit),
        (edit = elideBraces c.job.document body noun.toList ∨
          elideIndented? c.job.document c.docstrings body noun.toList = some edit) ∧
        elide c draft body method = draft.replace edit.span edit.text key 1 := by
  unfold elide
  simp only
  split
  · exact .inl rfl
  next edit heq =>
    refine .inr ⟨if method then "method body" else "function body", _, edit, ?_, rfl⟩
    split at heq
    · exact .inl (Option.some.inj heq).symm
    · exact .inr heq

theorem IsWritten.treat (hdocstrings : c.docstrings = c.job.profile.docstrings c.job.document)
    (h : draft.IsWritten c.job.document c.job.profile (IsExcess c.job bodies)
      (IsElision c.job bodies)) (hbody : body ∈ bodies) :
    (treat c draft body).IsWritten c.job.document c.job.profile (IsExcess c.job bodies)
      (IsElision c.job bodies) := by
  unfold Body.treat
  simp only
  split
  · exact h
  next function hparent =>
    split
    · exact h
    next hcollides =>
      have hopen : IsOpen bodies body := by
        simp only [Bool.or_eq_true, not_or, Bool.not_eq_true] at hcollides
        exact ⟨hbody, function, hparent, hcollides.1.2⟩
      split
      next hstripped =>
        rcases elide_cases c draft body (isMethod c.job.document
          (Declaration.standingOf? c.declarations function) function) with
          heq | ⟨noun, key, edit, hedit, heq⟩ <;> rw [heq]
        · exact h
        · rw [hdocstrings] at hedit
          exact h.replace (.mk noun key hopen hstripped hedit)
      · split
        · exact h
        next removal heq =>
          obtain ⟨max, hmax, hexcess⟩ := Option.bind_eq_some_iff.mp heq
          exact h.remove (.mk hopen hmax hexcess)

end

theorem draft_isWritten (exemptions : Exemptions) (job : Job) (bodies : List Node) :
    (draft exemptions job bodies).IsWritten job.document job.profile (IsExcess job bodies)
      (IsElision job bodies) :=
  List.foldlRecOn bodies (treat ⟨job, exemptions, _, _⟩) .empty fun _ hdraft _ hbody =>
    IsWritten.treat (c := ⟨job, exemptions, _, _⟩) rfl hdraft hbody

end Body

end Abridge
