import Abridge.Body.Reduction
import Abridge.Declaration.Reduction
import Abridge.Import.Reduction
import Abridge.Proofs.Document
import Abridge.Proofs.Reduction.Account

/-!
The accounts of the reductions that put a placeholder wherever they take something out: of imports,
of what does not belong to the surface, and of function bodies and statements.
-/
namespace Abridge

open Placeholder (marker nouns omitted IsClosed not_mem_of_isBlankText)

/-- The work on a document under the rules of its language. -/
def Document.job (d : Document) (config : Config) (count : Counter) : Job where
  profile := d.language.profile
  document := d
  config
  count

/-- Whether the text of an edit is closed. -/
def Edit.IsClosed (e : Edit) : Prop :=
  Placeholder.IsClosed e.text

theorem Edit.isClosed_of_wraps {span : Span} {text : Text} {n : Nat} {noun : String}
    (hnoun : noun ∈ nouns) (h : text.Wraps (omitted n noun.toList)) :
    Edit.IsClosed ⟨span, text⟩ :=
  h.isClosed (Placeholder.isClosed_omitted (Placeholder.isNoun_of_mem_nouns hnoun) n).1

variable {d : Document} {config : Config} {count : Counter}

/-! ### Imports -/

namespace Import

/-- The account of imports. -/
def sorts : List (String × String) :=
  [("import", "removed.import")]

theorem isLedger_sorts : IsLedger sorts := by
  decide

theorem draft_isAccounted (external : List Pattern) (imports : List Node) :
    (draft external (d.job config count) imports).IsAccounted d sorts Edit.IsClosed := by
  have hnoun : ∀ run : List Piece, ∀ r ∈ removalOf? d run, r.noun = "import" := by
    intro run r hr
    unfold removalOf? at hr
    split at hr
    · exact Option.some.inj hr ▸ rfl
    · cases hr
  refine Draft.IsAccounted.foldl_remove isLedger_sorts
    ((Draft.isAccounted_of d sorts _).withStubs (Stubs.isOf_plan _ _)) ?_ ?_
  · intro r hr
    obtain ⟨run, -, hrun⟩ := List.mem_filterMap.mp hr
    rw [hnoun run r hrun]
    decide
  · intro r hr text hwraps _
    obtain ⟨run, -, hrun⟩ := List.mem_filterMap.mp hr
    rw [hnoun run r hrun] at hwraps
    exact Edit.isClosed_of_wraps (by decide) hwraps

end Import

/-! ### The public surface -/

namespace Declaration

/-- Every sort of declaration. -/
def kinds : List DeclarationKind :=
  [.function, .method, .classType, .structType, .interfaceType, .traitType, .typeAlias, .enumType,
    .nameScope, .variableDecl, .fieldDecl, .importDecl, .macroDecl]

/-- The account of declarations. -/
def sorts : List (String × String) :=
  kinds.map fun kind => (kind.noun, Draft.removedKey kind.noun)

theorem mem_sorts (kind : DeclarationKind) : (kind.noun, Draft.removedKey kind.noun) ∈ sorts := by
  have hkind : kind ∈ kinds := by cases kind <;> decide
  exact List.mem_map_of_mem hkind

theorem isLedger_sorts : IsLedger sorts := by
  decide

theorem draft_isAccounted :
    (draft (d.job config count)).IsAccounted d sorts Edit.IsClosed := by
  have hnoun : ∀ group : List Declaration, ∀ r ∈ removalOf? group,
      ∃ kind : DeclarationKind, r.noun = kind.noun := by
    intro group r hr
    unfold removalOf? at hr
    split at hr
    next first _ _ _ =>
      obtain rfl := Option.some.inj hr
      exact ⟨first.standing.kind, rfl⟩
    · cases hr
  refine Draft.IsAccounted.foldl_remove isLedger_sorts
    ((Draft.isAccounted_of d sorts _).withStubs (Stubs.isOf_plan _ _)) ?_ ?_
  · intro r hr
    obtain ⟨group, -, hgroup⟩ := List.mem_filterMap.mp hr
    obtain ⟨kind, hkind⟩ := hnoun group r hgroup
    rw [hkind]
    exact mem_sorts kind
  · intro r hr text hwraps _
    obtain ⟨group, -, hgroup⟩ := List.mem_filterMap.mp hr
    obtain ⟨kind, hkind⟩ := hnoun group r hgroup
    rw [hkind] at hwraps
    exact Edit.isClosed_of_wraps (Placeholder.noun_mem_nouns kind) hwraps

end Declaration

/-! ### Function bodies -/

namespace Body

/-- The account of bodies and statements. -/
def sorts : List (String × String) :=
  [("function body", "removed.function_body"), ("method body", "removed.method_body"),
    ("statement", "removed.statement")]

theorem isLedger_sorts : IsLedger sorts := by
  decide

theorem isBlankText_innerIndent (d : Document) (body : Node) {outer : Text}
    (h : outer.isBlankText = true) : (innerIndent d body outer).isBlankText = true := by
  unfold innerIndent
  split
  · exact d.isBlankText_deeper h
  · simp only
    split
    · exact d.lines.isBlankText_indentAt _
    · exact d.isBlankText_deeper h

theorem wraps_placeholder (d : Document) (noun : Text) :
    (placeholder d noun).Wraps (omitted 1 noun) :=
  wraps_lineComment d.language.not_mem_delimiters _

theorem wraps_elideBraces (d : Document) (body : Node) (noun : Text) :
    (elideBraces d body noun).text.Wraps (omitted 1 noun) := by
  have houter := d.lines.isBlankText_indentAt body.start
  have hfront : marker ∉ ['\x7b', '\n'] ++ innerIndent d body (d.lines.indentAt body.start) := by
    intro h
    exact (List.mem_append.mp h).elim (fun h => absurd h (by decide))
      (not_mem_of_isBlankText (isBlankText_innerIndent d body houter))
  have hback : marker ∉ ['\n'] ++ d.lines.indentAt body.start ++ ['\x7d'] := by
    intro h
    rcases List.mem_append.mp h with h | h
    · exact (List.mem_append.mp h).elim (fun h => absurd h (by decide))
        (not_mem_of_isBlankText houter)
    · exact absurd h (by decide)
  have h := (wraps_placeholder d noun).append hfront hback
  simp only [List.append_assoc] at h
  simpa only [elideBraces, List.append_assoc] using h

theorem wraps_elideIndented? {d : Document} {docstrings : List Node} {block : Node} {noun : Text}
    {edit : Edit} (h : elideIndented? d docstrings block noun = some edit) :
    edit.text.Wraps (omitted 1 noun) := by
  have hdots : marker ∉ (['.', '.', '.', ' ', ' '] : Text) := by decide
  have hwhole : Text.Wraps (['.', '.', '.', ' ', ' '] ++ placeholder d noun) (omitted 1 noun) :=
    (wraps_placeholder d noun).prepend hdots
  unfold elideIndented? at h
  simp only at h
  split at h
  · exact Option.some.inj h ▸ hwhole
  · split at h
    · exact Option.some.inj h ▸ hwhole
    · split at h
      · cases h
      next first _ _ _ =>
        obtain rfl := Option.some.inj h
        refine (wraps_placeholder d noun).prepend fun h => ?_
        exact (List.mem_append.mp h).elim (fun h => absurd h (by decide))
          (not_mem_of_isBlankText (d.lines.isBlankText_indentAt _))

section
variable {c : Context} {draft : Draft}

theorem IsAccounted.elide (h : draft.IsAccounted d sorts Edit.IsClosed) (body : Node)
    (method : Bool) :
    (elide c draft body method).IsAccounted d sorts Edit.IsClosed := by
  have hedit : ∀ noun : Text, ∀ edit ∈ (if c.job.profile.hasBraces then
      some (elideBraces c.job.document body noun)
      else elideIndented? c.job.document c.docstrings body noun),
      edit.text.Wraps (omitted 1 noun) := by
    intro noun edit hmem
    split at hmem
    · exact Option.some.inj hmem ▸ wraps_elideBraces _ body noun
    · exact wraps_elideIndented? hmem
  unfold Body.elide
  simp only
  split
  · exact h
  next edit heq =>
    cases method
    · have hwraps : edit.text.Wraps (omitted 1 "function body".toList) := hedit _ edit heq
      exact h.place isLedger_sorts (by decide) hwraps (Edit.isClosed_of_wraps (by decide) hwraps)
    · have hwraps : edit.text.Wraps (omitted 1 "method body".toList) := hedit _ edit heq
      exact h.place isLedger_sorts (by decide) hwraps (Edit.isClosed_of_wraps (by decide) hwraps)

theorem IsAccounted.treat (hd : c.job.document = d) (h : draft.IsAccounted d sorts Edit.IsClosed)
    (body : Node) : (treat c draft body).IsAccounted d sorts Edit.IsClosed := by
  unfold Body.treat
  simp only
  split
  · exact h
  · split
    · exact h
    · split
      · exact IsAccounted.elide h body _
      · split
        · exact h
        next removal heq =>
          have hnoun : removal.noun = "statement" := by
            obtain ⟨max, -, hexcess⟩ := Option.bind_eq_some_iff.mp heq
            unfold excess? at hexcess
            simp only at hexcess
            split at hexcess
            · cases hexcess
            · split at hexcess
              · exact Option.some.inj hexcess ▸ rfl
              · cases hexcess
          rw [hd]
          refine h.remove isLedger_sorts ?_ fun text hwraps _ => ?_
          · rw [hnoun]
            decide
          · rw [hnoun] at hwraps
            exact Edit.isClosed_of_wraps (by decide) hwraps

end

theorem draft_isAccounted (exemptions : Exemptions) (bodies : List Node) :
    (draft exemptions (d.job config count) bodies).IsAccounted d sorts Edit.IsClosed := by
  have hrun : ∀ (c : Context) (draft : Draft), c.job.document = d →
      draft.IsAccounted d sorts Edit.IsClosed →
      (bodies.foldl (Body.treat c) draft).IsAccounted d sorts Edit.IsClosed := by
    intro c draft hd h
    induction bodies generalizing draft with
    | nil => exact h
    | cons body rest ih => exact ih _ (IsAccounted.treat hd h body)
  exact hrun _ _ rfl (Draft.isAccounted_of d sorts _)

end Body

end Abridge
