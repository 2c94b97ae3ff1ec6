import Abridge.Body.Reduction
import Abridge.Comment.Reduction
import Abridge.Profile.Table
import Abridge.Proofs.Budget.Setting
import Abridge.Proofs.Import.Marks
import Abridge.Proofs.Tree.WellFormed

/-!
What is decided about bodies, imports and comments on the way down the ladder.

Imports and comments are only ever treated more strictly, however many steps are taken: an import
that goes keeps going, and the fate of a comment becomes no milder (`marks_and_fates_tighten`).
Bodies may come back. The mode that is after the bodies of hidden functions takes them out however
short they are, and the mode after all bodies, which the ladder turns to next, passes over those on
one line (`tighten_puts_body_back`). No other body comes back (`stays_stripped_iff`).
-/
namespace Abridge

/-! ### Function bodies -/

namespace Body

/-- Whether the body of a function goes, by the mode, by its lines and by the standing of the
function; whether the function is exempted is asked before. -/
def goes (profile : Profile) (d : Document) (config : Config) (function body : Node) : Bool :=
  isStripped config.functionBodies (d.lineCount body)
    (Declaration.standingOf? (profile.declarations d) function)

theorem isStripped_congr {a b : BodyConfig} (hmode : b.mode = a.mode)
    (hlines : b.minLines = a.minLines) : isStripped b = isStripped a := by
  funext lines standing
  simp only [isStripped, hmode, hlines]

theorem one_lt_of_isStripped {config : BodyConfig} {lines : Nat} {standing : Option Standing}
    (hmode : config.mode ≠ .nonPublic) (h : isStripped config lines standing = true) :
    1 < lines := by
  unfold isStripped at h
  cases hm : config.mode <;> simp_all

end Body

namespace Budget

theorem Step.mode_eq_or {c d : Config} (h : Step c d) :
    d.functionBodies.mode = c.functionBodies.mode ∨ d.functionBodies.mode = .all := by
  cases h with
  | bodyMode _ _ => exact .inr rfl
  | _ => exact .inl rfl

theorem Step.minLines_eq {c d : Config} (h : Step c d) :
    d.functionBodies.minLines = c.functionBodies.minLines := by
  cases h <;> rfl

/-- What a step does to a body that goes: only the step from the bodies of hidden functions to all
bodies brings one back, if it has no more than one line. -/
theorem Step.isStripped_iff {c d : Config} (h : Step c d) {lines : Nat} {standing : Option Standing}
    (hstripped : Body.isStripped c.functionBodies lines standing = true) :
    Body.isStripped d.functionBodies lines standing = true ↔
      ¬ (c.functionBodies.mode = .nonPublic ∧ d.functionBodies.mode = .all ∧ lines ≤ 1) := by
  rcases h.mode_eq_or with hmode | hall
  · rw [Body.isStripped_congr hmode h.minLines_eq, hmode]
    refine ⟨fun _ hback => ?_, fun _ => hstripped⟩
    rw [hback.1] at hback
    cases hback.2.1
  · by_cases hhidden : c.functionBodies.mode = .nonPublic
    · simp [Body.isStripped, hall, hhidden]
    · have hlines := Body.one_lt_of_isStripped hhidden hstripped
      simp [Body.isStripped, hall, hhidden, hlines]

/-- **A body that goes keeps going one step further down the ladder, unless it stands on one line
and the step turns from the bodies of hidden functions to all bodies.** -/
theorem stays_stripped_iff {c d : Config} (h : tighten c = some d) (profile : Profile)
    (document : Document) {function body : Node}
    (hgoes : Body.goes profile document c function body = true) :
    Body.goes profile document d function body = true ↔
      ¬ (c.functionBodies.mode = .nonPublic ∧ d.functionBodies.mode = .all ∧
        document.lineCount body = 1) := by
  have hlines : document.lineCount body = 1 ↔ document.lineCount body ≤ 1 := by
    unfold Document.lineCount
    omega
  rw [hlines]
  exact (step_of_tighten h).isStripped_iff hgoes

/-- A file in Rust with a hidden function on one line. -/
def oneLiner : Document :=
  .ofTree .rust "fn g() \x7b 1 \x7d\n".toList <|
    .named "source_file" 0 13 [
      .named "function_item" 0 12 [
        .token "fn" 0 2,
        .inField "name" (.named "identifier" 3 4 []),
        .inField "parameters" (.named "parameters" 4 6 [.token "(" 4 5, .token ")" 5 6]),
        .inField "body" (.named "block" 7 12 [
          .token "\x7b" 7 8,
          .named "integer_literal" 9 10 [],
          .token "\x7d" 11 12])]]

namespace oneLiner

def function : Node :=
  oneLiner.root.children.head?.getD oneLiner.root

def body : Node :=
  (function.inField? "body").getD function

end oneLiner

/-- The bodies of hidden functions go, and others are trimmed. -/
def hiddenBodies (cap : Option Nat) : Config where
  functionBodies := { mode := .nonPublic, maxTokens := cap }

theorem goes_hiddenBodies (cap : Option Nat) :
    Body.goes oneLiner.language.profile oneLiner (hiddenBodies cap) oneLiner.function
      oneLiner.body = true := by
  have hgoes : Body.goes oneLiner.language.profile oneLiner (hiddenBodies none) oneLiner.function
      oneLiner.body = true := by decide +kernel
  rwa [Body.goes, Body.isStripped_congr (b := (hiddenBodies cap).functionBodies)
    (a := (hiddenBodies none).functionBodies) rfl rfl]

/-- The first cap on the bodies that stay changes nothing for those that go. -/
theorem stays_stripped_under_cap :
    tighten (hiddenBodies none) = some (hiddenBodies (some 512)) ∧
      Body.goes oneLiner.language.profile oneLiner (hiddenBodies none) oneLiner.function
        oneLiner.body = true ∧
      Body.goes oneLiner.language.profile oneLiner (hiddenBodies (some 512)) oneLiner.function
        oneLiner.body = true := by
  have hstep : tighten (hiddenBodies none) = some (hiddenBodies (some 512)) := by decide
  have hgoes := goes_hiddenBodies none
  refine ⟨hstep, hgoes, (stays_stripped_iff hstep _ _ hgoes).mpr ?_⟩
  rintro ⟨-, hall, -⟩
  cases hall

/-- Of the file, the body of the only function goes with the bodies of hidden functions, under the
tightest cap; no pattern exempts it. One step further, where all bodies are to go, it stays. -/
theorem tighten_puts_body_back :
    oneLiner.queryNodes "functions" "body" = .ok [oneLiner.body] ∧
    oneLiner.body.parent? = some oneLiner.function ∧
    (⟨[], []⟩ : Body.Exemptions).exempts oneLiner.language.profile oneLiner oneLiner.function =
      false ∧
    ∃ d, tighten (hiddenBodies (some 32)) = some d ∧
      Body.goes oneLiner.language.profile oneLiner (hiddenBodies (some 32)) oneLiner.function
        oneLiner.body = true ∧
      Body.goes oneLiner.language.profile oneLiner d oneLiner.function oneLiner.body = false := by
  have hscan : oneLiner.scan (Grammar.functionQuery [("function_item", "block")]).selectors "body" =
      [oneLiner.body] := by with_unfolding_all rfl
  have hfound : oneLiner.queryNodes "functions" "body" = .ok [oneLiner.body] :=
    hscan ▸ Document.queryNodes_eq_scan rfl (by decide +kernel)
  refine ⟨hfound, rfl, rfl, { functionBodies := { mode := .all, maxTokens := some 32 } },
    by decide, goes_hiddenBodies _, by decide +kernel⟩

end Budget

/-! ### Comments -/

namespace Comment

/-- Whether comments are treated at least as strictly: nothing but the policy differs, and it is no
milder. -/
structure Tightens (a b : CommentOptions) : Prop where
  cap : b.maxTokens = a.maxTokens
  keeps : b.keepAnnotations = a.keepAnnotations
  strips : b.stripPatterns = a.stripPatterns
  policy : a.policy.strictness ≤ b.policy.strictness

theorem Tightens.refl (a : CommentOptions) : Tightens a a :=
  ⟨rfl, rfl, rfl, Nat.le_refl _⟩

theorem Tightens.trans {a b c : CommentOptions} (hab : Tightens a b) (hbc : Tightens b c) :
    Tightens a c where
  cap := hbc.cap.trans hab.cap
  keeps := hbc.keeps.trans hab.keeps
  strips := hbc.strips.trans hab.strips
  policy := Nat.le_trans hab.policy hbc.policy

/-- How much the policy takes away, by its strictness. -/
theorem Rules.severity_byPolicy (rules : Rules) (isDoc : Bool) :
    (rules.byPolicy isDoc).severity =
      let strictness := rules.options.policy.strictness
      if isDoc then
        if strictness = 3 then 2
        else if strictness = 2 ∨ rules.options.maxTokens.isSome then 1 else 0
      else if strictness = 0 then 0 else 2 := by
  unfold Rules.byPolicy
  cases rules.options.policy <;> cases isDoc <;> cases rules.options.maxTokens <;> rfl

theorem severity_decide_le {a b : CommentOptions} (h : Tightens a b) (keep strip : List Pattern)
    (count : Counter) (comment : Text) (isDoc : Bool) :
    (Rules.decide ⟨a, keep, strip, count⟩ comment isDoc).severity ≤
      (Rules.decide ⟨b, keep, strip, count⟩ comment isDoc).severity := by
  have hpolicy : (Rules.byPolicy ⟨a, keep, strip, count⟩ isDoc).severity ≤
      (Rules.byPolicy ⟨b, keep, strip, count⟩ isDoc).severity := by
    have hle := h.policy
    have htop := Budget.strictness_le b.policy
    simp only [Rules.severity_byPolicy, h.cap]
    grind
  -- The patterns come first, and they are the same.
  unfold Rules.decide
  dsimp only
  split_ifs
  · exact Nat.le_refl _
  · exact Nat.le_refl _
  · exact hpolicy

/-- Whether two verdicts are on one comment, and its fate by the second is no milder. -/
structure Verdict.Le (v w : Verdict) : Prop where
  item : w.item = v.item
  fate : v.fate.severity ≤ w.fate.severity

theorem judge_le {a b : CommentOptions} (h : Tightens a b) (profile : Profile) (d : Document)
    (keep strip : List Pattern) (count : Counter) (group : List Item) :
    List.Forall₂ Verdict.Le (judge profile d ⟨a, keep, strip, count⟩ group)
      (judge profile d ⟨b, keep, strip, count⟩ group) := by
  simp only [judge, List.forall₂_map_left_iff, List.forall₂_map_right_iff, List.forall₂_same]
  intro item _
  exact ⟨rfl, severity_decide_le h keep strip count _ _⟩

theorem isNoop_of_tightens {a b : CommentConfig} (h : Tightens a.options b.options)
    (hnoop : b.isNoop = true) : a.isNoop = true := by
  simp only [CommentConfig.isNoop, Bool.and_eq_true, beq_iff_eq] at hnoop ⊢
  obtain ⟨⟨hpolicy, hcap⟩, hstrips⟩ := hnoop
  rw [h.cap] at hcap
  rw [h.strips] at hstrips
  have hmild := h.policy
  rw [hpolicy] at hmild
  refine ⟨⟨?_, hcap⟩, hstrips⟩
  cases hp : a.options.policy <;> simp_all [CommentPolicy.strictness]

end Comment

namespace Budget

theorem options_withPolicy (c : CommentConfig) (policy : CommentPolicy) :
    (c.withPolicy policy).options = { c.options with policy } := by
  cases c <;> rfl

theorem Step.tightens_comments {c d : Config} (h : Step c d) :
    Comment.Tightens c.comments.options d.comments.options := by
  cases h with
  | @commentPolicy policy hpolicy =>
    have hnext := strictness_of_stricterPolicy hpolicy
    rw [options_withPolicy]
    refine ⟨rfl, rfl, rfl, ?_⟩
    show c.comments.policy.strictness ≤ policy.strictness
    omega
  | _ => exact .refl _

theorem Step.tightens_imports {c d : Config} (h : Step c d) :
    Import.Tightens c.imports d.imports := by
  cases h with
  | @summaryLimit limit _ hlimit =>
    refine ⟨rfl, rfl, .inl rfl, fun high hhigh => ⟨limit, ?_, rfl⟩⟩
    rw [hhigh] at hlimit
    exact Nat.le_of_lt (lt_of_nextCap hlimit)
  | importPolicy _ _ => exact ⟨rfl, rfl, .inr rfl, fun high hhigh => ⟨high, Nat.le_refl _, hhigh⟩⟩
  | _ => exact .refl _

theorem tightens_of_reaches {c d : Config} (h : Reaches c d) :
    Import.Tightens c.imports d.imports ∧
      Comment.Tightens c.comments.options d.comments.options := by
  induction h with
  | refl => exact ⟨.refl _, .refl _⟩
  | tail _ hstep ih =>
    have hstep := step_of_tighten hstep
    exact ⟨ih.1.trans hstep.tightens_imports, ih.2.trans hstep.tightens_comments⟩

/-- **However far down the ladder, imports and comments are treated no more mildly.** A reduction
that is asked for stays so, and its patterns stay the same. Of any imports of any document, those
that go keep going; and the fate of every comment, whatever group it stands in, and of every
docstring is at least as hard, from being kept over being cut short to being taken out. -/
theorem marks_and_fates_tighten {c d : Config} (h : Reaches c d) (profile : Profile)
    (document : Document) (count : Counter) :
    (Reduction.imports.isEnabled c = true → Reduction.imports.isEnabled d = true) ∧
    (Reduction.comments.isEnabled c = true → Reduction.comments.isEnabled d = true) ∧
    d.imports.externalPatterns = c.imports.externalPatterns ∧
    d.comments.options.keepAnnotations = c.comments.options.keepAnnotations ∧
    d.comments.options.stripPatterns = c.comments.options.stripPatterns ∧
    (∀ external units, List.Forall₂ Import.Mark.Le
      (Import.marks profile document c.imports external units)
      (Import.marks profile document d.imports external units)) ∧
    ∀ keep strip,
      let before : Comment.Rules := ⟨c.comments.options, keep, strip, count⟩
      let after : Comment.Rules := ⟨d.comments.options, keep, strip, count⟩
      (∀ group, List.Forall₂ Comment.Verdict.Le (Comment.judge profile document before group)
        (Comment.judge profile document after group)) ∧
      ∀ string : Node, (before.decide (document.textOf string) true).severity ≤
        (after.decide (document.textOf string) true).severity := by
  obtain ⟨himports, hcomments⟩ := tightens_of_reaches h
  have himportsRun : d.imports.isNoop = true → c.imports.isNoop = true :=
    Import.isNoop_of_tightens himports
  have hcommentsRun : d.comments.isNoop = true → c.comments.isNoop = true :=
    Comment.isNoop_of_tightens hcomments
  refine ⟨?_, ?_, himports.patterns, hcomments.keeps, hcomments.strips,
    fun external units => Import.marks_le himports units, fun keep strip => ⟨?_, ?_⟩⟩
  · simpa [Reduction.imports] using mt himportsRun
  · simpa [Reduction.comments] using mt hcommentsRun
  · exact Comment.judge_le hcomments profile document keep strip count
  · intro string
    exact Comment.severity_decide_le hcomments keep strip count _ _

/-- A file in Rust that uses a module of its own crate and one from elsewhere. -/
def twoUses : Document :=
  .ofTree .rust "use crate::a;\nuse std::b;\n".toList <|
    .named "source_file" 0 26 [
      .named "use_declaration" 0 13 [
        .token "use" 0 3,
        .inField "argument" (.named "scoped_identifier" 4 12 [
          .inField "path" (.named "crate" 4 9 []),
          .token "::" 9 11,
          .inField "name" (.named "identifier" 11 12 [])]),
        .token ";" 12 13],
      .named "use_declaration" 14 25 [
        .token "use" 14 17,
        .inField "argument" (.named "scoped_identifier" 18 24 [
          .inField "path" (.named "identifier" 18 21 []),
          .token "::" 21 23,
          .inField "name" (.named "identifier" 23 24 [])]),
        .token ";" 24 25]]

/-- Takes out what comes from the crate itself, and all comments but documentation. -/
def ownUses : Config where
  comments := .bare .keepDoc
  functionBodies := { mode := .all }
  imports := { policy := .stripLocal }
  literals := ⟨some 8⟩

/-- What `ownUses` comes to in three steps. -/
def ownUsesLater : Config :=
  { ownUses with
    comments := .bare .stripAll
    imports := { policy := .stripLocal, summarizeLong := true, maxItemsBeforeSummary := 10 } }

/-- Three steps down, the first use of the file still goes, and no docstring is treated more
mildly. -/
theorem marks_and_fates_tighten_uses :
    let units := twoUses.root.children
    let marks (c : Config) := Import.marks Language.rust.profile twoUses c.imports [] units
    let rules (c : Config) : Comment.Rules := ⟨c.comments.options, [], [], Counter.bytes⟩
    Reaches ownUses ownUsesLater ∧ (marks ownUses).map Import.Mark.isRemoved = [true, false] ∧
      List.Forall₂ Import.Mark.Le (marks ownUses) (marks ownUsesLater) ∧
      ∀ string : Node, ((rules ownUses).decide (twoUses.textOf string) true).severity ≤
        ((rules ownUsesLater).decide (twoUses.textOf string) true).severity := by
  intro units marks rules
  have hreaches : Reaches ownUses ownUsesLater := .head rfl (.head rfl (.head rfl .refl))
  obtain ⟨-, -, -, -, -, hmarks, hfates⟩ :=
    marks_and_fates_tighten hreaches Language.rust.profile twoUses Counter.bytes
  exact ⟨hreaches, by decide, hmarks [] units, (hfates [] []).2⟩

end Budget

end Abridge
