import Abridge.Proofs.Budget.Ladder
import Mathlib.Data.ENat.Basic

/-!
The settings that the ladder moves, one at a time.

`Setting.slack` says how much a setting lets stand: a cap or a limit as a number, without end where
there is none, and a mode or a policy by its rank. A step lowers the slack of one setting and leaves
the others as they are (`Step.exists_setting`); what is no such setting it does not touch
(`Step.loosened_eq`). Steps come to an end where nothing is left to tighten (`isFoot_of_tighten`),
eighteen at most below any configuration (`tighten_moves_one_setting`).
-/
namespace Abridge.Budget

/-- A setting that the ladder moves. -/
inductive Setting where
  | bodyCap
  | bodyMode
  | literalCap
  | commentPolicy
  | summaryLimit
  | importPolicy
  | surface
  deriving DecidableEq, Repr

/-! ### How tight a setting is -/

/-- A cap as a number, which has no end where there is no cap. -/
def capacity (cap : Option Nat) : ℕ∞ :=
  cap.elim ⊤ (↑)

/-- Modes by what they are after: no body, bodies of some sort, all bodies. -/
def modeSlack : BodyMode → Nat
  | .off => 2
  | .keepAll => 2
  | .largeOnly => 1
  | .nonPublic => 1
  | .all => 0

/-- Policies by what they are after: no import, imports of some origin, all imports. -/
def importSlack : ImportPolicy → Nat
  | .keepAll => 2
  | .stripLocal => 1
  | .stripExternal => 1
  | .stripAll => 0

namespace Setting

/-- How much a setting lets stand: the smaller, the tighter. -/
def slack (c : Config) : Setting → ℕ∞
  | bodyCap => capacity c.functionBodies.maxTokens
  | bodyMode => modeSlack c.functionBodies.mode
  | literalCap => capacity c.literals.maxTokens
  | commentPolicy => (3 - c.comments.policy.strictness : Nat)
  | summaryLimit => capacity (Budget.summaryLimit c.imports)
  | importPolicy => importSlack c.imports.policy
  | surface => if c.publicApiOnly then 0 else 1

/-- Whether a setting is the same in two configurations, field by field. -/
def Agrees (c d : Config) : Setting → Prop
  | bodyCap => d.functionBodies.maxTokens = c.functionBodies.maxTokens
  | bodyMode => d.functionBodies.mode = c.functionBodies.mode
  | literalCap => d.literals.maxTokens = c.literals.maxTokens
  | commentPolicy => d.comments.policy = c.comments.policy
  | summaryLimit => d.imports.summarizeLong = c.imports.summarizeLong ∧
      d.imports.maxItemsBeforeSummary = c.imports.maxItemsBeforeSummary
  | importPolicy => d.imports.policy = c.imports.policy
  | surface => d.publicApiOnly = c.publicApiOnly

theorem Agrees.slack_eq {c d : Config} {s : Setting} (h : s.Agrees c d) :
    s.slack d = s.slack c := by
  cases s <;> simp only [Agrees] at h <;> simp only [slack, Budget.summaryLimit, h]

end Setting

/-- A configuration with every setting that the ladder moves at its loosest. Two configurations have
the same if they differ in these settings alone. -/
def loosened (c : Config) : Config where
  comments := c.comments.withPolicy .keepAll
  functionBodies := { c.functionBodies with mode := .off, maxTokens := none }
  imports := { c.imports with
    policy := .keepAll, summarizeLong := false, maxItemsBeforeSummary := 0 }
  budget := c.budget

/-! ### One step -/

theorem lt_of_nextCap {current cap : Nat} {caps : List Nat}
    (h : nextCap (some current) caps = some cap) : cap < current := by
  simpa [isTighter] using List.find?_some h

theorem capacity_lt_of_nextCap {current : Option Nat} {caps : List Nat} {cap : Nat}
    (h : nextCap current caps = some cap) : capacity (some cap) < capacity current := by
  cases current with
  | none => exact ENat.natCast_lt_top cap
  | some n => exact Nat.cast_lt.mpr (lt_of_nextCap h)

theorem capacity_le_of_nextCap_eq_none {current : Option Nat} {caps : List Nat} {cap : Nat}
    (h : nextCap current caps = none) (hcap : cap ∈ caps) : capacity current ≤ cap := by
  have hnot := List.find?_eq_none.mp h cap hcap
  cases current with
  | none => exact absurd rfl hnot
  | some n => exact Nat.cast_le.mpr (by simpa [isTighter] using hnot)

theorem strictness_of_stricterPolicy {policy next : CommentPolicy}
    (h : stricterPolicy policy = some next) : next.strictness = policy.strictness + 1 := by
  cases policy <;> cases h <;> rfl

theorem strictness_le (policy : CommentPolicy) : policy.strictness ≤ 3 := by
  cases policy <;> decide

/-- A step makes one setting tighter and leaves the others as they are. -/
theorem Step.exists_setting {c d : Config} (h : Step c d) :
    ∃ s : Setting, s.slack d < s.slack c ∧ ∀ t : Setting, t ≠ s → t.Agrees c d := by
  cases h
  case' bodyCap hmode hcap =>
    refine ⟨.bodyCap, capacity_lt_of_nextCap hcap, ?_⟩
  case' bodyMode hmode hcap =>
    have hlt : modeSlack .all < modeSlack c.functionBodies.mode := by
      cases hm : c.functionBodies.mode <;> simp_all [modeSlack]
    refine ⟨.bodyMode, Nat.cast_lt.mpr hlt, ?_⟩
  case' literalCap cap hcap =>
    refine ⟨.literalCap, capacity_lt_of_nextCap hcap, ?_⟩
  case' commentPolicy policy hpolicy =>
    have hnext := strictness_of_stricterPolicy hpolicy
    have hle := strictness_le policy
    have hlt : 3 - (c.comments.withPolicy policy).policy.strictness <
        3 - c.comments.policy.strictness := by
      rw [policy_withPolicy]
      omega
    refine ⟨.commentPolicy, Nat.cast_lt.mpr hlt, ?_⟩
  case' summaryLimit limit hpolicy hlimit =>
    refine ⟨.summaryLimit, capacity_lt_of_nextCap hlimit, ?_⟩
  case' importPolicy hpolicy hlimit =>
    have hlt : importSlack .stripAll < importSlack c.imports.policy := by
      cases hp : c.imports.policy <;> simp_all [importSlack]
    refine ⟨.importPolicy, Nat.cast_lt.mpr hlt, ?_⟩
  case' surface hsurface =>
    refine ⟨.surface, by simp [Setting.slack, hsurface], ?_⟩
  -- Whichever setting moved, the fields of the others were copied.
  all_goals
    intro t ht
    cases t <;> simp_all [Setting.Agrees]

theorem withPolicy_withPolicy (c : CommentConfig) (p q : CommentPolicy) :
    (c.withPolicy p).withPolicy q = c.withPolicy q := by
  cases c <;> rfl

/-- What is no setting of the ladder stays as it is, and so does the form in which the comment
section was given. -/
theorem Step.loosened_eq {c d : Config} (h : Step c d) : loosened d = loosened c := by
  cases h with
  | commentPolicy _ => simp only [loosened, withPolicy_withPolicy]
  | _ => rfl

/-! ### Down to the foot -/

/-- Whether every setting of a configuration is where the ladder ends. -/
structure IsFoot (c : Config) : Prop where
  bodies : c.functionBodies.mode = .all
  literals : capacity c.literals.maxTokens ≤ 8
  comments : c.comments.policy = .stripAll
  imports : c.imports.policy = .stripAll
  surface : c.publicApiOnly = true

theorem isFoot_of_tighten {c : Config} (h : tighten c = none) : IsFoot c := by
  simp only [tighten, Option.or_eq_none_iff] at h
  obtain ⟨hbodies, hliterals, hcomments, himports, hsurface⟩ := h
  refine ⟨?_, ?_, ?_, ?_, ?_⟩
  · by_contra hmode
    rw [tightenBodies, if_neg hmode] at hbodies
    split at hbodies <;> cases hbodies
  · exact capacity_le_of_nextCap_eq_none (Option.map_eq_none_iff.mp hliterals) (by decide)
  · have hpolicy := Option.map_eq_none_iff.mp hcomments
    cases hc : c.comments.policy <;> simp_all [stricterPolicy]
  · by_contra hpolicy
    rw [tightenImports, if_neg hpolicy] at himports
    split at himports <;> cases himports
  · by_contra hopen
    rw [tightenSurface, if_neg hopen] at hsurface
    cases hsurface

/-- As many steps as the ladder has lead to where there is no other. -/
theorem exists_iterate_tighten (c : Config) :
    ∃ foot, (Option.bind · tighten)^[(ladder c).length] (some c) = some foot ∧
      tighten foot = none := by
  induction c using ladder.induct with
  | case1 c hfoot => exact ⟨c, by rw [ladder_of_foot hfoot]; rfl, hfoot⟩
  | case2 c next hnext ih =>
    obtain ⟨foot, hsteps, hfoot⟩ := ih
    refine ⟨foot, ?_, hfoot⟩
    rw [ladder_of_tighten hnext, List.length_cons, Function.iterate_succ_apply, Option.bind_some,
      hnext]
    exact hsteps

/-- **A step of the ladder makes exactly one setting strictly tighter.** The other settings keep
their values, and so does everything else in the configuration: patterns, annotations, the number of
lines that counts as large, the cap on comments, roots, the budget, and whether the comment section
is a bare policy or options in detail. From any configuration at most eighteen steps lead to one
that cannot be tightened, where every setting is at the end of its part of the ladder. -/
theorem tighten_moves_one_setting (c : Config) :
    (∀ d, tighten c = some d →
      (∃ s : Setting, s.slack d < s.slack c ∧ ∀ t : Setting, t.Agrees c d ↔ t ≠ s) ∧
      loosened d = loosened c) ∧
    ∃ n ≤ 18, ∃ foot, (Option.bind · tighten)^[n] (some c) = some foot ∧ tighten foot = none ∧
      IsFoot foot := by
  refine ⟨fun d hd => ?_, ?_⟩
  · have hstep : Step c d := step_of_tighten hd
    obtain ⟨s, hlt, hothers⟩ := hstep.exists_setting
    refine ⟨⟨s, hlt, fun t => ⟨?_, hothers t⟩⟩, hstep.loosened_eq⟩
    rintro hagrees rfl
    exact absurd hagrees.slack_eq hlt.ne
  · obtain ⟨foot, hsteps, hfoot⟩ := exists_iterate_tighten c
    exact ⟨(ladder c).length, length_ladder_le c, foot, hsteps, hfoot, isFoot_of_tighten hfoot⟩

-- From the defaults it takes all eighteen.
example : ((Option.bind · tighten)^[18] (some {})).isSome = true := by decide

/-- A mixture of settings: bodies, literals and comments are tighter than the ladder makes them, and
imports are not summarized, though a limit is given. -/
def mixedSettings : Config where
  comments := .detailed { policy := .stripAll, maxTokens := some 7, keepAnnotations := ["SAFETY"] }
  functionBodies := { mode := .all, maxTokens := some 3 }
  literals := ⟨some 5⟩
  imports := { policy := .stripLocal, maxItemsBeforeSummary := 7 }

/-- The step from no summary to a summary behind ten imports, whatever limit was given before. -/
theorem tighten_moves_one_setting_mixed :
    ∃ d, tighten mixedSettings = some d ∧ d.imports.maxItemsBeforeSummary = 10 ∧
      (∃ s : Setting, s.slack d < s.slack mixedSettings ∧
        ∀ t : Setting, t.Agrees mixedSettings d ↔ t ≠ s) ∧
      loosened d = loosened mixedSettings := by
  refine ⟨{ mixedSettings with
    imports := { mixedSettings.imports with summarizeLong := true, maxItemsBeforeSummary := 10 } },
    by decide, rfl, ?_⟩
  exact (tighten_moves_one_setting mixedSettings).1 _ (by decide)

end Abridge.Budget
