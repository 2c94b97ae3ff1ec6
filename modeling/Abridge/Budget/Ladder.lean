import Abridge.Config.Basic

/-!
The ladder of ever tighter configurations that a file is tried with until it fits its budget: body
caps and then all bodies, literal caps, comment policies, import summaries and then all imports, and
in the end only the public surface.

Each step tightens one setting and leaves those alone that are tighter already; `Step` says what it
can do. `room` counts the steps that are left at most, and `room_lt_of_tighten` says that a step
takes one of them, so the ladder below a configuration is a finite list.
-/
namespace Abridge.Budget

def bodyCaps : List Nat := [512, 256, 128, 64, 32]

def literalCaps : List Nat := [128, 64, 32, 16, 8]

def summaryLimits : List Nat := [10, 5]

/-- Whether a cap is tighter than the present one; any is, where there is none. -/
def isTighter (current : Option Nat) (cap : Nat) : Bool :=
  current.all (cap < ·)

/-- The first cap of a ladder that is tighter than the present one. -/
def nextCap (current : Option Nat) (caps : List Nat) : Option Nat :=
  caps.find? (isTighter current)

/-! ### The steps -/

def tightenBodies (c : Config) : Option Config :=
  if c.functionBodies.mode = .all then none
  else
    match nextCap c.functionBodies.maxTokens bodyCaps with
    | some cap => some { c with functionBodies := { c.functionBodies with maxTokens := some cap } }
    | none => some { c with functionBodies := { c.functionBodies with mode := .all } }

def tightenLiterals (c : Config) : Option Config :=
  (nextCap c.literals.maxTokens literalCaps).map fun cap => { c with literals := ⟨some cap⟩ }

/-- The next policy on the way from keeping all comments to stripping all. -/
def stricterPolicy : CommentPolicy → Option CommentPolicy
  | .keepAll => some .keepDoc
  | .keepDoc => some .keepFirstSentence
  | .keepFirstSentence => some .stripAll
  | .stripAll => none

def tightenComments (c : Config) : Option Config :=
  (stricterPolicy c.comments.policy).map fun policy =>
    { c with comments := c.comments.withPolicy policy }

/-- The number of imports that are listed before a summary, if there is a summary. -/
def summaryLimit (i : ImportConfig) : Option Nat :=
  if i.summarizeLong then some i.maxItemsBeforeSummary else none

def tightenImports (c : Config) : Option Config :=
  if c.imports.policy = .stripAll then none
  else
    match nextCap (summaryLimit c.imports) summaryLimits with
    | some limit =>
      some { c with
        imports := { c.imports with summarizeLong := true, maxItemsBeforeSummary := limit } }
    | none => some { c with imports := { c.imports with policy := .stripAll } }

def tightenSurface (c : Config) : Option Config :=
  if c.publicApiOnly then none else some { c with publicApiOnly := true }

/-- The next tighter configuration, or none at the foot of the ladder. -/
def tighten (c : Config) : Option Config :=
  (tightenBodies c).or <| (tightenLiterals c).or <| (tightenComments c).or <|
    (tightenImports c).or <| tightenSurface c

/-- What a step can do: one setting is made tighter, and nothing else changes. -/
inductive Step (c : Config) : Config → Prop where
  | bodyCap {cap : Nat} (hmode : c.functionBodies.mode ≠ .all)
      (hcap : nextCap c.functionBodies.maxTokens bodyCaps = some cap) :
      Step c { c with functionBodies := { c.functionBodies with maxTokens := some cap } }
  | bodyMode (hmode : c.functionBodies.mode ≠ .all)
      (hcap : nextCap c.functionBodies.maxTokens bodyCaps = none) :
      Step c { c with functionBodies := { c.functionBodies with mode := .all } }
  | literalCap {cap : Nat} (hcap : nextCap c.literals.maxTokens literalCaps = some cap) :
      Step c { c with literals := ⟨some cap⟩ }
  | commentPolicy {policy : CommentPolicy}
      (hpolicy : stricterPolicy c.comments.policy = some policy) :
      Step c { c with comments := c.comments.withPolicy policy }
  | summaryLimit {limit : Nat} (hpolicy : c.imports.policy ≠ .stripAll)
      (hlimit : nextCap (Budget.summaryLimit c.imports) summaryLimits = some limit) :
      Step c { c with
        imports := { c.imports with summarizeLong := true, maxItemsBeforeSummary := limit } }
  | importPolicy (hpolicy : c.imports.policy ≠ .stripAll)
      (hlimit : nextCap (Budget.summaryLimit c.imports) summaryLimits = none) :
      Step c { c with imports := { c.imports with policy := .stripAll } }
  | surface (hsurface : c.publicApiOnly = false) : Step c { c with publicApiOnly := true }

theorem step_of_tighten {c d : Config} (h : tighten c = some d) : Step c d := by
  unfold tighten at h
  simp only [Option.or_eq_some_iff] at h
  rcases h with h | ⟨_, h | ⟨_, h | ⟨_, h | ⟨_, h⟩⟩⟩⟩
  · unfold tightenBodies at h
    split at h
    · cases h
    next hmode =>
      split at h
      next cap hcap =>
        cases h
        exact .bodyCap hmode hcap
      next hcap =>
        cases h
        exact .bodyMode hmode hcap
  · unfold tightenLiterals at h
    obtain ⟨cap, hcap, rfl⟩ := Option.map_eq_some_iff.mp h
    exact .literalCap hcap
  · unfold tightenComments at h
    obtain ⟨policy, hpolicy, rfl⟩ := Option.map_eq_some_iff.mp h
    exact .commentPolicy hpolicy
  · unfold tightenImports at h
    split at h
    · cases h
    next hpolicy =>
      split at h
      next limit hlimit =>
        cases h
        exact .summaryLimit hpolicy hlimit
      next hlimit =>
        cases h
        exact .importPolicy hpolicy hlimit
  · unfold tightenSurface at h
    split at h
    · cases h
    next hsurface =>
      cases h
      exact .surface (Bool.eq_false_iff.mpr hsurface)

/-! ### The ladder is finite -/

/-- How many caps are tighter than the present one. -/
def capsBelow (current : Option Nat) (caps : List Nat) : Nat :=
  (caps.filter (isTighter current)).length

def bodyRoom (b : BodyConfig) : Nat :=
  if b.mode = .all then 0 else capsBelow b.maxTokens bodyCaps + 1

def importRoom (i : ImportConfig) : Nat :=
  if i.policy = .stripAll then 0 else capsBelow (summaryLimit i) summaryLimits + 1

/-- The number of steps that are left at most. -/
def room (c : Config) : Nat :=
  bodyRoom c.functionBodies + capsBelow c.literals.maxTokens literalCaps +
    (3 - c.comments.policy.strictness) + importRoom c.imports + (if c.publicApiOnly then 0 else 1)

theorem capsBelow_lt_of_nextCap {current : Option Nat} {caps : List Nat} {cap : Nat}
    (h : nextCap current caps = some cap) : capsBelow (some cap) caps < capsBelow current caps := by
  have hcap : isTighter current cap = true := List.find?_some h
  have hmem : cap ∈ caps.filter (isTighter current) :=
    List.mem_filter.mpr ⟨List.mem_of_find?_eq_some h, hcap⟩
  have hsub : caps.filter (isTighter (some cap)) =
      (caps.filter (isTighter current)).filter (isTighter (some cap)) := by
    rw [List.filter_filter]
    refine List.filter_congr fun k _ => ?_
    by_cases hk : k < cap
    · cases current with
      | none => simp [isTighter, hk]
      | some n =>
        simp only [isTighter, Option.all_some, decide_eq_true_eq] at hcap
        simp [isTighter, hk, Nat.lt_trans hk hcap]
    · simp [isTighter, hk]
  unfold capsBelow
  rw [hsub]
  exact List.length_filter_lt_length_iff_exists.mpr ⟨cap, hmem, by simp [isTighter]⟩

theorem policy_withPolicy (c : CommentConfig) (p : CommentPolicy) :
    (c.withPolicy p).policy = p := by
  cases c <;> rfl

theorem Step.room_lt {c d : Config} (h : Step c d) : room d < room c := by
  cases h with
  | bodyCap hmode hcap =>
    have := capsBelow_lt_of_nextCap hcap
    simp only [room, bodyRoom, hmode, if_false]
    omega
  | bodyMode hmode _ =>
    simp only [room, bodyRoom, hmode, if_true, if_false]
    omega
  | literalCap hcap =>
    have := capsBelow_lt_of_nextCap hcap
    simp only [room]
    omega
  | commentPolicy hpolicy =>
    simp only [room, policy_withPolicy]
    cases hc : c.comments.policy <;> simp only [hc, stricterPolicy] at hpolicy <;>
      cases hpolicy <;> simp only [CommentPolicy.strictness] <;> omega
  | summaryLimit hpolicy hlimit =>
    have := capsBelow_lt_of_nextCap hlimit
    simp only [room, importRoom, hpolicy, if_false, Budget.summaryLimit, if_true] at this ⊢
    omega
  | importPolicy hpolicy _ =>
    simp only [room, importRoom, hpolicy, if_true, if_false]
    omega
  | surface hsurface => simp [room, hsurface]

/-- A step takes at least one of the steps that are left. -/
theorem room_lt_of_tighten {c d : Config} (h : tighten c = some d) : room d < room c :=
  (step_of_tighten h).room_lt

/-- The configurations below one, from the next to the tightest. -/
def ladder (c : Config) : List Config :=
  match _h : tighten c with
  | none => []
  | some d => d :: ladder d
termination_by room c
decreasing_by exact room_lt_of_tighten _h

end Abridge.Budget
