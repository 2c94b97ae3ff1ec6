import Abridge.Budget.Fit

/-!
What a search under a ceiling keeps.

A candidate is `Within` another if it is longer neither in tokens nor in bytes. The best result of a
search only ever moves within itself (`descend_within`), and the ladder is the same under every
ceiling: of two searches from one state the one under the lower ceiling has come through the state
in which the other stopped (`descend_within_of_le`). A candidate never leaves its own count behind
(`descend_isCounted`), so what holds of tokens holds of the text that is returned.
-/
namespace Abridge.Budget

/-! ### The ladder, step by step -/

theorem ladder_of_tighten {c d : Config} (h : tighten c = some d) : ladder c = d :: ladder d := by
  rw [ladder]
  split
  next hnone => rw [h] at hnone; cases hnone
  next e hsome =>
    obtain rfl : d = e := Option.some.inj (h.symm.trans hsome)
    rfl

theorem ladder_of_foot {c : Config} (h : tighten c = none) : ladder c = [] := by
  rw [ladder]
  split
  · rfl
  next e hsome => rw [h] at hsome; cases hsome

/-! ### Candidates -/

namespace Candidate

/-- Whether a candidate is longer than another neither in tokens nor in bytes. -/
def Within (a b : Candidate) : Prop :=
  a.tokens ≤ b.tokens ∧ a.result.text.size ≤ b.result.text.size

theorem Within.refl (a : Candidate) : a.Within a :=
  ⟨Nat.le_refl _, Nat.le_refl _⟩

theorem Within.trans {a b c : Candidate} (hab : a.Within b) (hbc : b.Within c) : a.Within c :=
  ⟨Nat.le_trans hab.1 hbc.1, Nat.le_trans hab.2 hbc.2⟩

/-- Whether the tokens of a candidate are those of its text. -/
def IsCounted (count : Counter) (a : Candidate) : Prop :=
  a.tokens = count a.result.text

theorem isCounted_of (count : Counter) (result : Abridged) : (of count result).IsCounted count :=
  rfl

theorem improve_eq_or (best new : Candidate) :
    best.improve new = new ∨ best.improve new = best := by
  unfold improve
  split
  · exact .inl rfl
  · exact .inr rfl

theorem improve_within (best new : Candidate) : (best.improve new).Within best := by
  unfold improve
  split
  next h => exact h
  next => exact .refl best

theorem IsCounted.improve {count : Counter} {best new : Candidate} (hb : best.IsCounted count)
    (hn : new.IsCounted count) : (best.improve new).IsCounted count := by
  rcases improve_eq_or best new with h | h <;> rw [h]
  · exact hn
  · exact hb

end Candidate

/-! ### Searches -/

section Search
variable {ε : Type} (run : Config → Except ε Abridged) (count : Counter)

theorem attempt_within (s : Search) (config : Config) :
    (s.attempt run count config).best.Within s.best := by
  unfold Search.attempt
  split
  · exact s.best.improve_within _
  · exact .refl _

theorem attempt_isCounted {s : Search} (hs : s.best.IsCounted count) (config : Config) :
    (s.attempt run count config).best.IsCounted count := by
  unfold Search.attempt
  split
  next result _ => exact hs.improve (Candidate.isCounted_of count result)
  · exact hs

/-- However far a search goes, its best result stays within the one that it started with. -/
theorem descend_within (ceiling : Nat) (s : Search) (rest : List Config) :
    (descend run count ceiling s rest).best.Within s.best := by
  induction rest generalizing s with
  | nil => exact .refl _
  | cons config rest ih =>
    rw [descend]
    split
    · exact .refl _
    · exact (ih _).trans (attempt_within run count s config)

theorem descend_isCounted (ceiling : Nat) {s : Search} (hs : s.best.IsCounted count)
    (rest : List Config) : (descend run count ceiling s rest).best.IsCounted count := by
  induction rest generalizing s with
  | nil => exact hs
  | cons config rest ih =>
    rw [descend]
    split
    · exact hs
    · exact ih (attempt_isCounted run count hs config)

/-- From one state and down one ladder, a lower ceiling ends within what a higher one ends with. -/
theorem descend_within_of_le {low high : Nat} (h : low ≤ high) (s : Search) (rest : List Config) :
    (descend run count low s rest).best.Within (descend run count high s rest).best := by
  induction rest generalizing s with
  | nil => exact .refl _
  | cons config rest ih =>
    by_cases hhigh : s.best.tokens ≤ high
    · -- The search under the high ceiling stops here; the other goes on from here, if at all.
      have hstop : descend run count high s (config :: rest) = s := by rw [descend, if_pos hhigh]
      rw [hstop]
      exact descend_within run count low s (config :: rest)
    · have hlow : ¬ s.best.tokens ≤ low := fun hl => hhigh (Nat.le_trans hl h)
      rw [descend, descend, if_neg hhigh, if_neg hlow]
      exact ih _

end Search

/-! ### Fitting -/

/-- What a fit returns is the best result of the search from the first run down the ladder. -/
theorem exists_of_fit_eq_ok {ε : Type} {run : Config → Except ε Abridged} {count : Counter}
    {language : String} {text : Text} {config : Config} {ceiling : Nat} {result : Abridged}
    (h : fit run count language text config ceiling = .ok result) :
    ∃ first, run config = .ok first ∧
      result = (descend run count ceiling ⟨.of count first, 1⟩ (ladder config)).finish language
        (count text) := by
  unfold fit at h
  split at h
  · cases h
  next first hrun => exact ⟨first, hrun, (Except.ok.inj h).symm⟩

/-- **A lower ceiling never gives a longer text**, neither in bytes nor in tokens, whatever is
counted and whichever of the runs behind the first fail. -/
theorem fit_antitone {ε : Type} {run : Config → Except ε Abridged} {count : Counter}
    {language : String} {text : Text} {config : Config} {low high : Nat} {lower higher : Abridged}
    (h : low ≤ high) (hlow : fit run count language text config low = .ok lower)
    (hhigh : fit run count language text config high = .ok higher) :
    lower.text.size ≤ higher.text.size ∧ count lower.text ≤ count higher.text := by
  obtain ⟨first, hfirst, rfl⟩ := exists_of_fit_eq_ok hlow
  obtain ⟨first', hfirst', rfl⟩ := exists_of_fit_eq_ok hhigh
  obtain rfl : first = first' := Except.ok.inj (hfirst.symm.trans hfirst')
  have hstart : (Candidate.of count first).IsCounted count := Candidate.isCounted_of count first
  have hl := descend_isCounted run count low (s := ⟨.of count first, 1⟩) hstart (ladder config)
  have hh := descend_isCounted run count high (s := ⟨.of count first, 1⟩) hstart (ladder config)
  obtain ⟨htokens, hbytes⟩ :=
    descend_within_of_le run count h ⟨.of count first, 1⟩ (ladder config)
  rw [hl, hh] at htokens
  exact ⟨hbytes, htokens⟩

/-- A configuration two steps above the foot of the ladder: literals and the public surface are
left. -/
def nearFoot : Config where
  comments := .bare .stripAll
  functionBodies := { mode := .all }
  imports := { policy := .stripAll }
  literals := ⟨some 16⟩

theorem ladder_nearFoot :
    ladder nearFoot =
      [{ nearFoot with literals := ⟨some 8⟩ },
        { nearFoot with literals := ⟨some 8⟩, publicApiOnly := true }] := by
  rw [ladder_of_tighten (d := { nearFoot with literals := ⟨some 8⟩ }) (by decide),
    ladder_of_tighten (d := { nearFoot with literals := ⟨some 8⟩, publicApiOnly := true })
      (by decide),
    ladder_of_foot (by decide)]

/-- A run whose first step down fails and whose second one leaves less. -/
def stumblingRun (c : Config) : Except Unit Abridged :=
  if c.publicApiOnly then .ok ⟨['a'], {}⟩
  else if c.literals.maxTokens = some 8 then .error ()
  else .ok ⟨['a', 'b', 'c'], {}⟩

/-- Three bytes are within a ceiling of three; under a ceiling of two the search goes past the run
that fails and ends with one byte. -/
theorem fit_antitone_past_failure :
    ∃ lower higher : Abridged, 2 ≤ 3 ∧
      fit stumblingRun Counter.bytes "rust" ['a', 'b', 'c'] nearFoot 2 = .ok lower ∧
      fit stumblingRun Counter.bytes "rust" ['a', 'b', 'c'] nearFoot 3 = .ok higher ∧
      lower.text = ['a'] ∧ higher.text = ['a', 'b', 'c'] ∧
      lower.text.size ≤ higher.text.size ∧
      Counter.bytes lower.text ≤ Counter.bytes higher.text := by
  have hlow : fit stumblingRun Counter.bytes "rust" ['a', 'b', 'c'] nearFoot 2 =
      .ok ((⟨⟨⟨['a'], {}⟩, 1⟩, 3⟩ : Search).finish "rust" 3) := by
    rw [fit, ladder_nearFoot]
    rfl
  have hhigh : fit stumblingRun Counter.bytes "rust" ['a', 'b', 'c'] nearFoot 3 =
      .ok ((⟨⟨⟨['a', 'b', 'c'], {}⟩, 3⟩, 1⟩ : Search).finish "rust" 3) := by
    rw [fit, ladder_nearFoot]
    rfl
  exact ⟨_, _, by decide, hlow, hhigh, rfl, rfl, fit_antitone (by decide) hlow hhigh⟩

end Abridge.Budget
