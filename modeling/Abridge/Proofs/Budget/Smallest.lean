import Abridge.Proofs.Budget.Fit

/-!
Fits with a counter that goes by length.

Where fewer bytes never count for more tokens, the two measures of a result agree: an attempt always
ends with the shorter of the best result and the new one (`attempt_size_le`), and it fits if and
only if the new one does (`attempt_fits_iff_fits`). So a search stops at the first configuration
whose own result fits, and what it returns is the shortest of all results that it has seen
(`fit_is_smallest`).
-/
namespace Abridge

/-- Whether fewer bytes never count for more tokens. -/
def Counter.FollowsSize (count : Counter) : Prop :=
  ∀ a b : Text, a.size ≤ b.size → count a ≤ count b

theorem Counter.followsSize_bytes : Counter.bytes.FollowsSize :=
  fun _ _ h => h

theorem Counter.followsSize_quarterBytes : Counter.quarterBytes.FollowsSize :=
  fun _ _ h => Nat.div_le_div_right h

namespace Budget

section
variable {ε : Type} {run : Config → Except ε Abridged} {count : Counter} {ceiling : Nat}
  {s : Search} {config : Config}

/-- Whether the run under a configuration leaves a text that fits. -/
def fits (run : Config → Except ε Abridged) (count : Counter) (ceiling : Nat) (config : Config) :
    Bool :=
  match run config with
  | .ok result => count result.text ≤ ceiling
  | .error _ => false

theorem fits_iff : fits run count ceiling config = true ↔
    ∃ result, run config = .ok result ∧ count result.text ≤ ceiling := by
  unfold fits
  cases run config <;> simp

/-- The configurations through the first that fits, or all of them where none does. -/
def throughFirstFit (run : Config → Except ε Abridged) (count : Counter) (ceiling : Nat)
    (configs : List Config) : List Config :=
  configs.takeWhile (fun c => !fits run count ceiling c) ++
    (configs.find? (fits run count ceiling)).toList

theorem throughFirstFit_cons (rest : List Config) :
    throughFirstFit run count ceiling (config :: rest) =
      config :: if fits run count ceiling config then [] else
        throughFirstFit run count ceiling rest := by
  unfold throughFirstFit
  cases h : fits run count ceiling config <;> simp [h]

/-! ### One attempt -/

theorem attempt_size_le (hcount : count.FollowsSize) (hs : s.best.IsCounted count)
    {result : Abridged} (hrun : run config = .ok result) :
    (s.attempt run count config).best.result.text.size ≤ result.text.size := by
  rw [Search.attempt, hrun]
  show (s.best.improve (.of count result)).result.text.size ≤ _
  unfold Candidate.improve
  split
  · exact Nat.le_refl _
  next hnot =>
    -- A result that is passed over has more bytes, for with no more it has no more tokens.
    refine Nat.le_of_not_le fun hle => hnot ⟨?_, hle⟩
    rw [hs]
    exact hcount _ _ hle

theorem attempt_fits_iff_fits (hcount : count.FollowsSize) (hs : s.best.IsCounted count)
    (hover : ¬ s.best.tokens ≤ ceiling) (config : Config) :
    (s.attempt run count config).best.tokens ≤ ceiling ↔ fits run count ceiling config = true := by
  rw [attempt_fits_iff hover, fits_iff]
  constructor
  · rintro ⟨result, hrun, hle, -⟩
    exact ⟨result, hrun, hle⟩
  · rintro ⟨result, hrun, hle⟩
    refine ⟨result, hrun, hle, fun best hbest => Nat.le_of_not_le fun hlonger => hover ?_⟩
    obtain rfl : s.best = best := Option.some.inj hbest
    rw [hs]
    exact Nat.le_trans (hcount _ _ hlonger) hle

/-! ### All attempts of a search -/

theorem trialsFrom_of_fits (h : s.best.tokens ≤ ceiling) (rest : List Config) :
    trialsFrom run count ceiling s rest = [] := by
  cases rest with
  | nil => rfl
  | cons config rest => rw [trialsFrom, if_pos h]

/-- A search whose best result does not fit yet goes on to the first configuration whose own result
does. -/
theorem configs_trialsFrom (hcount : count.FollowsSize) (hs : s.best.IsCounted count)
    (hover : ¬ s.best.tokens ≤ ceiling) (rest : List Config) :
    (trialsFrom run count ceiling s rest).map Trial.config =
      throughFirstFit run count ceiling rest := by
  induction rest generalizing s with
  | nil => rfl
  | cons config rest ih =>
    have hnext : (s.attempt run count config).best.tokens ≤ ceiling ↔
        fits run count ceiling config = true := attempt_fits_iff_fits hcount hs hover config
    rw [trialsFrom, if_neg hover, List.map_cons, throughFirstFit_cons]
    split
    next hfits => rw [trialsFrom_of_fits (hnext.mpr hfits), List.map_nil]
    next hnot => rw [ih (attempt_isCounted run count hs config) (mt hnext.mp hnot)]

theorem configs_trials (hcount : count.FollowsSize) {first : Abridged}
    (hfirst : run config = .ok first) :
    (trials run count ceiling config).map Trial.config =
      throughFirstFit run count ceiling (config :: ladder config) := by
  have hfits : fits run count ceiling config = true ↔ count first.text ≤ ceiling := by
    simp [fits_iff, hfirst]
  have hstart : (Candidate.of count first).IsCounted count := Candidate.isCounted_of count first
  simp only [trials, hfirst, List.map_cons, throughFirstFit_cons]
  by_cases h : fits run count ceiling config = true
  · rw [if_pos h, trialsFrom_of_fits (s := ⟨.of count first, 1⟩) (hfits.mp h), List.map_nil]
  · rw [if_neg h, configs_trialsFrom (s := ⟨.of count first, 1⟩) hcount hstart (mt hfits.mpr h)]

/-- No run of a search leaves less than the search ends with. -/
theorem descend_size_le (hcount : count.FollowsSize) (hs : s.best.IsCounted count)
    {rest : List Config} {t : Trial} (ht : t ∈ trialsFrom run count ceiling s rest)
    {result : Abridged} (hrun : run t.config = .ok result) :
    (descend run count ceiling s rest).best.result.text.size ≤ result.text.size := by
  induction rest generalizing s with
  | nil => cases ht
  | cons config rest ih =>
    rw [trialsFrom] at ht
    split at ht
    · cases ht
    next hover =>
      rw [descend, if_neg hover]
      rcases List.mem_cons.mp ht with rfl | ht
      · exact Nat.le_trans (descend_within run count ceiling _ rest).2
          (attempt_size_le hcount hs hrun)
      · exact ih (attempt_isCounted run count hs config) ht

theorem descend_size_le_of_mem_trials (hcount : count.FollowsSize) {first : Abridged}
    (hfirst : run config = .ok first) {t : Trial} (ht : t ∈ trials run count ceiling config)
    {result : Abridged} (hrun : run t.config = .ok result) :
    (descend run count ceiling ⟨.of count first, 1⟩ (ladder config)).best.result.text.size ≤
      result.text.size := by
  rw [trials, hfirst] at ht
  rcases List.mem_cons.mp ht with rfl | ht
  · obtain rfl : first = result := Except.ok.inj (hfirst.symm.trans hrun)
    exact (descend_within run count ceiling _ (ladder config)).2
  · exact descend_size_le hcount (Candidate.isCounted_of count first) ht hrun

end

/-- **With a counter that goes by bytes, a fit returns the smallest result that it has seen.** If
its first run succeeds, it tries the configurations of the ladder through the first whose own result
fits, or all of them where none does, and says in its account how many they are. It returns what one
of these runs left, and none of them that succeeds left fewer bytes or fewer tokens. -/
theorem fit_is_smallest {ε : Type} {run : Config → Except ε Abridged} {count : Counter}
    {config : Config} {first : Abridged} (language : String) (text : Text) (ceiling : Nat)
    (hcount : count = Counter.quarterBytes ∨ count = Counter.bytes)
    (hfirst : run config = .ok first) :
    let tried := throughFirstFit run count ceiling (config :: ladder config)
    (trials run count ceiling config).map Trial.config = tried ∧
    ∃ p, fit run count language text config ceiling = .ok p ∧
      p.tally.get? (language ++ ".budget.iterations") = some tried.length ∧
      (∃ c ∈ tried, ∃ result, run c = .ok result ∧ p.text = result.text) ∧
      ∀ c ∈ tried, ∀ result, run c = .ok result →
        p.text.size ≤ result.text.size ∧ count p.text ≤ count result.text := by
  intro tried
  have hfollows : count.FollowsSize := by
    rcases hcount with rfl | rfl
    · exact Counter.followsSize_quarterBytes
    · exact Counter.followsSize_bytes
  have htried : (trials run count ceiling config).map Trial.config = tried :=
    configs_trials hfollows hfirst
  let s := descend run count ceiling ⟨.of count first, 1⟩ (ladder config)
  refine ⟨htried, s.finish language (count text), fit_of_ok hfirst, ?_, ?_, ?_⟩
  · obtain ⟨-, -, hiterations, -⟩ := get?_finish language (count text) s
    rw [hiterations, runs_descend first hfirst, ← htried, List.length_map]
  · obtain ⟨c, hc, result, hresult, hbest⟩ : s.best.IsFrom run count
        ((trials run count ceiling config).map Trial.config) := descend_isFrom hfirst
    exact ⟨c, htried ▸ hc, result, hresult, congrArg (·.result.text) hbest⟩
  · intro c hc result hresult
    rw [← htried] at hc
    obtain ⟨t, ht, rfl⟩ := List.mem_map.mp hc
    have hsize : s.best.result.text.size ≤ result.text.size :=
      descend_size_le_of_mem_trials hfollows hfirst ht hresult
    exact ⟨hsize, hfollows _ _ hsize⟩

/-- A run that leaves more in its first step down, and less in its second one. -/
def swellingRun (c : Config) : Except Unit Abridged :=
  if c.publicApiOnly then .ok ⟨['a', 'b'], {}⟩
  else if c.literals.maxTokens = some 8 then .ok ⟨['a', 'b', 'c', 'd', 'e', 'f', 'g', 'h'], {}⟩
  else .ok ⟨['a', 'b', 'c', 'd', 'e'], {}⟩

/-- Under a ceiling of no token the search goes past the longer text, and ends after three runs with
two bytes. -/
theorem fit_is_smallest_past_growth :
    swellingRun nearFoot = .ok ⟨['a', 'b', 'c', 'd', 'e'], {}⟩ ∧
    ∃ p, fit swellingRun Counter.quarterBytes "rust" ['a', 'b', 'c', 'd', 'e'] nearFoot 0 = .ok p ∧
      p.tally.get? ("rust" ++ ".budget.iterations") = some 3 ∧ p.text.size ≤ 2 := by
  have hfirst : swellingRun nearFoot = .ok ⟨['a', 'b', 'c', 'd', 'e'], {}⟩ := rfl
  have htried : throughFirstFit swellingRun Counter.quarterBytes 0 (nearFoot :: ladder nearFoot) =
      nearFoot :: ladder nearFoot := by
    rw [ladder_nearFoot]
    rfl
  obtain ⟨-, p, hp, hiterations, -, hleast⟩ :=
    fit_is_smallest "rust" ['a', 'b', 'c', 'd', 'e'] 0 (.inl rfl) hfirst
  rw [htried, ladder_nearFoot] at hiterations hleast
  refine ⟨hfirst, p, hp, hiterations, ?_⟩
  exact (hleast _ (List.mem_cons_of_mem _ (List.mem_cons_of_mem _ List.mem_cons_self))
    ⟨['a', 'b'], {}⟩ rfl).1

end Budget

end Abridge
