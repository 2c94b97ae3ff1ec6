import Abridge.Proofs.Budget.Ladder
import Abridge.Proofs.Tally

/-!
The runs of a search, one by one.

A search tries the configurations of the ladder in their order until its best result fits
(`descend_eq_foldl`): each trial is one run, under one configuration and with what was held as best
before it. The best result is the candidate of some trial (`descend_isFrom`), and it fits if and
only if it did from the start or some trial brought in a result that fits and is no longer in bytes
than the one held (`descend_fits_iff`).
-/
namespace Abridge.Budget

/-- A run of a search: the best result before it, if there is one, and its configuration. -/
structure Trial where
  held : Option Candidate
  config : Config
  deriving DecidableEq, Repr

section
variable {ε : Type} (run : Config → Except ε Abridged) (count : Counter) (ceiling : Nat)

/-- The runs of a search from one state down a list of configurations. -/
def trialsFrom : Search → List Config → List Trial
  | _, [] => []
  | s, config :: rest =>
    if s.best.tokens ≤ ceiling then []
    else ⟨some s.best, config⟩ :: trialsFrom (s.attempt run count config) rest

/-- The runs of a fit. -/
def trials (config : Config) : List Trial :=
  ⟨none, config⟩ ::
    match run config with
    | .ok first => trialsFrom run count ceiling ⟨.of count first, 1⟩ (ladder config)
    | .error _ => []

/-- Whether a trial brings in a result that fits and takes the place of the one held. -/
def Trial.Meets (t : Trial) : Prop :=
  ∃ result, run t.config = .ok result ∧ count result.text ≤ ceiling ∧
    ∀ best ∈ t.held, result.text.size ≤ best.result.text.size

variable {run count ceiling} {s : Search} {rest : List Config}

/-! ### What is tried -/

/-- A search is the attempts of its trials, one after the other. -/
theorem descend_eq_foldl (s : Search) (rest : List Config) :
    descend run count ceiling s rest =
      ((trialsFrom run count ceiling s rest).map Trial.config).foldl
        (Search.attempt run count) s := by
  induction rest generalizing s with
  | nil => rfl
  | cons config rest ih =>
    rw [descend, trialsFrom]
    split
    · rfl
    · exact ih _

/-- What is tried is the front of what could be. -/
theorem trialsFrom_isPrefix (s : Search) (rest : List Config) :
    (trialsFrom run count ceiling s rest).map Trial.config <+: rest := by
  induction rest generalizing s with
  | nil => exact List.prefix_rfl
  | cons config rest ih =>
    rw [trialsFrom]
    split
    · exact List.nil_prefix
    · exact (List.prefix_cons_inj config).mpr (ih _)

theorem runs_foldl (s : Search) (configs : List Config) :
    (configs.foldl (Search.attempt run count) s).runs = s.runs + configs.length := by
  induction configs generalizing s with
  | nil => rfl
  | cons config rest ih =>
    have hattempt : (s.attempt run count config).runs = s.runs + 1 := by
      unfold Search.attempt
      split <;> rfl
    rw [List.foldl_cons, ih, hattempt, List.length_cons]
    omega

theorem length_trials_le (config : Config) :
    (trials run count ceiling config).length ≤ 19 := by
  unfold trials
  rw [List.length_cons]
  split
  next first _ =>
    have hprefix : (trialsFrom run count ceiling ⟨.of count first, 1⟩ (ladder config)).map
        Trial.config <+: ladder config := trialsFrom_isPrefix _ _
    have hlength := hprefix.length_le
    rw [List.length_map] at hlength
    have hladder := length_ladder_le config
    omega
  · exact Nat.succ_le_succ (Nat.zero_le _)

theorem reaches_of_mem_trials {config : Config} {t : Trial}
    (h : t ∈ trials run count ceiling config) : Reaches config t.config := by
  unfold trials at h
  rcases List.mem_cons.mp h with rfl | h
  · exact .refl
  · split at h
    next first _ =>
      exact reaches_of_mem_ladder
        ((trialsFrom_isPrefix _ _).subset (List.mem_map_of_mem h))
    · cases h

/-! ### Where the best result comes from -/

/-- Whether a candidate is what a run left under one of some configurations. -/
def Candidate.IsFrom (run : Config → Except ε Abridged) (count : Counter) (configs : List Config)
    (a : Candidate) : Prop :=
  ∃ config ∈ configs, ∃ result, run config = .ok result ∧ a = .of count result

theorem foldl_isFrom {tried configs : List Config} (h : s.best.IsFrom run count tried) :
    (configs.foldl (Search.attempt run count) s).best.IsFrom run count (tried ++ configs) := by
  induction configs generalizing s tried with
  | nil => rwa [List.append_nil]
  | cons config rest ih =>
    have hkeep : s.best.IsFrom run count (tried ++ [config]) := by
      obtain ⟨c, hc, hresult⟩ := h
      exact ⟨c, List.mem_append_left _ hc, hresult⟩
    have hstep : (s.attempt run count config).best.IsFrom run count (tried ++ [config]) := by
      unfold Search.attempt
      split
      next result hrun =>
        rcases Candidate.improve_eq_or s.best (.of count result) with heq | heq <;> rw [heq]
        · exact ⟨config, by simp, result, hrun, rfl⟩
        · exact hkeep
      · exact hkeep
    have := ih hstep
    rwa [List.append_assoc, List.singleton_append] at this

/-- The best result of a search is that of some run. -/
theorem descend_isFrom {config : Config} {first : Abridged} (hfirst : run config = .ok first) :
    (descend run count ceiling ⟨.of count first, 1⟩ (ladder config)).best.IsFrom run count
      ((trials run count ceiling config).map Trial.config) := by
  have hstart : (Candidate.of count first).IsFrom run count [config] :=
    ⟨config, List.mem_singleton_self _, first, hfirst, rfl⟩
  rw [descend_eq_foldl, trials, hfirst]
  exact foldl_isFrom (s := ⟨.of count first, 1⟩) hstart

/-! ### When the best result fits -/

/-- If the best result does not fit, it does after an attempt that brings in one that does. -/
theorem attempt_fits_iff (h : ¬ s.best.tokens ≤ ceiling) (config : Config) :
    (s.attempt run count config).best.tokens ≤ ceiling ↔
      (⟨some s.best, config⟩ : Trial).Meets run count ceiling := by
  unfold Search.attempt Trial.Meets
  simp only [Option.mem_some_iff, forall_eq']
  cases hrun : run config with
  | error e => simpa using h
  | ok result =>
    simp only [Except.ok.injEq, exists_eq_left', Candidate.improve]
    -- A result that fits has fewer tokens than the one held, so its bytes decide.
    split
    next hle => exact ⟨fun hfits => ⟨hfits, hle.2⟩, And.left⟩
    next hnot =>
      refine ⟨fun hfits => absurd hfits h, fun ⟨hfits, hbytes⟩ => absurd ⟨?_, hbytes⟩ hnot⟩
      exact Nat.le_trans hfits (Nat.le_of_not_le h)

theorem descend_fits_iff (s : Search) (rest : List Config) :
    (descend run count ceiling s rest).best.tokens ≤ ceiling ↔
      s.best.tokens ≤ ceiling ∨
        ∃ t ∈ trialsFrom run count ceiling s rest, t.Meets run count ceiling := by
  induction rest generalizing s with
  | nil => simp [descend, trialsFrom]
  | cons config rest ih =>
    by_cases h : s.best.tokens ≤ ceiling
    · rw [descend, if_pos h]
      exact ⟨.inl, fun _ => h⟩
    · rw [descend, if_neg h, ih, attempt_fits_iff h, trialsFrom, if_neg h]
      simp [h]

/-- What is held at a trial behind the first is counted and does not fit. -/
theorem held_of_mem_trialsFrom (hs : s.best.IsCounted count) {t : Trial}
    (h : t ∈ trialsFrom run count ceiling s rest) :
    ∃ best, t.held = some best ∧ best.IsCounted count ∧ ceiling < best.tokens := by
  induction rest generalizing s with
  | nil => cases h
  | cons config rest ih =>
    rw [trialsFrom] at h
    split at h
    · cases h
    next hover =>
      rcases List.mem_cons.mp h with rfl | h
      · exact ⟨s.best, rfl, hs, Nat.lt_of_not_le hover⟩
      · exact ih (attempt_isCounted run count hs config) h

end

end Abridge.Budget
