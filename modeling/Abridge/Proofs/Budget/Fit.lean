import Abridge.Pipeline
import Abridge.Profile.Table
import Abridge.Proofs.Budget.Trials
import Abridge.Proofs.Reduction.Run
import Abridge.Proofs.Tree.WellFormed

/-!
What a fit returns, and when it stays under the ceiling.

A fit fails only with its first run, and returns what one of its runs left, with the account of the
search beside the counts of that run (`fit_is_one_run`). A run that fits is not always returned: one
that is longer in bytes than the best result before it is passed over
(`fit_passes_over_fitting_run`). Only such runs are (`fit_meets_ceiling_iff`).
-/
namespace Abridge.Budget

section
variable {ε : Type} {run : Config → Except ε Abridged} {count : Counter} {language : String}
  {text : Text} {config : Config} {ceiling : Nat}

theorem fit_of_error {e : ε} (h : run config = .error e) :
    fit run count language text config ceiling = .error e := by
  rw [fit, h]

theorem fit_of_ok {first : Abridged} (h : run config = .ok first) :
    fit run count language text config ceiling =
      .ok ((descend run count ceiling ⟨.of count first, 1⟩ (ladder config)).finish language
        (count text)) := by
  rw [fit, h]

theorem fit_eq_error_iff {e : ε} :
    fit run count language text config ceiling = .error e ↔ run config = .error e := by
  cases h : run config with
  | error e' => rw [fit_of_error h]
  | ok first => simp [fit_of_ok h]

/-! ### The account of a search -/

/-- The counters that a fit adds to those of the run. -/
def accountKeys (language : String) : List String :=
  [language ++ ".budget.tokens_before", language ++ ".budget.tokens_after",
    language ++ ".budget.iterations"]

/-- Finishing overwrites the counters of the account, which have names of their own, and leaves the
others alone. -/
theorem get?_finish (language : String) (before : Nat) (s : Search) :
    let tally := (s.finish language before).tally
    tally.get? (language ++ ".budget.tokens_before") = some before ∧
    tally.get? (language ++ ".budget.tokens_after") = some s.best.tokens ∧
    tally.get? (language ++ ".budget.iterations") = some s.runs ∧
    ∀ key, key ∉ accountKeys language → tally.get? key = s.best.result.tally.get? key := by
  have hapart : ∀ a b : String, language ++ a = language ++ b ↔ a = b := by
    intro a b
    simp [← String.toList_inj]
  unfold Search.finish
  simp only [Tally.get?_set, hapart]
  refine ⟨by simp, by simp, by simp, fun key hkey => ?_⟩
  simp only [accountKeys, List.mem_cons, List.not_mem_nil, or_false, not_or] at hkey
  rw [if_neg (Ne.symm hkey.2.2), if_neg (Ne.symm hkey.2.1), if_neg (Ne.symm hkey.1)]

theorem runs_descend (first : Abridged) (h : run config = .ok first) :
    (descend run count ceiling ⟨.of count first, 1⟩ (ladder config)).runs =
      (trials run count ceiling config).length := by
  rw [descend_eq_foldl, runs_foldl, trials, h, List.length_map, List.length_cons, Nat.add_comm]

end

/-- **A fit fails with its first run only, and returns one genuine run otherwise.** Its text and its
counts are those of a single successful run, under a configuration that is reached by tightening the
given one; to the counts it adds the tokens of the text it was given, those of the text that it
returns, and the number of runs, which is nineteen at most. -/
theorem fit_is_one_run {ε : Type} (run : Config → Except ε Abridged) (count : Counter)
    (language : String) (text : Text) (config : Config) (ceiling : Nat) :
    let runs := trials run count ceiling config
    (∀ e, fit run count language text config ceiling = .error e ↔ run config = .error e) ∧
    ((∃ e, run config = .error e) ∨
      ∃ p, fit run count language text config ceiling = .ok p ∧
        (∃ t ∈ runs, ∃ result, Reaches config t.config ∧ run t.config = .ok result ∧
          p.text = result.text ∧
          ∀ key, key ∉ accountKeys language → p.tally.get? key = result.tally.get? key) ∧
        p.tally.get? (language ++ ".budget.tokens_before") = some (count text) ∧
        p.tally.get? (language ++ ".budget.tokens_after") = some (count p.text) ∧
        p.tally.get? (language ++ ".budget.iterations") = some runs.length ∧
        runs.length ≤ 19) := by
  intro runs
  refine ⟨fun e => fit_eq_error_iff, ?_⟩
  cases hrun : run config with
  | error e => exact .inl ⟨e, rfl⟩
  | ok first =>
    let s := descend run count ceiling ⟨.of count first, 1⟩ (ladder config)
    obtain ⟨c, hc, result, hresult, hbest⟩ : s.best.IsFrom run count (runs.map Trial.config) :=
      descend_isFrom hrun
    obtain ⟨t, ht, rfl⟩ := List.mem_map.mp hc
    obtain ⟨hbefore, hafter, hiterations, hothers⟩ := get?_finish language (count text) s
    have htext : (s.finish language (count text)).text = result.text :=
      congrArg (·.result.text) hbest
    refine .inr ⟨s.finish language (count text), fit_of_ok hrun,
      ⟨t, ht, result, reaches_of_mem_trials ht, hresult, htext, fun key hkey => ?_⟩,
      hbefore, ?_, ?_, length_trials_le config⟩
    · rw [hothers key hkey, hbest]
      rfl
    · rw [hafter, htext, hbest]
      rfl
    · rw [hiterations, runs_descend first hrun]

/-- **A fit stays under the ceiling if and only if some run does that is not passed over**, because
its text has no more bytes than the best result before it. Where fewer bytes never count for more
tokens, no run that fits is passed over. -/
theorem fit_meets_ceiling_iff {ε : Type} {run : Config → Except ε Abridged} {count : Counter}
    {language : String} {text : Text} {config : Config} {ceiling : Nat} {p : Abridged}
    (h : fit run count language text config ceiling = .ok p) :
    (count p.text ≤ ceiling ↔
      ∃ t ∈ trials run count ceiling config, t.Meets run count ceiling) ∧
    ((∀ a b : Text, a.size ≤ b.size → count a ≤ count b) →
      (∃ t ∈ trials run count ceiling config, ∃ result,
        run t.config = .ok result ∧ count result.text ≤ ceiling) →
      count p.text ≤ ceiling) := by
  obtain ⟨first, hfirst, rfl⟩ := exists_of_fit_eq_ok h
  have hcounted : (Candidate.of count first).IsCounted count := Candidate.isCounted_of count first
  let s := descend run count ceiling ⟨.of count first, 1⟩ (ladder config)
  have hfits : count s.best.result.text ≤ ceiling ↔
      ∃ t ∈ trials run count ceiling config, t.Meets run count ceiling := by
    rw [← descend_isCounted run count ceiling (s := ⟨.of count first, 1⟩) hcounted (ladder config),
      descend_fits_iff, trials, hfirst]
    simp [Trial.Meets, hfirst, Candidate.of]
  refine ⟨hfits, ?_⟩
  rintro hmono ⟨t, ht, result, hresult, hle⟩
  refine hfits.mpr ⟨t, ht, result, hresult, hle, fun best hbest => ?_⟩
  rw [trials, hfirst] at ht
  rcases List.mem_cons.mp ht with rfl | ht
  · cases hbest
  · obtain ⟨held, hheld, hcount, hover⟩ :=
      held_of_mem_trialsFrom (s := ⟨.of count first, 1⟩) hcounted ht
    obtain rfl : held = best := Option.some.inj (hheld.symm.trans hbest)
    refine Nat.le_of_not_le fun hlonger => ?_
    have := hmono _ _ hlonger
    rw [Candidate.IsCounted] at hcount
    omega

/-- A search that passes over a run that fails and ends with one that fits. -/
theorem fit_meets_ceiling_past_failure :
    ∃ p, fit stumblingRun Counter.bytes "rust" ['a', 'b', 'c'] nearFoot 2 = .ok p ∧
      Counter.bytes p.text ≤ 2 := by
  have hok : fit stumblingRun Counter.bytes "rust" ['a', 'b', 'c'] nearFoot 2 =
      .ok ((⟨⟨⟨['a'], {}⟩, 1⟩, 3⟩ : Search).finish "rust" 3) := by
    rw [fit, ladder_nearFoot]
    rfl
  refine ⟨_, hok, (fit_meets_ceiling_iff hok).2 (fun _ _ => id) ?_⟩
  have htrials : trials stumblingRun Counter.bytes 2 nearFoot =
      [⟨none, nearFoot⟩, ⟨some ⟨⟨['a', 'b', 'c'], {}⟩, 3⟩, { nearFoot with literals := ⟨some 8⟩ }⟩,
        ⟨some ⟨⟨['a', 'b', 'c'], {}⟩, 3⟩,
          { nearFoot with literals := ⟨some 8⟩, publicApiOnly := true }⟩] := by
    rw [trials, ladder_nearFoot]
    rfl
  rw [htrials]
  exact ⟨_, List.mem_cons_of_mem _ (List.mem_cons_of_mem _ List.mem_cons_self), ⟨['a'], {}⟩, rfl,
    by decide⟩

/-! ### A run that is passed over -/

/-- A constant of a file in Rust, with blanks between all its tokens. -/
def spacedConstant : Tree :=
  .named "source_file" 0 19 [
    .named "const_item" 0 18 [
      .token "const" 0 5,
      .inField "name" (.named "identifier" 6 7 []),
      .token ":" 8 9,
      .inField "type" (.named "primitive_type" 10 12 []),
      .token "=" 13 14,
      .inField "value" (.named "integer_literal" 15 16 []),
      .token ";" 17 18]]

/-- Nothing is left to tighten but the surface. -/
def spacedSetting : Pipeline.Setting where
  parser := fun _ _ => some spacedConstant
  profile := Language.rust.profile
  config := { nearFoot with literals := ⟨some 8⟩ }
  count := Counter.words

def spacedText : Text :=
  "const A : u8 = 1 ;\n".toList

def spacedSurface : Config :=
  { spacedSetting.config with publicApiOnly := true }

def spacedRun (config : Config) : Except Error Abridged :=
  Pipeline.run { spacedSetting with config } spacedText

theorem ladder_spaced : ladder spacedSetting.config = [spacedSurface] := by
  rw [ladder_of_tighten (d := spacedSurface) (by decide), ladder_of_foot (by decide)]

theorem spacedRun_config : spacedRun spacedSetting.config = .ok ⟨spacedText, {}⟩ :=
  eq_ok_of_toOption (by decide +kernel)

theorem spacedRun_surface :
    spacedRun spacedSurface =
      .ok ⟨"// … variable omitted\n".toList, ⟨[("rust.removed.variable", 1)]⟩⟩ :=
  eq_ok_of_toOption (by decide +kernel)

/-- Of the two runs on the constant, the second leaves four words instead of seven, but more bytes:
it fits under a ceiling of five, and the first is returned. -/
theorem fit_passes_over_fitting_run :
    ∃ p, Pipeline.fit spacedSetting spacedText 5 = .ok p ∧ Counter.words p.text = 7 ∧
      ∃ t ∈ trials spacedRun Counter.words 5 spacedSetting.config, ∃ result,
        spacedRun t.config = .ok result ∧ Counter.words result.text = 4 := by
  have hover : ¬ (Candidate.of Counter.words ⟨spacedText, {}⟩).tokens ≤ 5 := by decide
  have hdescend : descend spacedRun Counter.words 5 ⟨.of Counter.words ⟨spacedText, {}⟩, 1⟩
      (ladder spacedSetting.config) = ⟨.of Counter.words ⟨spacedText, {}⟩, 2⟩ := by
    rw [ladder_spaced, descend, if_neg hover, Search.attempt, spacedRun_surface]
    decide
  have htrials : trials spacedRun Counter.words 5 spacedSetting.config =
      [⟨none, spacedSetting.config⟩,
        ⟨some (.of Counter.words ⟨spacedText, {}⟩), spacedSurface⟩] := by
    rw [trials, spacedRun_config]
    simp only [ladder_spaced, trialsFrom, if_neg hover]
  have hfit : Pipeline.fit spacedSetting spacedText 5 =
      .ok ((⟨.of Counter.words ⟨spacedText, {}⟩, 2⟩ : Search).finish "rust" 7) := by
    show fit spacedRun Counter.words "rust" spacedText spacedSetting.config 5 = _
    rw [fit_of_ok spacedRun_config, hdescend]
    rfl
  exact ⟨_, hfit, by decide, _, htrials ▸ List.mem_cons_of_mem _ List.mem_cons_self, _,
    spacedRun_surface, by decide⟩

end Abridge.Budget
