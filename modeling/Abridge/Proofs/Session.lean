import Abridge.Proofs.Budget.Fit
import Abridge.Proofs.Config.Accepted
import Abridge.Proofs.Registry
import Abridge.Session

/-!
Files are abridged without fail under settings that are accepted.

A run can fail where a pattern cannot be read, where the parser gives no tree, or where a language
lacks a query. Readable configurations rule out the first (`exists_prepare`), and no language lacks
a query (`isSome_query?`). What remains is asked of the parser.
-/
namespace Abridge

namespace Job
variable (job : Job) (name : String) (hname : name ∈ requiredQueries)
include hname

theorem exists_query : ∃ captures, job.query name = .ok captures := by
  obtain ⟨query, hquery⟩ :=
    Option.isSome_iff_exists.mp (job.document.language.isSome_query? name hname)
  refine ⟨job.document.capturesOf query.selectors, mapError_eq_ok _ ?_⟩
  rw [Document.query, show job.document.grammar.query? name = some query from hquery]

theorem exists_queryNodes (label : String) : ∃ nodes, job.queryNodes name label = .ok nodes := by
  obtain ⟨captures, hcaptures⟩ := job.exists_query name hname
  refine ⟨(captures.filter (·.label == label)).map (·.node), mapError_eq_ok _ ?_⟩
  rw [Document.queryNodes, eq_ok_of_mapError_eq_ok hcaptures]
  rfl

end Job

/-! ### Runs -/

namespace Reduction
variable {r : Reduction} (hr : r ∈ Pipeline.reductions) {config : Config}
  (hconfig : config.IsReadable)
include hr hconfig

/-- The patterns that a reduction reads are among those that are checked, and then it can reduce
any document. -/
theorem exists_prepare :
    ∃ reduce, r.prepare config = .ok reduce ∧ ∀ job, ∃ o, reduce job = .ok o := by
  have hread : ∀ field ∈ config.patternFields, ∃ ps, compilePatterns field.2 = .ok ps := hconfig
  simp only [Config.patternFields, List.forall_mem_cons] at hread
  obtain ⟨⟨keep, hkeep⟩, ⟨strip, hstrip⟩, ⟨names, hnames⟩, ⟨annotations, hannotations⟩,
    ⟨external, hexternal⟩, -⟩ := hread
  simp only [Pipeline.reductions, List.mem_cons, List.not_mem_nil, or_false] at hr
  rcases hr with rfl | rfl | rfl | rfl | rfl
  · refine ⟨_, prepare_imports hexternal, fun job => ?_⟩
    obtain ⟨found, hfound⟩ := job.exists_queryNodes "imports" (by decide) "import"
    exact ⟨_, by rw [Import.reduce, hfound]; rfl⟩
  · refine ⟨_, prepare_comments hkeep hstrip, fun job => ?_⟩
    obtain ⟨found, hfound⟩ := job.exists_queryNodes "comments" (by decide) "comment"
    exact ⟨_, by simp only [Comment.reduce, hfound]; rfl⟩
  · refine ⟨Literal.reduce, rfl, fun job => ?_⟩
    unfold Literal.reduce
    split
    · exact ⟨_, rfl⟩
    · obtain ⟨captures, hcaptures⟩ := job.exists_query "literals" (by decide)
      exact ⟨_, by rw [hcaptures]; rfl⟩
  · refine ⟨_, prepare_functionBodies hnames hannotations, fun job => ?_⟩
    obtain ⟨bodies, hbodies⟩ := job.exists_queryNodes "functions" (by decide) "body"
    exact ⟨_, by rw [Body.reduce, hbodies]; rfl⟩
  · exact ⟨Declaration.reduce, rfl, fun job => ⟨_, rfl⟩⟩

end Reduction

namespace Pipeline
variable {s : Setting} (hparser : ∀ language text, (s.parser language text).isSome = true)
  (hconfig : s.config.IsReadable)
include hparser hconfig

omit hconfig in
theorem exists_parse (text : Text) : ∃ d, s.parse text = .ok d := by
  obtain ⟨tree, htree⟩ := Option.isSome_iff_exists.mp (hparser s.profile.language text)
  exact ⟨_, by rw [Setting.parse, Document.parse, htree]⟩

omit hconfig in
theorem exists_proceed (sofar : Progress) (o : Outcome) : ∃ next, s.proceed sofar o = .ok next := by
  unfold Setting.proceed
  cases o.text with
  | none => exact ⟨_, rfl⟩
  | some text =>
    obtain ⟨document, hdocument⟩ := exists_parse hparser (s := s) text
    exact ⟨_, by rw [Option.elim_some, hdocument]; rfl⟩

theorem exists_advance {reduction : Reduction} (hreduction : reduction ∈ reductions)
    (sofar : Progress) : ∃ next, s.advance sofar reduction = .ok next := by
  unfold Setting.advance
  split
  · obtain ⟨reduce, hprepare, hreduce⟩ := Reduction.exists_prepare hreduction hconfig
    obtain ⟨o, ho⟩ := hreduce (s.job sofar.document)
    have hrun : reduction.run (s.job sofar.document) = .ok o :=
      (Reduction.run_of_prepare hprepare).trans ho
    rw [hrun]
    exact exists_proceed hparser sofar o
  · exact ⟨sofar, rfl⟩

theorem exists_run (text : Text) : ∃ a, run s text = .ok a := by
  have hfold : ∀ rs : List Reduction, (∀ r ∈ rs, r ∈ reductions) → ∀ sofar,
      ∃ next, rs.foldlM s.advance sofar = .ok next := by
    intro rs hrs
    induction rs with
    | nil => exact fun sofar => ⟨sofar, rfl⟩
    | cons r rest ih =>
      intro sofar
      obtain ⟨mid, hmid⟩ := exists_advance hparser hconfig (hrs r List.mem_cons_self) sofar
      obtain ⟨next, hnext⟩ := ih (fun r' hr' => hrs r' (List.mem_cons_of_mem r hr')) mid
      exact ⟨next, by rw [List.foldlM_cons, hmid]; exact hnext⟩
  obtain ⟨document, hdocument⟩ := exists_parse hparser (s := s) text
  obtain ⟨result, hresult⟩ := hfold reductions (fun _ hr => hr) ⟨document, {}⟩
  rw [run, hdocument]
  show ∃ a, (reductions.foldlM s.advance ⟨document, {}⟩ >>= _) = .ok a
  rw [hresult]
  exact ⟨_, rfl⟩

theorem exists_fit (text : Text) (ceiling : Nat) : ∃ a, fit s text ceiling = .ok a := by
  obtain ⟨first, hfirst⟩ := exists_run hparser hconfig text
  exact ⟨_, Budget.fit_of_ok hfirst⟩

end Pipeline

/-! ### Files -/

namespace Session
variable {s : Session}

theorem exists_configFor {profile : Profile} {file : SourceFile} {resolved : Config}
    (hresolved : s.settings.resolve profile.language.name file.overrides = .ok resolved)
    (hreadable : resolved.IsReadable) :
    ∃ config, s.configFor profile file = .ok config ∧ config.IsReadable := by
  let roots := (profile.rootsFor file.path).map String.ofList
  let config : Config :=
    { resolved with
      imports := { resolved.imports with localRoots := resolved.imports.localRoots ++ roots } }
  have hconfig : s.configFor profile file = .ok config := by
    rw [configFor, hresolved]
    rfl
  exact ⟨config, hconfig, hreadable⟩

/-- With a ceiling the budget is met, and without one the configuration is run as it is. -/
theorem process_eq {file : SourceFile} {profile : Profile} {config : Config}
    (hprofile : s.registry.forPath file.path = .ok profile)
    (hconfig : s.configFor profile file = .ok config) :
    s.process file = (config.budget.maxTokens.elim
      (Pipeline.run ⟨s.parser, profile, config, s.count⟩ file.text)
      (Pipeline.fit ⟨s.parser, profile, config, s.count⟩ file.text)).mapError
        (Error.atPath file.path.toString) := by
  unfold process
  rw [hprofile]
  show (s.configFor profile file >>= _) = _
  rw [hconfig]
  show Except.mapError _ _ = _
  cases config.budget.maxTokens <;> rfl

/-- **Settings that are accepted make no file fail.** Every language has a configuration; and a
file in a language of the registry is abridged, with or without a ceiling, unless its own overrides
are refused. Neither would a run fail under any configuration on the ladder below that of the
file. -/
theorem accepted_settings_never_fail {json : Text}
    (hsettings : Settings.ofText json = .ok s.settings)
    (hparser : ∀ language text, (s.parser language text).isSome = true) :
    (∀ language, ∃ config, s.settings.resolve language none = .ok config) ∧
    ∀ file profile, s.registry.forPath file.path = .ok profile →
      (∃ config, s.settings.resolve profile.language.name file.overrides = .ok config) →
      (∃ a, s.process file = .ok a) ∧
      ∃ config, s.configFor profile file = .ok config ∧ ∀ c, Budget.Reaches config c →
        ∃ a, Pipeline.run ⟨s.parser, profile, c, s.count⟩ file.text = .ok a := by
  have haccepted := Settings.isAccepted_of_ofText hsettings
  refine ⟨haccepted.exists_resolve, ?_⟩
  rintro file profile hprofile ⟨resolved, hresolved⟩
  obtain ⟨config, hconfig, hreadable⟩ :=
    exists_configFor hresolved (haccepted.isReadable_of_resolve hresolved)
  have hresult : ∃ a, (config.budget.maxTokens.elim
      (Pipeline.run ⟨s.parser, profile, config, s.count⟩ file.text)
      (Pipeline.fit ⟨s.parser, profile, config, s.count⟩ file.text)) = .ok a := by
    cases config.budget.maxTokens with
    | none => exact Pipeline.exists_run hparser hreadable file.text
    | some ceiling => exact Pipeline.exists_fit hparser hreadable file.text ceiling
  obtain ⟨a, ha⟩ := hresult
  refine ⟨⟨a, ?_⟩, config, hconfig, fun c hc =>
    Pipeline.exists_run (s := ⟨s.parser, profile, c, s.count⟩) hparser (hreadable.of_reaches hc)
      file.text⟩
  rw [process_eq hprofile hconfig]
  exact mapError_eq_ok _ ha

/-- Settings with a pattern among the defaults and a ceiling for one language. -/
def cappedSettings : Text :=
  ("\x7b\"defaults\": \x7b\"comments\": \x7b\"strip_patterns\": [\"TODO\"]\x7d\x7d, " ++
    "\"languages\": \x7b\"python\": \x7b\"budget\": \x7b\"max_tokens\": 3\x7d\x7d\x7d\x7d").toList

/-- A file with a pattern of its own. -/
def ownPatternFile : SourceFile where
  path := .ofString "app/main.py"
  text := "import os\n".toList
  overrides := some <| .object [("imports", .object [("external_patterns", .array [.string "^o"])])]

/-- A parser that takes every text for one node. -/
def plainSession (settings : Settings) : Session where
  parser := fun _ text => some (.named "module" 0 text.size [])
  count := Counter.words
  settings

theorem isSome_resolve_cappedSettings :
    (do let settings ← Settings.ofText cappedSettings
        settings.resolve "python" ownPatternFile.overrides).toOption.isSome = true := by
  decide +kernel

/-- Patterns come from the defaults and from the file, and the file is abridged under a ceiling. -/
theorem accepted_settings_never_fail_capped :
    ∃ settings, Settings.ofText cappedSettings = .ok settings ∧
      (∃ config, settings.resolve "python" ownPatternFile.overrides = .ok config) ∧
      (∃ config, settings.resolve "rust" none = .ok config) ∧
      ∃ a, (plainSession settings).process ownPatternFile = .ok a := by
  obtain ⟨config, hconfig⟩ := Option.isSome_iff_exists.mp isSome_resolve_cappedSettings
  obtain ⟨settings, hsettings, hresolve⟩ := exists_of_bind_eq_ok (eq_ok_of_toOption hconfig)
  have hprofile : ProfileRegistry.builtin.forPath ownPatternFile.path =
      .ok Language.python.profile := rfl
  obtain ⟨hlanguages, hfiles⟩ :=
    accepted_settings_never_fail (s := plainSession settings) hsettings fun _ _ => rfl
  exact ⟨settings, hsettings, ⟨config, hresolve⟩, hlanguages "rust",
    (hfiles ownPatternFile Language.python.profile hprofile ⟨config, hresolve⟩).1⟩

end Session

end Abridge
