import Abridge.Pipeline

/-!
What a reduction that succeeds has read and drawn up.

Each run is the outcome of one draft, from the patterns that the configuration writes down and what
a query finds in the document.
-/
namespace Abridge

theorem exists_of_bind_eq_ok {ε α β : Type} {x : Except ε α} {f : α → Except ε β} {b : β}
    (h : (x >>= f) = .ok b) : ∃ a, x = .ok a ∧ f a = .ok b := by
  cases x with
  | error e => cases h
  | ok a => exact ⟨a, rfl, h⟩

theorem eq_ok_of_toOption {ε α : Type} {x : Except ε α} {a : α} (h : x.toOption = some a) :
    x = .ok a := by
  cases x with
  | error e => cases h
  | ok b => exact congrArg _ (Option.some.inj h)

theorem eq_ok_of_mapError_eq_ok {ε ε' α : Type} {x : Except ε α} {f : ε → ε'} {a : α}
    (h : x.mapError f = .ok a) : x = .ok a := by
  cases x with
  | error e => cases h
  | ok b => exact congrArg _ (Except.ok.inj h)

theorem mapError_eq_ok {ε ε' α : Type} {x : Except ε α} {a : α} (f : ε → ε') (h : x = .ok a) :
    x.mapError f = .ok a :=
  h ▸ rfl

/-- Going through a list succeeds if every step does. -/
theorem forM_eq_ok_iff {ε α : Type} {f : α → Except ε PUnit} {l : List α} :
    l.forM f = .ok () ↔ ∀ a ∈ l, f a = .ok () := by
  induction l with
  | nil => exact ⟨fun _ _ h => absurd h List.not_mem_nil, fun _ => rfl⟩
  | cons a rest ih =>
    show (f a >>= fun _ => rest.forM f) = .ok () ↔ _
    rw [List.forall_mem_cons, ← ih]
    constructor
    · intro h
      obtain ⟨⟨⟩, ha, hrest⟩ := exists_of_bind_eq_ok h
      exact ⟨ha, hrest⟩
    · rintro ⟨ha, hrest⟩
      rw [ha]
      exact hrest

/-! ### What is read of a configuration -/

/-- Whether rules are those that the configuration of a job writes down. -/
structure Comment.Rules.IsRead (rules : Comment.Rules) (job : Job) : Prop where
  options : rules.options = job.config.comments.options
  keep : compilePatterns rules.options.keepAnnotations = .ok rules.keep
  strip : compilePatterns rules.options.stripPatterns = .ok rules.strip
  count : rules.count = job.count

/-- Whether exemptions are those that the configuration of a job writes down. -/
structure Body.Exemptions.IsRead (exemptions : Body.Exemptions) (job : Job) : Prop where
  names : compilePatterns job.config.functionBodies.exceptPatterns = .ok exemptions.names
  annotations :
    compilePatterns job.config.functionBodies.keepAnnotated = .ok exemptions.annotations

namespace Reduction
variable {job : Job} {o : Outcome}

/-! ### Drafts of runs -/

/-- A run reads the patterns of the configuration and then reduces the document. -/
theorem exists_of_run {r : Reduction} (h : r.run job = .ok o) :
    ∃ reduce, r.prepare job.config = .ok reduce ∧ reduce job = .ok o :=
  exists_of_bind_eq_ok h

theorem run_of_prepare {r : Reduction} {reduce : Job → Except Error Outcome}
    (h : r.prepare job.config = .ok reduce) : r.run job = reduce job := by
  rw [run, h]
  rfl

section Prepare
variable {config : Config} {first second : List Pattern}

theorem prepare_imports (h : compilePatterns config.imports.externalPatterns = .ok first) :
    imports.prepare config = .ok (Import.reduce first) := by
  simp only [imports, h]
  rfl

theorem prepare_comments
    (hkeep : compilePatterns config.comments.options.keepAnnotations = .ok first)
    (hstrip : compilePatterns config.comments.options.stripPatterns = .ok second) :
    comments.prepare config = .ok (Comment.reduce first second) := by
  simp only [comments, hkeep, hstrip]
  rfl

theorem prepare_functionBodies
    (hnames : compilePatterns config.functionBodies.exceptPatterns = .ok first)
    (hannotations : compilePatterns config.functionBodies.keepAnnotated = .ok second) :
    functionBodies.prepare config = .ok (Body.reduce ⟨first, second⟩) := by
  simp only [functionBodies, hnames, hannotations]
  rfl

end Prepare

theorem exists_draft_of_imports (h : imports.run job = .ok o) :
    ∃ external found, compilePatterns job.config.imports.externalPatterns = .ok external ∧
      job.document.queryNodes "imports" "import" = .ok found ∧
      o = (Import.draft external job found).finish := by
  obtain ⟨reduce, hprepare, h⟩ := exists_of_run h
  obtain ⟨external, hexternal, hreduce⟩ := exists_of_bind_eq_ok hprepare
  obtain rfl := Except.ok.inj hreduce
  obtain ⟨found, hfound, h⟩ := exists_of_bind_eq_ok h
  exact ⟨external, found, hexternal, eq_ok_of_mapError_eq_ok hfound, (Except.ok.inj h).symm⟩

theorem exists_draft_of_comments (h : comments.run job = .ok o) :
    ∃ rules found, rules.IsRead job ∧
      job.document.queryNodes "comments" "comment" = .ok found ∧
      o = (Comment.draft rules job found).finish := by
  obtain ⟨reduce, hprepare, h⟩ := exists_of_run h
  obtain ⟨keep, hkeep, hprepare⟩ := exists_of_bind_eq_ok hprepare
  obtain ⟨strip, hstrip, hreduce⟩ := exists_of_bind_eq_ok hprepare
  obtain rfl := Except.ok.inj hreduce
  obtain ⟨found, hfound, h⟩ := exists_of_bind_eq_ok h
  exact ⟨_, found, ⟨rfl, hkeep, hstrip, rfl⟩, eq_ok_of_mapError_eq_ok hfound,
    (Except.ok.inj h).symm⟩

theorem exists_draft_of_functionBodies (h : functionBodies.run job = .ok o) :
    ∃ exemptions found, exemptions.IsRead job ∧
      job.document.queryNodes "functions" "body" = .ok found ∧
      o = (Body.draft exemptions job found).finish := by
  obtain ⟨reduce, hprepare, h⟩ := exists_of_run h
  obtain ⟨names, hnames, hprepare⟩ := exists_of_bind_eq_ok hprepare
  obtain ⟨annotations, hannotations, hreduce⟩ := exists_of_bind_eq_ok hprepare
  obtain rfl := Except.ok.inj hreduce
  obtain ⟨found, hfound, h⟩ := exists_of_bind_eq_ok h
  exact ⟨_, found, ⟨hnames, hannotations⟩, eq_ok_of_mapError_eq_ok hfound,
    (Except.ok.inj h).symm⟩

theorem draft_of_publicSurface (h : publicSurface.run job = .ok o) :
    o = (Declaration.draft job).finish :=
  (Except.ok.inj h).symm

theorem exists_draft_of_literals (h : literals.run job = .ok o) :
    o = {} ∨
      ∃ max captures, job.config.literals.maxTokens = some max ∧
        job.document.query "literals" = .ok captures ∧
        o = (Literal.draft job max captures).finish := by
  have h : Literal.reduce job = .ok o := h
  unfold Literal.reduce at h
  split at h
  · exact .inl (Except.ok.inj h).symm
  next max hmax =>
    obtain ⟨captures, hcaptures, h⟩ := exists_of_bind_eq_ok h
    exact .inr ⟨max, captures, hmax, eq_ok_of_mapError_eq_ok hcaptures, (Except.ok.inj h).symm⟩

end Reduction

end Abridge
