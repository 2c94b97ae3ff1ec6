import Abridge.Proofs.Budget.Setting
import Abridge.Proofs.Reduction.Run
import Abridge.Config.Settings

/-!
Settings that are accepted, and the configurations that come of them.

A configuration is readable if all its patterns can be read. Whatever way it comes about is one that
keeps it so: as the defaults of accepted settings, by a section or overrides laid over it, by roots
that are added (`isReadable_of_resolve`), and down the ladder (`IsReadable.of_reaches`).
-/
namespace Abridge

namespace Config
variable {c d : Config}

/-- Whether every pattern of a configuration can be read. -/
def IsReadable (c : Config) : Prop :=
  ∀ field ∈ c.patternFields, ∃ patterns, compilePatterns field.2 = .ok patterns

theorem validate_eq_ok_iff : c.validate = .ok () ↔ c.IsReadable := by
  refine forM_eq_ok_iff.trans (forall₂_congr fun field _ => ⟨fun h => ?_, fun ⟨patterns, h⟩ => ?_⟩)
  · obtain ⟨patterns, hpatterns, -⟩ := exists_of_bind_eq_ok (eq_ok_of_mapError_eq_ok h)
    exact ⟨patterns, hpatterns⟩
  · refine mapError_eq_ok _ ?_
    rw [h]
    rfl

/-- Laying an override over a configuration checks what comes of it, or changes nothing. -/
theorem IsReadable.merged (hc : c.IsReadable) {overrides : Json} (h : c.merged overrides = .ok d) :
    d.IsReadable := by
  unfold Config.merged at h
  split at h
  · exact Except.ok.inj h ▸ hc
  · split at h
    · cases h
    next result _ =>
      obtain ⟨⟨⟩, hvalid, h⟩ := exists_of_bind_eq_ok h
      exact Except.ok.inj h ▸ validate_eq_ok_iff.mp hvalid
  · cases h

/-! ### The ladder -/

theorem patternFields_loosened (c : Config) :
    (Budget.loosened c).patternFields = c.patternFields := by
  unfold Budget.loosened patternFields
  cases hcomments : c.comments <;> rfl

/-- The ladder touches no pattern. -/
theorem IsReadable.of_reaches (hc : c.IsReadable) (h : Budget.Reaches c d) : d.IsReadable := by
  induction h with
  | refl => exact hc
  | tail _ hstep ih =>
    have heq := congrArg patternFields (Budget.step_of_tighten hstep).loosened_eq
    rw [patternFields_loosened, patternFields_loosened] at heq
    rwa [IsReadable, heq]

end Config

/-! ### Settings -/

namespace Settings
variable {s : Settings} {c : Config}

/-- Whether the defaults can be read, and every section can be laid over them. -/
structure IsAccepted (s : Settings) : Prop where
  defaults : s.defaults.IsReadable
  sections : ∀ entry ∈ s.languages, ∃ c, s.defaults.merged entry.2 = .ok c

theorem isAccepted_of_ofText {json : Text} (h : ofText json = .ok s) : s.IsAccepted := by
  obtain ⟨settings, -, h⟩ := exists_of_bind_eq_ok h
  obtain ⟨⟨⟩, hdefaults, h⟩ := exists_of_bind_eq_ok h
  obtain ⟨⟨⟩, hsections, h⟩ := exists_of_bind_eq_ok h
  obtain rfl := Except.ok.inj h
  refine ⟨Config.validate_eq_ok_iff.mp hdefaults, fun entry hentry => ?_⟩
  have hentry := eq_ok_of_mapError_eq_ok (forM_eq_ok_iff.mp hsections entry hentry)
  obtain ⟨c, hc, -⟩ := exists_of_bind_eq_ok hentry
  exact ⟨c, hc⟩

/-- Every language has a configuration, with a section of its own or without. -/
theorem IsAccepted.exists_forLanguage (h : s.IsAccepted) (language : String) :
    ∃ c, s.forLanguage language = .ok c ∧ c.IsReadable := by
  unfold forLanguage
  cases hlookup : s.languages.lookup language with
  | none => exact ⟨s.defaults, rfl, h.defaults⟩
  | some overrides =>
    obtain ⟨front, back, heq, -⟩ := List.lookup_eq_some_iff.mp hlookup
    obtain ⟨c, hc⟩ := h.sections (language, overrides) (heq ▸ List.mem_append_right front
      List.mem_cons_self)
    exact ⟨c, mapError_eq_ok _ hc, h.defaults.merged hc⟩

theorem IsAccepted.isReadable_of_resolve (h : s.IsAccepted) {language : String}
    {overrides : Option Json} (hc : s.resolve language overrides = .ok c) : c.IsReadable := by
  obtain ⟨base, hbase, hc⟩ := exists_of_bind_eq_ok hc
  obtain ⟨base', hbase', hreadable⟩ := h.exists_forLanguage language
  obtain rfl : base = base' := Except.ok.inj (hbase.symm.trans hbase')
  split at hc
  · exact hreadable.merged (eq_ok_of_mapError_eq_ok hc)
  · exact Except.ok.inj hc ▸ hreadable

theorem IsAccepted.exists_resolve (h : s.IsAccepted) (language : String) :
    ∃ c, s.resolve language none = .ok c := by
  obtain ⟨c, hc, -⟩ := h.exists_forLanguage language
  exact ⟨c, by rw [resolve, hc]; rfl⟩

end Settings

end Abridge
