import Abridge.Proofs.Reduction.Idle
import Abridge.Proofs.Reduction.Reported

/-!
What the tally of a whole run says about its text.

One reduction after the other keeps it so that without counts the text is the one that was given
(`isFaithful_advance`), although each works on a text of its own that is parsed anew. And it makes
no difference that reductions are left out that are not asked for (`run_reports_changes`).
-/
namespace Abridge.Pipeline

variable {s : Setting} {text : Text} {sofar next : Progress}

/-- Whether a text that was abridged without any count is the one that was given. -/
def IsFaithful (text : Text) (sofar : Progress) : Prop :=
  sofar.tally.isEmpty = true → sofar.document.text = text

theorem text_of_parse {d : Document} (h : s.parse text = .ok d) : d.text = text := by
  unfold Setting.parse Document.parse at h
  split at h
  · exact Except.ok.inj h ▸ rfl
  · cases h

/-- What was counted is added up, and a text that was not changed is not parsed again. -/
theorem proceed_eq_ok {o : Outcome} (h : s.proceed sofar o = .ok next) :
    next.tally = sofar.tally.merge o.tally ∧ (o.text = none → next.document = sofar.document) := by
  obtain ⟨document, hdocument, h⟩ := exists_of_bind_eq_ok h
  obtain rfl := Except.ok.inj h
  refine ⟨rfl, fun hnone => ?_⟩
  rw [hnone] at hdocument
  exact (Except.ok.inj hdocument).symm

theorem isFaithful_advance {reduction : Reduction} (hreduction : reduction ∈ reductions)
    (h : s.advance sofar reduction = .ok next) (hsofar : IsFaithful text sofar) :
    IsFaithful text next := by
  unfold Setting.advance at h
  split at h
  · obtain ⟨o, hrun, h⟩ := exists_of_bind_eq_ok h
    obtain ⟨htally, hdocument⟩ := proceed_eq_ok h
    intro hempty
    rw [htally, Tally.isEmpty_merge, Bool.and_eq_true] at hempty
    obtain ⟨hbefore, hoften⟩ := hempty
    rw [hdocument (Reduction.isReported_of_run hreduction hrun hoften)]
    exact hsofar hbefore
  · obtain rfl := Except.ok.inj h
    exact hsofar

theorem isFaithful_foldlM {rs : List Reduction} (hrs : ∀ r ∈ rs, r ∈ reductions)
    (h : rs.foldlM s.advance sofar = .ok next) (hsofar : IsFaithful text sofar) :
    IsFaithful text next := by
  induction rs generalizing sofar with
  | nil => exact Except.ok.inj h ▸ hsofar
  | cons r rest ih =>
    rw [List.foldlM_cons] at h
    obtain ⟨mid, hmid, hrest⟩ := exists_of_bind_eq_ok h
    exact ih (fun r' hr' => hrs r' (List.mem_cons_of_mem r hr')) hrest
      (isFaithful_advance (hrs r List.mem_cons_self) hmid hsofar)

/-- **A run that counts nothing leaves the text as it was, and a reduction that is not asked for
would do nothing.** The latter holds of every document; so it makes no difference to how far a run
has come that such a reduction is left out. -/
theorem run_reports_changes (s : Setting) :
    (∀ text r, run s text = .ok r → r.tally.isEmpty = true → r.text = text) ∧
    ∀ reduction ∈ Reduction.sectioned,
      (∀ job o, reduction.isEnabled job.config = false → reduction.run job = .ok o → o = {}) ∧
      ∀ sofar o, reduction.run (s.job sofar.document) = .ok o →
        s.advance sofar reduction = s.proceed sofar o := by
  refine ⟨fun text r h hempty => ?_, fun reduction hreduction => ⟨fun job o henabled h => ?_,
    fun sofar o h => ?_⟩⟩
  · obtain ⟨document, hdocument, h⟩ := exists_of_bind_eq_ok h
    obtain ⟨result, hresult, h⟩ := exists_of_bind_eq_ok h
    obtain rfl := Except.ok.inj h
    have hfaithful : IsFaithful text result :=
      isFaithful_foldlM (fun _ hr => hr) hresult fun _ => text_of_parse hdocument
    exact hfaithful (result.tally.isEmpty_under _ ▸ hempty)
  · exact Reduction.eq_empty_of_not_isEnabled hreduction henabled h
  · unfold Setting.advance
    split
    · rw [h]
      rfl
    next hdisabled =>
      obtain rfl := Reduction.eq_empty_of_not_isEnabled hreduction
        (Bool.eq_false_iff.mpr hdisabled) h
      rfl

/-- A file in Python with an import and a remark to a tool. -/
def settledText : Text :=
  "import os  # noqa\n".toList

def settledTree : Tree :=
  .named "module" 0 18 [
    .named "import_statement" 0 9 [
      .token "import" 0 6,
      .inField "name" (.named "dotted_name" 7 9 [.named "identifier" 7 9 []])],
    .named "comment" 11 17 []]

/-- All comments are to go, and no import. -/
def settled : Setting where
  parser := fun _ _ => some settledTree
  profile := Language.python.profile
  config := { comments := .bare .stripAll }
  count := Counter.words

def settledDocument : Document :=
  .ofTree .python settledText settledTree

theorem run_settled : run settled settledText = .ok ⟨settledText, {}⟩ :=
  eq_ok_of_toOption (by decide +kernel)

theorem run_imports_settled :
    Reduction.imports.run (settled.job settledDocument) = .ok {} :=
  eq_ok_of_toOption (by decide +kernel)

/-- Nothing is left to do for the reductions that run, and taking imports out would do nothing. -/
theorem run_reports_changes_settled :
    (∃ r, run settled settledText = .ok r ∧ r.tally.isEmpty = true ∧ r.text = settledText) ∧
    (∃ o, Reduction.imports.run (settled.job settledDocument) = .ok o ∧ o = {}) ∧
    settled.advance ⟨settledDocument, {}⟩ .imports =
      settled.proceed ⟨settledDocument, {}⟩ {} := by
  obtain ⟨hrun, hsectioned⟩ := run_reports_changes settled
  obtain ⟨hidle, hadvance⟩ := hsectioned .imports List.mem_cons_self
  exact ⟨⟨_, run_settled, rfl, hrun _ _ run_settled rfl⟩,
    ⟨_, run_imports_settled, hidle _ _ rfl run_imports_settled⟩,
    hadvance ⟨settledDocument, {}⟩ {} run_imports_settled⟩

end Abridge.Pipeline
