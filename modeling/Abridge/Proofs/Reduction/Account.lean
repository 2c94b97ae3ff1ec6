import Abridge.Proofs.Reduction.Draft

/-!
Drafts whose counters agree with their placeholders.

An account names the nouns that a reduction reports and the counters that it keeps for them
(`IsLedger`). A draft is `IsAccounted` if each of these counters is the sum of what its edits report
under the noun. Putting a placeholder keeps it so (`IsAccounted.place`, `IsAccounted.remove`), and
so does an edit that reports nothing and counts elsewhere (`IsAccounted.pass`). At the end, the
edited text reports what the counters say (`IsAccounted.countElisions_finish`).
-/
namespace Abridge

open Placeholder (marker nouns omitted elisions IsClosed Opens Settled)

/-- Whether nouns and counters are paired off: every noun is one of those in use, and two nouns are
the same just if their counters are. -/
def IsLedger (sorts : List (String × String)) : Prop :=
  (∀ p ∈ sorts, p.1 ∈ nouns) ∧ ∀ p ∈ sorts, ∀ q ∈ sorts, p.1 = q.1 ↔ p.2 = q.2

instance (sorts : List (String × String)) : Decidable (IsLedger sorts) :=
  inferInstanceAs (Decidable (_ ∧ _))

namespace Draft

/-- Whether each counter of a ledger is the sum of what the edits of a draft report under its
noun. -/
structure IsAccounted (d : Document) (sorts : List (String × String)) (P : Edit → Prop)
    (draft : Draft) : Prop where
  keeps : draft.Keeps d d.language.profile P
  balances : ∀ p ∈ sorts,
    draft.Balances (fun t => Placeholder.countElisions t p.1.toList) p.2

section
variable {d : Document} {sorts : List (String × String)} {P : Edit → Prop} {draft : Draft}

theorem isAccounted_of (d : Document) (sorts : List (String × String)) (P : Edit → Prop) :
    (Draft.of d).IsAccounted d sorts P :=
  ⟨keeps_of d _ P, fun _ _ => balances_of d _ _⟩

theorem IsAccounted.withStubs (h : draft.IsAccounted d sorts P) {stubs : Stubs}
    (hs : stubs.IsOf d.language.profile) : { draft with stubs }.IsAccounted d sorts P :=
  ⟨h.keeps.withStubs hs, fun p hp => (h.balances p hp).withStubs stubs⟩

/-- An edit that reports what it counts. -/
theorem IsAccounted.place (hsorts : IsLedger sorts) (h : draft.IsAccounted d sorts P) {span : Span}
    {text : Text} {noun key : String} {n : Nat} (hmem : (noun, key) ∈ sorts)
    (hwraps : text.Wraps (omitted n noun.toList)) (hP : P ⟨span, text⟩) :
    (draft.replace span text key n).IsAccounted d sorts P := by
  refine ⟨h.keeps.replace key n hP, fun p hp => (h.balances p hp).replace span fun hlimit => ?_⟩
  have hnoun := hsorts.1 (noun, key) hmem
  have hclosed := (Placeholder.isClosed_omitted (Placeholder.isNoun_of_mem_nouns hnoun) n).1
  have hpair : noun = p.1 ↔ key = p.2 := hsorts.2 (noun, key) hmem p hp
  rw [hwraps.countElisions hclosed]
  by_cases hkey : key = p.2
  · rw [if_pos hkey, ← hpair.mpr hkey]
    exact Placeholder.countElisions_omitted_self (Placeholder.isNoun_of_mem_nouns hnoun)
      (hlimit hkey)
  · rw [if_neg hkey]
    exact Placeholder.countElisions_omitted_other (Placeholder.isNoun_of_mem_nouns hnoun)
      (Placeholder.distinct_of_mem_nouns hnoun (hsorts.1 p hp) fun heq => hkey (hpair.mp heq)) n

/-- An edit that reports nothing and is counted elsewhere. -/
theorem IsAccounted.pass (h : draft.IsAccounted d sorts P) {span : Span} {text : Text}
    {key : String} {n : Nat} (hkey : ∀ p ∈ sorts, key ≠ p.2) (htext : elisions text = [])
    (hP : P ⟨span, text⟩) : (draft.replace span text key n).IsAccounted d sorts P := by
  refine ⟨h.keeps.replace key n hP, fun p hp => (h.balances p hp).replace span fun _ => ?_⟩
  rw [if_neg (hkey p hp), Placeholder.countElisions_eq, htext]
  rfl

/-- What is put in the place of a removal holds its placeholder and no other marker, and it begins
with a slash where comments do. -/
theorem wraps_withStub {r : Removal} {stub : Option Text} {comment : Text}
    (hstub : ∀ text ∈ stub, ∃ b, d.language.profile.stub? = some b ∧ b.text = text)
    (hcomment : placeholder? d r = some comment) :
    (withStub stub comment).Wraps (omitted r.count r.noun.toList) ∧
      (d.language ≠ .python → Opens (withStub stub comment)) := by
  have hwraps := wraps_commentBefore? d.language.not_mem_delimiters hcomment
  cases stub with
  | none => exact ⟨hwraps, fun hl => opens_commentBefore? hl hcomment⟩
  | some text =>
    obtain ⟨b, hb, rfl⟩ := hstub text rfl
    refine ⟨hwraps.prepend fun h => ?_, fun hl => ?_⟩
    · rcases List.mem_append.mp h with h | h
      · exact Language.not_mem_stub hb h
      · exact absurd h (by decide)
    · rw [Language.stub?_eq_none hl] at hb
      cases hb

theorem IsAccounted.remove (hsorts : IsLedger sorts) (h : draft.IsAccounted d sorts P) {r : Removal}
    (hmem : (r.noun, removedKey r.noun) ∈ sorts)
    (hP : ∀ text, text.Wraps (omitted r.count r.noun.toList) →
      (d.language ≠ .python → Opens text) → P ⟨r.span, text⟩) :
    (draft.remove d r).IsAccounted d sorts P := by
  rcases remove_cases (d := d) h.keeps.stubs r with heq |
    ⟨stubs, stub, comment, hstubs, hstub, hcomment, heq⟩ <;> rw [heq]
  · exact h
  · obtain ⟨hwraps, hopens⟩ := wraps_withStub hstub hcomment
    exact (h.withStubs hstubs).place hsorts hmem hwraps (hP _ hwraps hopens)

/-- A row of removals. -/
theorem IsAccounted.foldl_remove (hsorts : IsLedger sorts) {removals : List Removal}
    (h : draft.IsAccounted d sorts P)
    (hmem : ∀ r ∈ removals, (r.noun, removedKey r.noun) ∈ sorts)
    (hP : ∀ r ∈ removals, ∀ text, text.Wraps (omitted r.count r.noun.toList) →
      (d.language ≠ .python → Opens text) → P ⟨r.span, text⟩) :
    (removals.foldl (Draft.remove d) draft).IsAccounted d sorts P := by
  induction removals generalizing draft with
  | nil => exact h
  | cons r rest ih =>
    exact ih (h.remove hsorts (hmem r List.mem_cons_self) (hP r List.mem_cons_self))
      (fun r' hr => hmem r' (List.mem_cons_of_mem r hr))
      fun r' hr => hP r' (List.mem_cons_of_mem r hr)

/-! ### The outcome -/

/-- Without edits, the text stays as it was. -/
theorem getD_finish (draft : Draft) :
    draft.finish.text.getD draft.queue.source = draft.queue.apply := by
  unfold finish EditQueue.edited?
  cases hedits : draft.queue.edits with
  | nil => simp [EditQueue.apply, EditQueue.inOrder, hedits, EditQueue.splice]
  | cons e rest => rfl

/-- The outcome of a draft reports as many things of a sort missing as its counter says. -/
theorem IsAccounted.countElisions_finish (h : draft.IsAccounted d sorts P)
    (hmarker : marker ∉ d.text) (hsettled : ∀ e ∈ draft.queue.edits, Settled d.lines e)
    (hopens : (∀ e ∈ draft.queue.edits, IsClosed e.text) ∨
      ∀ e ∈ draft.queue.edits, Opens e.text)
    {noun key : String} (hmem : (noun, key) ∈ sorts)
    (hlimit : draft.finish.tally.get key < Budget.countLimit) :
    Placeholder.countElisions (draft.finish.text.getD d.text) noun.toList =
      draft.finish.tally.get key := by
  have hsource : draft.queue.source = d.lines.text := h.keeps.source
  rw [← h.keeps.source, getD_finish,
    Placeholder.countElisions_apply h.keeps.sound hsource hmarker hsettled hopens]
  exact (h.balances (noun, key) hmem).total_eq hlimit

end

end Draft

end Abridge
