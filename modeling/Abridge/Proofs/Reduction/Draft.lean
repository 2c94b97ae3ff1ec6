import Abridge.Profile.Table
import Abridge.Proofs.Comment.Spliced
import Abridge.Proofs.Tally
import Abridge.Reduction.Basic

/-!
What holds of a draft while edits are added to it.

`Draft.Keeps` is what all drafts have in common, along with a property of every edit that was taken.
`Draft.Balances` says that a counter is the sum of what the new texts report under a measure; an
edit that is refused is neither taken nor counted, so that it is enough to look at the edits that
are offered.
-/
namespace Abridge

open Placeholder (marker IsClosed IsCapped Opens Settled)

/-! ### Comments around a text -/

/-- Everything that a style puts around what a comment says. -/
def CommentStyle.delimiters (style : CommentStyle) : List String :=
  style.line.toList ++ (style.block.toList.flatMap fun (opener, closer) => [opener, closer]) ++
    style.docMarkers

/-- Whether one text is another with something around it in which there is no marker. -/
def Text.Wraps (t inner : Text) : Prop :=
  ∃ front back, t = front ++ inner ++ back ∧ marker ∉ front ∧ marker ∉ back

namespace Text.Wraps
variable {t inner : Text}

theorem refl (t : Text) : t.Wraps t :=
  ⟨[], [], (List.append_nil t).symm, List.not_mem_nil, List.not_mem_nil⟩

theorem append {front back : Text} (h : t.Wraps inner) (hf : marker ∉ front) (hb : marker ∉ back) :
    (front ++ t ++ back).Wraps inner := by
  obtain ⟨f, b, rfl, hf', hb'⟩ := h
  refine ⟨front ++ f, b ++ back, by simp only [List.append_assoc], ?_, ?_⟩
  · exact fun h => (List.mem_append.mp h).elim hf hf'
  · exact fun h => (List.mem_append.mp h).elim hb' hb

theorem prepend {front : Text} (h : t.Wraps inner) (hf : marker ∉ front) :
    (front ++ t).Wraps inner := by
  have := h.append hf (List.not_mem_nil (a := marker))
  rwa [List.append_nil] at this

theorem isClosed (h : t.Wraps inner) (hi : IsClosed inner) : IsClosed t := by
  obtain ⟨f, b, rfl, hf, hb⟩ := h
  exact ((Placeholder.isClosed_of_not_mem hf).append hi).append (Placeholder.isClosed_of_not_mem hb)

theorem countElisions (h : t.Wraps inner) (hi : IsClosed inner) (noun : Text) :
    Placeholder.countElisions t noun = Placeholder.countElisions inner noun := by
  obtain ⟨f, b, rfl, hf, hb⟩ := h
  rw [List.append_assoc, (Placeholder.isClosed_of_not_mem hf).countElisions_append,
    hi.countElisions_append, Placeholder.countElisions_of_not_mem hf,
    Placeholder.countElisions_of_not_mem hb, Nat.zero_add, Nat.add_zero]

theorem count_marker (h : t.Wraps inner) : t.count marker = inner.count marker := by
  obtain ⟨f, b, rfl, hf, hb⟩ := h
  rw [List.count_append, List.count_append, List.count_eq_zero_of_not_mem hf,
    List.count_eq_zero_of_not_mem hb, Nat.zero_add, Nat.add_zero]

end Text.Wraps

namespace Language

theorem not_mem_delimiters (l : Language) :
    ∀ s ∈ l.grammar.comments.delimiters, marker ∉ s.toList := by
  cases l <;> decide

/-- All comments begin with a slash, those of Python apart. -/
theorem head_delimiters {l : Language} (hl : l ≠ .python) :
    l.grammar.comments.line = some "//" ∧ l.grammar.comments.block = some ("/*", "*/") ∧
      ∀ s ∈ l.grammar.comments.docMarkers, s.toList.head? = some '/' := by
  cases l <;> first | exact absurd rfl hl | decide

/-- Python alone has a stub. -/
theorem stub?_eq_none {l : Language} (hl : l ≠ .python) : l.profile.stub? = none := by
  cases l <;> first | exact absurd rfl hl | rfl

theorem not_mem_stub {l : Language} {b : BlockStub} (h : l.profile.stub? = some b) :
    marker ∉ b.text := by
  cases l <;> cases h
  decide

end Language

theorem opens_of_head {t : Text} (h : t.head? = some '/') : Opens t := by
  cases t with
  | nil => cases h
  | cons c u =>
    obtain rfl := Option.some.inj h
    exact ⟨'/', u, rfl, by decide⟩

section Comments
variable {style : CommentStyle} (hstyle : ∀ s ∈ style.delimiters, marker ∉ s.toList)
include hstyle

theorem wraps_enclose {opener closer : String} (ho : opener ∈ style.delimiters)
    (hc : closer ∈ style.delimiters) (t : Text) :
    (CommentStyle.enclose opener closer t).Wraps t := by
  have hspace : marker ≠ ' ' := by decide
  have hfront : marker ∉ opener.toList ++ [' '] := fun h =>
    (List.mem_append.mp h).elim (hstyle opener ho) fun h => hspace (List.mem_singleton.mp h)
  have hback : marker ∉ [' '] ++ closer.toList := fun h =>
    (List.mem_append.mp h).elim (fun h => hspace (List.mem_singleton.mp h)) (hstyle closer hc)
  have h := (Text.Wraps.refl t).append hfront hback
  rwa [← List.append_assoc] at h

theorem wraps_blockComment? {t c : Text} (h : style.blockComment? t = some c) : c.Wraps t := by
  obtain ⟨⟨opener, closer⟩, hblock, rfl⟩ := Option.map_eq_some_iff.mp h
  refine wraps_enclose hstyle ?_ ?_ t <;> simp [CommentStyle.delimiters, hblock]

theorem wraps_lineComment (t : Text) : (style.lineComment t).Wraps t := by
  unfold CommentStyle.lineComment
  cases hline : style.line with
  | some opener =>
    have hopener : opener ∈ style.delimiters := by simp [CommentStyle.delimiters, hline]
    have hspace : marker ≠ ' ' := by decide
    refine (Text.Wraps.refl t).prepend fun h => ?_
    exact (List.mem_append.mp h).elim (hstyle opener hopener)
      fun h => hspace (List.mem_singleton.mp h)
  | none =>
    cases hblock : style.blockComment? t with
    | some c => exact wraps_blockComment? hstyle hblock
    | none => exact Text.Wraps.refl t

theorem wraps_commentBefore? {lines : Lines} {offset : Nat} {t c : Text}
    (h : Placeholder.commentBefore? lines style offset t = some c) : c.Wraps t := by
  unfold Placeholder.commentBefore? at h
  split at h
  · obtain rfl := Option.some.inj h
    exact wraps_lineComment hstyle t
  · exact wraps_blockComment? hstyle h

end Comments

/-- Where comments begin with a slash, so does what stands in for a removal. -/
theorem opens_commentBefore? {l : Language} (hl : l ≠ .python) {lines : Lines} {offset : Nat}
    {t c : Text}
    (h : Placeholder.commentBefore? lines l.grammar.comments offset t = some c) : Opens c := by
  obtain ⟨hline, hblock, -⟩ := Language.head_delimiters hl
  unfold Placeholder.commentBefore? CommentStyle.lineComment CommentStyle.blockComment? at h
  rw [hline, hblock] at h
  split at h <;> obtain rfl := Option.some.inj h <;> exact opens_of_head rfl

/-! ### Stubs -/

namespace Stubs

/-- Whether the stub is that of the profile, where any block waits for one. -/
def IsOf (profile : Profile) (s : Stubs) : Prop :=
  s.pending ≠ [] → ∃ b, profile.stub? = some b ∧ b.text = s.text

theorem isOf_empty (profile : Profile) : IsOf profile {} :=
  fun h => absurd rfl h

theorem isOf_plan (profile : Profile) (removed : List (Span × Node)) :
    IsOf profile (plan profile removed) := by
  unfold plan
  split
  · exact isOf_empty profile
  next b hb => exact fun _ => ⟨b, hb, rfl⟩

/-- A stub that is given out is that of the profile, and so are those that remain. -/
theorem IsOf.take {profile : Profile} {s : Stubs} (h : s.IsOf profile) (statement : Node) :
    (∀ text ∈ (s.take statement).1, ∃ b, profile.stub? = some b ∧ b.text = text) ∧
      (s.take statement).2.IsOf profile := by
  unfold Stubs.take
  split
  · exact ⟨fun _ htext => (by cases htext), h⟩
  next block _ =>
    split
    next hmem =>
      have hne : s.pending ≠ [] := by
        rintro heq
        rw [heq] at hmem
        cases hmem
      refine ⟨fun text htext => ?_, fun _ => h hne⟩
      obtain rfl := Option.some.inj htext
      exact h hne
    · exact ⟨fun _ htext => (by cases htext), h⟩

end Stubs

/-! ### Drafts -/

namespace Draft

/-- Whether a draft has its source from a document, and edits with a property, none of which
collide. -/
structure Keeps (d : Document) (profile : Profile) (P : Edit → Prop) (draft : Draft) : Prop where
  source : draft.queue.source = d.text
  sound : draft.queue.IsSound
  stubs : draft.stubs.IsOf profile
  edits : ∀ e ∈ draft.queue.edits, P e

/-- Whether a counter, as long as it stays below the limit, is the sum of what the edits of a draft
report. -/
structure Balances (measure : Text → Nat) (key : String) (draft : Draft) : Prop where
  sorted : Tally.IsSorted draft.tally.entries
  total_eq : draft.tally.get key < Budget.countLimit →
    total (draft.queue.edits.map fun e => measure e.text) = draft.tally.get key

section
variable {d : Document} {profile : Profile} {P : Edit → Prop} {measure : Text → Nat} {key : String}
variable {draft : Draft}

theorem keeps_of (d : Document) (profile : Profile) (P : Edit → Prop) :
    (Draft.of d).Keeps d profile P :=
  ⟨rfl, EditQueue.isSound_empty d.text, Stubs.isOf_empty profile,
    fun _ h => absurd h List.not_mem_nil⟩

theorem balances_of (d : Document) (measure : Text → Nat) (key : String) :
    (Draft.of d).Balances measure key :=
  ⟨Tally.isSorted_empty, fun _ => rfl⟩

theorem Keeps.withStubs (h : draft.Keeps d profile P) {stubs : Stubs} (hs : stubs.IsOf profile) :
    { draft with stubs }.Keeps d profile P :=
  ⟨h.source, h.sound, hs, h.edits⟩

theorem Balances.withStubs (h : draft.Balances measure key) (stubs : Stubs) :
    { draft with stubs }.Balances measure key :=
  ⟨h.sorted, h.total_eq⟩

/-- An edit is refused, and all stays as it was, or it is taken and counted. -/
theorem replace_cases (draft : Draft) (span : Span) (text : Text) (key : String) (n : Nat) :
    draft.replace span text key n = draft ∨
      ∃ queue, draft.queue.replace? span text = some queue ∧
        queue.edits = draft.queue.edits ++ [⟨span, text⟩] ∧
        draft.replace span text key n = { draft with queue, tally := draft.tally.incr key n } := by
  unfold Draft.replace
  cases h : draft.queue.replace? span text with
  | none => exact .inl rfl
  | some queue =>
    obtain ⟨-, -, rfl⟩ := EditQueue.replace?_eq_some_iff.mp h
    exact .inr ⟨_, rfl, rfl, rfl⟩

theorem Keeps.replace (h : draft.Keeps d profile P) {span : Span} {text : Text} (key : String)
    (n : Nat) (hP : P ⟨span, text⟩) : (draft.replace span text key n).Keeps d profile P := by
  rcases replace_cases draft span text key n with heq | ⟨queue, hqueue, hedits, heq⟩ <;> rw [heq]
  · exact h
  · refine ⟨(EditQueue.source_of_replace? hqueue).trans h.source, h.sound.replace? hqueue, h.stubs,
      fun e he => ?_⟩
    rw [hedits] at he
    rcases List.mem_append.mp he with he | he
    · exact h.edits e he
    · exact List.mem_singleton.mp he ▸ hP

theorem Balances.replace (h : draft.Balances measure key) (span : Span) {text : Text}
    {other : String} {n : Nat}
    (htext : (other = key → n < Budget.countLimit) →
      measure text = if other = key then n else 0) :
    (draft.replace span text other n).Balances measure key := by
  rcases replace_cases draft span text other n with heq | ⟨queue, -, hedits, heq⟩ <;> rw [heq]
  · exact h
  · refine ⟨Tally.isSorted_incr h.sorted other n, fun hlimit => ?_⟩
    have hget : (draft.tally.incr other n).get key =
        draft.tally.get key + if other = key then n else 0 := Tally.get_incr h.sorted other key n
    simp only [hget] at hlimit ⊢
    have hn : other = key → n < Budget.countLimit := by
      rintro rfl
      rw [if_pos rfl] at hlimit
      omega
    rw [hedits, List.map_append, total_append, h.total_eq (by omega)]
    simp [htext hn]

/-- A removal leaves a draft as it was, or it offers a placeholder, perhaps with the stub of the
profile. -/
theorem remove_cases (h : draft.stubs.IsOf profile) (r : Removal) :
    draft.remove d r = draft ∨
      ∃ stubs stub comment, stubs.IsOf profile ∧
        (∀ text ∈ stub, ∃ b, profile.stub? = some b ∧ b.text = text) ∧
        placeholder? d r = some comment ∧
        draft.remove d r = { draft with stubs }.replace r.span (withStub stub comment)
          (removedKey r.noun) r.count := by
  unfold Draft.remove
  cases hc : placeholder? d r with
  | none => exact .inl rfl
  | some comment =>
    obtain ⟨hstub, hstubs⟩ := h.take r.statement
    exact .inr ⟨_, _, comment, hstubs, hstub, rfl, rfl⟩

end

end Draft

end Abridge
