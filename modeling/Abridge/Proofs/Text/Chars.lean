import Abridge.Comment.Style
import Abridge.Comment.Summary
import Abridge.Proofs.Text.Trim

/-!
Which characters a text can hold after it was trimmed, cut up or put together: those that it held
before, and those of the separator.
-/
namespace Abridge

namespace Text
variable {c : Char} {t : Text}

theorem mem_of_mem_dropEndWhile {p : Char → Bool} (h : c ∈ t.dropEndWhile p) : c ∈ t :=
  (dropEndWhile_isPrefix p t).subset h

theorem mem_of_mem_trimStart (h : c ∈ t.trimStart) : c ∈ t :=
  (List.dropWhile_sublist isBlank).subset h

theorem mem_of_mem_trimEnd (h : c ∈ t.trimEnd) : c ∈ t :=
  mem_of_mem_dropEndWhile h

theorem mem_of_mem_trim (h : c ∈ t.trim) : c ∈ t :=
  mem_of_mem_trimStart (mem_of_mem_trimEnd h)

theorem mem_of_mem_stripStart? {lead rest : Text} (hr : t.stripStart? lead = some rest)
    (h : c ∈ rest) : c ∈ t := by
  induction lead generalizing t with
  | nil => exact Option.some.inj hr ▸ h
  | cons a lead ih =>
    cases t with
    | nil => cases hr
    | cons b t =>
      have hr' : (if a == b then Text.stripStart? t lead else none) = some rest := hr
      split at hr'
      · exact List.mem_cons_of_mem b (ih hr')
      · cases hr'

theorem mem_of_mem_upTo {mark : Text} (h : c ∈ upTo mark t) : c ∈ t := by
  induction t with
  | nil => exact h
  | cons d t ih =>
    rw [upTo] at h
    split at h
    · exact absurd h List.not_mem_nil
    · rcases List.mem_cons.mp h with rfl | h
      · exact List.mem_cons_self
      · exact List.mem_cons_of_mem d (ih h)

theorem splitAt_ne_nil (isBreak : Char → Bool) (t : Text) : splitAt isBreak t ≠ [] := by
  cases t with
  | nil => exact List.cons_ne_nil _ _
  | cons d t =>
    rw [splitAt]
    split
    · exact List.cons_ne_nil _ _
    · split <;> exact List.cons_ne_nil _ _

theorem splitAt_cons_of_break {isBreak : Char → Bool} {d : Char} (hd : isBreak d = true)
    (t : Text) : splitAt isBreak (d :: t) = [] :: splitAt isBreak t := by
  rw [splitAt, if_pos hd]

theorem splitAt_cons_of_not {isBreak : Char → Bool} {d : Char} (hd : isBreak d = false) (t : Text) :
    ∃ piece rest, splitAt isBreak t = piece :: rest ∧
      splitAt isBreak (d :: t) = (d :: piece) :: rest := by
  obtain ⟨piece, rest, heq⟩ := List.exists_cons_of_ne_nil (splitAt_ne_nil isBreak t)
  refine ⟨piece, rest, heq, ?_⟩
  rw [splitAt, hd, heq]
  rfl

/-- Where nothing separates, there is one piece. -/
theorem split_of_not_mem {sep : Char} (h : sep ∉ t) : split sep t = [t] := by
  induction t with
  | nil => rfl
  | cons d t ih =>
    have hbreak : (d == sep) = false := beq_false_of_ne (List.ne_of_not_mem_cons h).symm
    obtain ⟨piece, rest, heq, hcons⟩ := @splitAt_cons_of_not (· == sep) d hbreak t
    obtain ⟨rfl, rfl⟩ := List.cons.inj (heq.symm.trans (ih (List.not_mem_of_not_mem_cons h)))
    exact hcons

theorem mem_of_mem_splitAt {isBreak : Char → Bool} {piece : Text} (hp : piece ∈ splitAt isBreak t)
    (h : c ∈ piece) : c ∈ t := by
  induction t generalizing piece with
  | nil =>
    obtain rfl := List.mem_singleton.mp hp
    exact h
  | cons d t ih =>
    cases hd : isBreak d with
    | true =>
      rw [splitAt_cons_of_break hd] at hp
      rcases List.mem_cons.mp hp with rfl | hp
      · exact absurd h List.not_mem_nil
      · exact List.mem_cons_of_mem d (ih hp h)
    | false =>
      obtain ⟨first, rest, heq, hcons⟩ := splitAt_cons_of_not hd t
      rw [hcons] at hp
      rw [heq] at ih
      rcases List.mem_cons.mp hp with rfl | hp
      · rcases List.mem_cons.mp h with rfl | h
        · exact List.mem_cons_self
        · exact List.mem_cons_of_mem d (ih List.mem_cons_self h)
      · exact List.mem_cons_of_mem d (ih (List.mem_cons_of_mem first hp) h)

theorem mem_of_mem_join {sep : Text} {ts : List Text} (h : c ∈ join sep ts) :
    c ∈ sep ∨ ∃ t ∈ ts, c ∈ t := by
  induction ts with
  | nil => exact absurd h List.not_mem_nil
  | cons t rest ih =>
    cases rest with
    | nil => exact .inr ⟨t, List.mem_cons_self, h⟩
    | cons u rest =>
      have h' : c ∈ t ++ sep ++ join sep (u :: rest) := h
      rcases List.mem_append.mp h' with h | h
      · rcases List.mem_append.mp h with h | h
        · exact .inr ⟨t, List.mem_cons_self, h⟩
        · exact .inl h
      · exact (ih h).imp id fun ⟨v, hv, hc⟩ => ⟨v, List.mem_cons_of_mem t hv, hc⟩

/-- Erasing takes characters away and moves none. -/
theorem erase_sublist (part : Text) : (t.erase part).Sublist t := by
  have hfrom : ∀ skip, (eraseFrom part skip t).Sublist t := by
    induction t with
    | nil =>
      intro skip
      cases skip <;> exact List.Sublist.refl _
    | cons d t ih =>
      intro skip
      cases skip with
      | succ skip => exact (ih skip).cons d
      | zero =>
        rw [eraseFrom]
        split
        · exact (ih _).cons d
        · exact (ih 0).cons_cons d
  unfold erase
  split
  · exact List.Sublist.refl _
  · exact hfrom 0

end Text

namespace CommentStyle
variable {c : Char} {t : Text}

theorem mem_of_mem_stripGutter (h : c ∈ stripGutter t) : c ∈ t := by
  unfold stripGutter at h
  simp only at h
  split at h
  next rest hr => exact Text.mem_of_mem_trim (Text.mem_of_mem_stripStart? hr
    (Text.mem_of_mem_trimStart h))
  · exact Text.mem_of_mem_trim h

theorem mem_of_mem_stripOpener {opener : String} (h : c ∈ stripOpener opener t) : c ∈ t := by
  unfold stripOpener at h
  simp only at h
  split at h
  next rest hr => exact Text.mem_of_mem_trim (Text.mem_of_mem_stripStart? hr
    ((List.dropWhile_sublist _).subset (Text.mem_of_mem_trimStart h)))
  · exact Text.mem_of_mem_trim h

theorem mem_of_mem_mapLines {f : Text → Text} (hf : ∀ line, c ∈ f line → c ∈ line)
    (h : c ∈ mapLines f t) : c = '\n' ∨ c ∈ t := by
  rcases Text.mem_of_mem_join (Text.mem_of_mem_trim h) with h | ⟨line, hline, h⟩
  · exact .inl (List.mem_singleton.mp h)
  · obtain ⟨piece, hpiece, rfl⟩ := List.mem_map.mp hline
    exact .inr (Text.mem_of_mem_splitAt hpiece (hf piece h))

theorem mem_of_mem_inside? {opener closer : String} {inner : Text}
    (hi : inside? opener closer t = some inner) (h : c ∈ inner) : c ∈ t := by
  unfold inside? at hi
  simp only at hi
  split at hi
  · obtain rfl := Option.some.inj hi
    exact List.mem_of_mem_drop (List.mem_of_mem_take h)
  · cases hi

/-- What a comment says holds its characters, and perhaps line feeds. -/
theorem mem_of_mem_stripMarkers {style : CommentStyle} (h : c ∈ style.stripMarkers t) :
    c = '\n' ∨ c ∈ t := by
  unfold stripMarkers at h
  simp only at h
  split at h
  next inner hinner =>
    obtain ⟨⟨opener, closer⟩, -, hinner⟩ := Option.bind_eq_some_iff.mp hinner
    refine (mem_of_mem_mapLines (fun _ => mem_of_mem_stripGutter) h).imp id fun h => ?_
    exact Text.mem_of_mem_trim (mem_of_mem_inside? hinner ((List.dropWhile_sublist _).subset h))
  · split at h
    · exact (mem_of_mem_mapLines (fun _ => mem_of_mem_stripOpener) h).imp id Text.mem_of_mem_trim
    · exact .inr (Text.mem_of_mem_trim h)

end CommentStyle

namespace Summary
variable {c : Char} {t : Text}

theorem mem_of_mem_upToStop (h : c ∈ upToStop t) : c ∈ t := by
  induction t with
  | nil => exact h
  | cons d t ih =>
    rw [upToStop] at h
    split at h
    · exact List.mem_singleton.mp h ▸ List.mem_cons_self
    · rcases List.mem_cons.mp h with rfl | h
      · exact List.mem_cons_self
      · exact List.mem_cons_of_mem d (ih h)

theorem mem_of_mem_firstSentence (h : c ∈ firstSentence t) : c ∈ t :=
  Text.mem_of_mem_trim (Text.mem_of_mem_upTo (mem_of_mem_upToStop h))

theorem mem_of_mem_truncate {count : Counter} {maxTokens : Nat}
    (h : c ∈ truncate count maxTokens t) : c ∈ t := by
  unfold truncate at h
  simp only at h
  split at h
  · exact h
  · split at h
    · exact absurd h List.not_mem_nil
    · exact List.mem_of_mem_take (Text.mem_of_mem_trimEnd h)

end Summary

end Abridge
