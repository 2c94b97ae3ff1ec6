import Abridge.Proofs.Comment.Spliced
import Abridge.Proofs.Literal.Delimiters

/-!
The delimiters of a string literal are made of its own characters, of quotes and of brackets; none
of them brings a marker along, and the closing one begins with what stops the reading of a
placeholder.
-/
namespace Abridge.StringShape

open Placeholder (marker Opens)

theorem quoteOf_cons {q : Char} (hq : isQuote q = true) (rest : Text) :
    marker ∉ quoteOf (q :: rest) ∧ Opens (quoteOf (q :: rest)) := by
  rw [quoteOf_eq hq]
  rcases isQuote_iff.mp hq with rfl | rfl | rfl <;> split
  all_goals exact ⟨by decide, _, _, rfl, by decide⟩

/-- What delimits a string without markers. -/
theorem not_mem_of_ofText? {text : Text} {start : Nat} {shape : StringShape}
    (h : ofText? text start = some shape) (hmarker : marker ∉ text) :
    text ≠ [] ∧ marker ∉ shape.opener ∧ marker ∉ shape.closer ∧ Opens shape.closer := by
  obtain ⟨lead, q, rest, -, -, hq, rfl, hdelimiters, -⟩ := ofText?_eq_some_iff.mp h
  have hlead : marker ∉ lead := fun h => hmarker (List.mem_append_left _ h)
  have hrest : marker ∉ q :: rest := fun h => hmarker (List.mem_append_right lead h)
  refine ⟨by simp, ?_⟩
  rcases delimiters?_cases hdelimiters with ⟨hraw, tag, back, htag, heq⟩ | hraw
  · obtain ⟨rfl, rfl⟩ := List.cons.inj heq
    rw [delimiters?_tagged hraw htag] at hdelimiters
    obtain ⟨hopener, hcloser⟩ := Prod.mk.inj (Option.some.inj hdelimiters)
    have hfront : marker ∉ tag := fun h =>
      hrest (List.mem_cons_of_mem _ (List.mem_append_left _ h))
    rw [← hopener, ← hcloser]
    refine ⟨?_, ?_, ')', tag ++ ['"'], by simp, by decide⟩
    · simp only [List.mem_append, List.mem_cons, List.not_mem_nil, or_false, not_or]
      exact ⟨⟨hlead, by decide, hfront⟩, by decide⟩
    · simp only [List.mem_append, List.mem_cons, List.not_mem_nil, or_false, not_or]
      exact ⟨⟨by decide, hfront⟩, by decide⟩
  · rw [delimiters?_quoted hraw] at hdelimiters
    obtain ⟨hopener, hcloser⟩ := Prod.mk.inj (Option.some.inj hdelimiters)
    obtain ⟨hquote, c, u, heq, hc⟩ := quoteOf_cons hq rest
    rw [← hopener, ← hcloser]
    refine ⟨fun h => (List.mem_append.mp h).elim hlead hquote, fun h => ?_,
      c, u ++ List.replicate (lead.count '#') '#', ?_, hc⟩
    · rcases List.mem_append.mp h with h | h
      · exact hquote h
      · exact absurd (List.eq_of_mem_replicate h) (by decide)
    · rw [heq]
      rfl

end Abridge.StringShape
