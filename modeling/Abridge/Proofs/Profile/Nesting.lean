import Abridge.Proofs.Declaration.Outermost
import Abridge.Proofs.Profile.Layout
import Mathlib.Data.List.Pairwise

/-!
Which bytes declarations share.

A declaration takes in what wraps it, what is attached to it from above and the separator behind it.
However far that reaches, two declarations share a byte only if one of them belongs to the other,
and then the one takes in all that the other does (`Language.declarations_nest`).
-/
namespace Abridge

/-- Whether a byte lies in a span. -/
def Span.Covers (s : Span) (offset : Nat) : Prop :=
  s.start ≤ offset ∧ offset < s.stop

namespace Declaration

/-- Whether two declarations lie apart in the text, or one of them inside the other along with what
it declares. -/
structure Nests (e f : Declaration) : Prop where
  shared : ∀ offset, e.span.Covers offset → f.span.Covers offset →
    e.node.encloses f.node = true ∨ f.node.encloses e.node = true
  around : e.node.encloses f.node = true → e.span.contains f.span = true
  inside : f.node.encloses e.node = true → f.span.contains e.span = true

variable {d : Document} {e f : Declaration}

theorem Nests.symm (h : Nests e f) : Nests f e where
  shared offset hf he := (h.shared offset he hf).symm
  around := h.inside
  inside := h.around

/-- What comes in front of a declaration ends before it, and what comes around it holds it. -/
theorem Ahead.nests (h : Ahead d e f) : Nests e f where
  shared offset he hf := by
    cases hnode : e.node.encloses f.node with
    | true => exact .inl rfl
    | false =>
      have hle := h.stop_le hnode
      exact absurd (he.2.trans_le hle) (Nat.not_lt.mpr hf.1)
  around hnode := Span.contains_iff.mpr (h.contains hnode)
  inside hnode := by
    rw [h.not_encloses] at hnode
    cases hnode

end Declaration

/-- **What two declarations take in lies apart, or one inside the other.** In a tree whose children
lie inside their parent and each behind the one in front, this holds of any two entries of what the
profile of a language declares. -/
theorem Language.declarations_nest {d : Document} (hd : d.IsOrdered) (l : Language) {i j : Nat}
    {e f : Declaration} (hij : i ≠ j) (he : (l.profile.declarations d)[i]? = some e)
    (hf : (l.profile.declarations d)[j]? = some f) : e.Nests f := by
  have hahead := List.pairwise_iff_getElem.mp (l.isBelow_root hd).inOrder
  obtain ⟨hi, rfl⟩ := List.getElem?_eq_some_iff.mp he
  obtain ⟨hj, rfl⟩ := List.getElem?_eq_some_iff.mp hf
  rcases Nat.lt_or_gt_of_ne hij with hlt | hlt
  · exact (hahead i j hi hj hlt).nests
  · exact (hahead j i hj hi hlt).nests.symm

namespace Language

/-- A type with documentation, a member and a semicolon, and a function. -/
def header : Document :=
  .ofTree .cpp "/** A point. */\nstruct P \x7b int x; \x7d;\nint f();\n".toList <|
    .named "translation_unit" 0 46 [
      .named "comment" 0 15 [],
      .named "struct_specifier" 16 35 [
        .token "struct" 16 22,
        .inField "name" (.named "type_identifier" 23 24 []),
        .inField "body" (.named "field_declaration_list" 25 35 [
          .token "\x7b" 25 26,
          .named "field_declaration" 27 33 [
            .inField "type" (.named "primitive_type" 27 30 []),
            .inField "declarator" (.named "field_identifier" 31 32 []),
            .token ";" 32 33],
          .token "\x7d" 34 35])],
      .token ";" 35 36,
      .named "declaration" 37 45 [
        .inField "type" (.named "primitive_type" 37 40 []),
        .inField "declarator" (.named "function_declarator" 41 44 [
          .inField "declarator" (.named "identifier" 41 42 []),
          .inField "parameters" (.named "parameter_list" 42 44 [
            .token "(" 42 43, .token ")" 43 44])]),
        .token ";" 44 45]]

theorem isWellFormed_header : header.isWellFormed = true := by
  decide +kernel

/-- What is declared in the file: how far it reaches, and which entries belong to it. -/
theorem declarations_header :
    let ds := Language.cpp.profile.declarations header
    ds.map Declaration.span = [.between 0 36, .between 27 33, .between 37 45] ∧
      (ds.map fun e => ds.map (e.node.encloses ·.node)) =
        [[false, true, false], [false, false, false], [false, false, false]] := by
  decide +kernel

/-- The type takes in its documentation, its semicolon and its member, and nothing of the
function. -/
theorem declarations_nest_header :
    header.IsOrdered ∧ ∃ type member function,
      Language.cpp.profile.declarations header = [type, member, function] ∧
      type.span = .between 0 36 ∧ type.span.contains member.span = true ∧
      ∀ offset, type.span.Covers offset → ¬ function.span.Covers offset := by
  have hordered : header.IsOrdered :=
    (Document.isWellFormed_iff.mp isWellFormed_header).isOrdered
  obtain ⟨hspans, hnodes⟩ := declarations_header
  obtain ⟨type, member, function, heq⟩ : ∃ type member function,
      Language.cpp.profile.declarations header = [type, member, function] :=
    List.length_eq_three.mp (by simpa using congrArg List.length hspans)
  rw [heq] at hspans hnodes
  simp only [List.map_cons, List.map_nil, List.cons.injEq, and_true] at hspans hnodes
  obtain ⟨⟨-, hmember, hfunction⟩, -, hback, -, -⟩ := hnodes
  refine ⟨hordered, type, member, function, heq, hspans.1, ?_, fun offset hin hout => ?_⟩
  · exact (declarations_nest hordered .cpp Nat.zero_ne_one (congrArg (·[0]?) heq)
      (congrArg (·[1]?) heq)).around hmember
  · rcases (declarations_nest hordered .cpp (i := 0) (j := 2) (by decide) (congrArg (·[0]?) heq)
      (congrArg (·[2]?) heq)).shared offset hin hout with h | h
    · rw [hfunction] at h
      cases h
    · rw [hback] at h
      cases h

end Language
end Abridge
