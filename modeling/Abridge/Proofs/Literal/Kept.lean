import Abridge.Proofs.Bisection
import Abridge.Proofs.Budget.Growth
import Abridge.Proofs.Literal.Fitting
import Abridge.Proofs.Literal.Treatment
import Abridge.Proofs.Literal.Units

/-!
How much of a string is kept.

The later a string is cut, the more tokens it counts with its closer behind it, although the closer
may become a part of the last word (`count_rebuild_le`). So bisection finds the last cut point at
which the string fits, of those that leave something out (`isGreatest_cutFor`), and the note behind
the string says how many tokens are missing (`string_keeps_longest_front`).
-/
namespace Abridge

namespace Literal
variable {count : Counter} {shape : StringShape} {content : Text} {max : Nat}

/-- Where a string may be cut so that something of it is left out: at all cut points but the
last. -/
def innerCuts (shape : StringShape) (content : Text) : List Nat :=
  (cutPoints shape.interpolation content).dropLast

/-- Whether a string cut at an offset fits with its closer. -/
def FitsAt (count : Counter) (shape : StringShape) (content : Text) (max p : Nat) : Prop :=
  count (shape.rebuild (content.before p)) ≤ max

instance (p : Nat) : Decidable (FitsAt count shape content max p) :=
  inferInstanceAs (Decidable (_ ≤ _))

theorem pairwise_innerCuts (shape : StringShape) (content : Text) :
    (innerCuts shape content).Pairwise (· < ·) := by
  obtain ⟨rest, -, hrow, -⟩ := isRow_units shape.interpolation content
  exact (pairwise_offsetsAfter hrow.ne_nil_of_mem).sublist (List.dropLast_sublist _)

theorem isBoundary_of_mem_innerCuts {p : Nat} (hp : p ∈ innerCuts shape content) :
    content.isBoundary p = true := by
  obtain ⟨rest, hcontent, -, -⟩ := isRow_units shape.interpolation content
  obtain ⟨front, back, hus, rfl⟩ := mem_cutPoints.mp (List.dropLast_subset _ hp)
  rw [hus, List.flatten_append, List.append_assoc] at hcontent
  rw [hcontent]
  exact Text.isBoundary_append_size _ _

/-- A string counts for more tokens the later it is cut. -/
theorem count_rebuild_le (hcount : count.GrowsInside) {p q : Nat}
    (hp : p ∈ innerCuts shape content) (hq : q ∈ innerCuts shape content) (hpq : p ≤ q) :
    count (shape.rebuild (content.before p)) ≤ count (shape.rebuild (content.before q)) := by
  rw [← Text.before_append_slice (isBoundary_of_mem_innerCuts hp)
    (isBoundary_of_mem_innerCuts hq) hpq, StringShape.rebuild, StringShape.rebuild,
    ← List.append_assoc shape.opener]
  exact hcount _ _ _

/-! ### The search -/

/-- The `k`-th of the inner cuts, counted from zero. -/
def cutAt (shape : StringShape) (content : Text) (k : Nat) : Nat :=
  (innerCuts shape content).getD k 0

/-- The first cut is in front of the content. -/
theorem cutAt_zero (shape : StringShape) (content : Text) : cutAt shape content 0 = 0 := by
  unfold cutAt innerCuts cutPoints
  cases offsetsAfter 0 (units shape.interpolation content) <;> rfl

theorem cutAt_mem {k : Nat} (hk : k < (innerCuts shape content).length) :
    cutAt shape content k ∈ innerCuts shape content := by
  rw [cutAt, List.getD_eq_getElem _ _ hk]
  exact List.getElem_mem hk

theorem exists_cutAt {p : Nat} (hp : p ∈ innerCuts shape content) :
    ∃ k < (innerCuts shape content).length, cutAt shape content k = p := by
  obtain ⟨k, hk, rfl⟩ := List.mem_iff_getElem.mp hp
  exact ⟨k, hk, List.getD_eq_getElem _ _ hk⟩

theorem cutAt_le_cutAt {j k : Nat} (hjk : j ≤ k) (hk : k < (innerCuts shape content).length) :
    cutAt shape content j ≤ cutAt shape content k :=
  getD_le_getD (pairwise_innerCuts shape content) hjk hk

/-- Which of its inner cuts a string is cut at. -/
def cutFor (count : Counter) (shape : StringShape) (content : Text) (max : Nat) : Nat :=
  bisect (fun k => FitsAt count shape content max (cutAt shape content k)) 0
    ((innerCuts shape content).length - 1)

theorem exists_of_keptContent? {kept : Text}
    (h : keptContent? count shape content max = some kept) :
    0 < (innerCuts shape content).length ∧
      kept = content.before (cutAt shape content (cutFor count shape content max)) := by
  unfold keptContent? at h
  simp only at h
  split at h
  · cases h
  next hne =>
    have hne : innerCuts shape content ≠ [] := fun hnil => hne (List.isEmpty_iff.mpr hnil)
    exact ⟨List.length_pos_iff.mpr hne, (Option.some.inj h).symm⟩

/-- Where a string fits at some of its inner cuts, the search ends at the last of these. -/
theorem isGreatest_cutFor (hcount : count.GrowsInside) {p : Nat}
    (hp : p ∈ innerCuts shape content) (hfits : FitsAt count shape content max p) :
    IsGreatest {q | q ∈ innerCuts shape content ∧ FitsAt count shape content max q}
      (cutAt shape content (cutFor count shape content max)) := by
  obtain ⟨k, hk, rfl⟩ := exists_cutAt hp
  have hmono : ∀ i j, i ≤ j → j ≤ (innerCuts shape content).length - 1 →
      decide (FitsAt count shape content max (cutAt shape content j)) = true →
      decide (FitsAt count shape content max (cutAt shape content i)) = true := by
    intro i j hij hj hpass
    have hle := count_rebuild_le hcount (cutAt_mem (by omega)) (cutAt_mem (by omega))
      (cutAt_le_cutAt hij (by omega) : cutAt shape content i ≤ _)
    exact decide_eq_true (hle.trans (of_decide_eq_true hpass))
  obtain ⟨⟨hle, hpass⟩, hgreatest⟩ :=
    isGreatest_bisect hmono ⟨k, Nat.le_sub_one_of_lt hk, decide_eq_true hfits⟩
  have hlast : cutFor count shape content max < (innerCuts shape content).length :=
    Nat.lt_of_le_of_lt hle (by omega)
  refine ⟨⟨cutAt_mem hlast, of_decide_eq_true hpass⟩, ?_⟩
  rintro q ⟨hq, hfits⟩
  obtain ⟨j, hj, rfl⟩ := exists_cutAt hq
  exact cutAt_le_cutAt (hgreatest ⟨Nat.le_sub_one_of_lt hj, decide_eq_true hfits⟩) hlast

/-- Where it fits at none, the search ends at the first. -/
theorem cutFor_eq_zero (hpos : 0 < (innerCuts shape content).length)
    (hnone : ∀ p ∈ innerCuts shape content, ¬ FitsAt count shape content max p) :
    cutFor count shape content max = 0 :=
  bisect_eq_zero fun _ hk => decide_eq_false (hnone _ (cutAt_mem (by omega)))

/-! ### The note -/

/-- A note holds what it says. -/
theorem exists_note?_eq {d : Document} {stop : Nat} {text : Text} {noteAt : Nat} {note : Text}
    (h : note? d stop text = some (noteAt, note)) :
    ∃ front back, note = front ++ text ++ back := by
  obtain ⟨front, back, hline⟩ := d.comments.exists_lineComment_eq
  unfold note? at h
  simp only at h
  split at h
  · obtain ⟨-, rfl⟩ := Prod.mk.inj (Option.some.inj h)
    exact ⟨[' '] ++ front, back, by rw [hline]; simp⟩
  · split at h
    · obtain ⟨-, rfl⟩ := Prod.mk.inj (Option.some.inj h)
      exact ⟨front, back ++ [' '], by rw [hline]; simp⟩
    · obtain ⟨comment, hcomment, heq⟩ := Option.map_eq_some_iff.mp h
      obtain ⟨⟨opener, closer⟩, -, rfl⟩ := Option.map_eq_some_iff.mp hcomment
      obtain ⟨-, rfl⟩ := Prod.mk.inj heq
      exact ⟨[' '] ++ (opener.toList ++ [' ']), [' '] ++ closer.toList, by
        simp [CommentStyle.enclose]⟩

/-- **A trimmed string keeps its longest front that fits.** With each of the built-in counters, what
is kept of the content ends at the last of its inner cuts at which the string fits with its closer,
and at its very start if it fits at none. The note behind the string gives the number of tokens that
the string has lost, and that is not zero. -/
theorem string_keeps_longest_front {profile : Profile} {d : Document} {count : Counter} {n : Node}
    {max : Nat} {t : TrimmedString}
    (hcount : count = .quarterBytes ∨ count = .bytes ∨ count = .words)
    (ht : trimString? profile d count n (count (d.textOf n)) max = some t) :
    ∃ shape p saved, profile.stringShape? d n = some shape ∧
      let content := d.lines.textOf shape.content
      t.text = shape.rebuild (content.before p) ∧
      ((∃ q ∈ innerCuts shape content, FitsAt count shape content max q) →
        IsGreatest {q | q ∈ innerCuts shape content ∧ FitsAt count shape content max q} p) ∧
      ((∀ q ∈ innerCuts shape content, ¬ FitsAt count shape content max q) → p = 0) ∧
      0 < saved ∧ count t.text + saved = count (d.textOf n) ∧
      note? d n.stop (Placeholder.literalString saved) = some (t.noteAt, t.note) ∧
      ∃ front back, t.note = front ++ Placeholder.literalString saved ++ back := by
  have hgrows : count.GrowsInside := Counter.growsInside_of_builtIn hcount
  obtain ⟨shape, kept, hshape, hkept, htext, hsaved, hnote⟩ := exists_of_trimString? ht
  obtain ⟨hpos, rfl⟩ := exists_of_keptContent? hkept
  refine ⟨shape, _, _, hshape, htext, ?longest, ?none, Nat.pos_of_ne_zero hsaved, by omega, hnote,
    exists_note?_eq hnote⟩
  case longest =>
    rintro ⟨q, hq, hfits⟩
    exact isGreatest_cutFor hgrows hq hfits
  case none =>
    intro hnone
    rw [cutFor_eq_zero hpos hnone, cutAt_zero]

namespace fourWords

/-- A string of four words in a file in JavaScript. -/
def document : Document :=
  .ofTree .javascript "s = \"one two three four\";\n".toList <|
    .named "program" 0 26 [
      .named "expression_statement" 0 25 [
        .named "assignment_expression" 0 24 [
          .inField "left" (.named "identifier" 0 1 []),
          .token "=" 2 3,
          .inField "right" (.named "string" 4 24 [
            .token "\"" 4 5,
            .named "string_fragment" 5 23 [],
            .token "\"" 23 24])],
        .token ";" 24 25]]

def string : Node :=
  (document.nodes.find? fun n => n.kind == "string").getD document.root

/-- The string, cut to two words. -/
def trimmed : TrimmedString :=
  (trimString? document.language.profile document Counter.words string
    (Counter.words (document.textOf string)) 2).get (by decide +kernel)

end fourWords

/-- Two words fit with the quote behind them, which a blank in front of it makes a third one. -/
theorem string_keeps_longest_front_words :
    let d := fourWords.document
    let n := fourWords.string
    let t := fourWords.trimmed
    trimString? d.language.profile d Counter.words n (Counter.words (d.textOf n)) 2 = some t ∧
      t.text = "\"one two\"".toList ∧
      ∃ shape p, d.language.profile.stringShape? d n = some shape ∧
        t.text = shape.rebuild (Text.before (d.lines.textOf shape.content) p) ∧
        IsGreatest {q | q ∈ innerCuts shape (d.lines.textOf shape.content) ∧
          FitsAt Counter.words shape (d.lines.textOf shape.content) 2 q} p ∧
        ∃ front back, t.note = front ++ Placeholder.literalString 2 ++ back := by
  intro d n t
  have htrim : trimString? d.language.profile d Counter.words n (Counter.words (d.textOf n)) 2 =
      some t := (Option.some_get _).symm
  have hfits : ∀ shape ∈ d.language.profile.stringShape? d n,
      ∃ q ∈ innerCuts shape (d.lines.textOf shape.content),
        FitsAt Counter.words shape (d.lines.textOf shape.content) 2 q := by decide +kernel
  obtain ⟨shape, p, saved, hshape, htext, hlongest, -, -, hsaved, -, hnote⟩ :=
    string_keeps_longest_front (.inr (.inr rfl)) htrim
  have hlost : Counter.words t.text + 2 = Counter.words (d.textOf n) := by decide +kernel
  obtain rfl : saved = 2 := by omega
  exact ⟨htrim, by decide +kernel, shape, p, hshape, htext, hlongest (hfits shape hshape), hnote⟩

end Literal
end Abridge
