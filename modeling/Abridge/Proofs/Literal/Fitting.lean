import Abridge.Proofs.Bisection
import Abridge.Proofs.Budget.Smallest
import Abridge.Proofs.Comment.Elision
import Abridge.Proofs.Literal.Balance
import Abridge.Proofs.Text.Words
import Mathlib.Order.Bounds.Basic

/-!
How many elements of a collection are kept.

What is left of a collection counts for more tokens the more of its elements are kept, although the
number in the comment may lose a digit (`Layout.count_cut_le`). Every counter that is gradual sees
to that (`Counter.IsGradual`): those that go by length are, and so is the one that counts words. So
bisection finds the largest number of elements that fits, and what trimming leaves fits unless not
even the comment alone does (`trim_keeps_as_many_as_fit`).
-/
namespace Abridge

open Placeholder (marker more decimal)

/-! ### The number in a comment -/

theorem Text.size_eq_length_of_isDigit {t : Text} (h : t.all Char.isDigit = true) :
    t.size = t.length := by
  induction t with
  | nil => rfl
  | cons c t ih =>
    obtain ⟨hc, ht⟩ := Bool.and_eq_true_iff.mp h
    have hle : c.val.toNat ≤ 57 := by
      simpa [UInt32.le_iff_toNat_le] using (Bool.and_eq_true_iff.mp hc).2
    have hsize : c.utf8Size = 1 :=
      Char.utf8Size_eq_one_iff.mpr (UInt32.le_iff_toNat_le.mpr (hle.trans (by decide)))
    rw [size_cons, hsize, ih ht, List.length_cons, Nat.add_comm]

namespace Placeholder

/-- One more is one digit more at most. -/
theorem length_decimal_succ_le (n : Nat) : (decimal (n + 1)).length ≤ (decimal n).length + 1 := by
  have hlt : n < 10 ^ (decimal n).length :=
    (Nat.length_toDigits_le_iff (by decide) Nat.length_toDigits_pos).mp (Nat.le_refl _)
  refine (Nat.length_toDigits_le_iff (by decide) (Nat.succ_pos _)).mpr ?_
  rw [Nat.pow_succ]
  omega

theorem size_more_succ_le (n : Nat) : Text.size (more (n + 1)) ≤ Text.size (more n) + 1 := by
  have hdigits := length_decimal_succ_le n
  simp only [more, Text.size_append, Text.size_eq_length_of_isDigit (isDigit_decimal _)]
  omega

theorem isBlank_of_mem_decimal {n : Nat} {c : Char} (h : c ∈ decimal n) :
    Text.isBlank c = false := by
  have hdigit : c.isDigit = true := List.all_eq_true.mp (isDigit_decimal n) c h
  have hrange : 48 ≤ c.toNat ∧ c.toNat ≤ 57 := by
    simpa [Char.isDigit, UInt32.le_iff_toNat_le] using hdigit
  simp only [Text.isBlank, Bool.or_eq_false_iff, Bool.and_eq_false_iff, decide_eq_false_iff_not,
    beq_eq_false_iff_ne]
  omega

/-- The number is a word of its own. -/
theorem length_words_more (front back : Text) (n : Nat) :
    (Text.words (front ++ more n ++ back)).length =
      (Text.words (front ++ [marker])).length +
        (1 + (Text.words ("more".toList ++ back)).length) := by
  have hnumber : (Text.words (decimal n)).length = 1 :=
    Text.length_words_of_forall Nat.toDigits_ne_nil fun _ => isBlank_of_mem_decimal
  have heq : front ++ more n ++ back =
      front ++ [marker] ++ ' ' :: (decimal n ++ ' ' :: ("more".toList ++ back)) := by
    simp [more]
  have hspace : Text.isBlank ' ' = true := by decide
  rw [heq, Text.length_words_append_blank _ hspace, Text.length_words_append_blank _ hspace,
    hnumber]

end Placeholder

/-! ### Gradual counters -/

/-- Whether one element more in front of the comment never counts for fewer tokens. The comment
stands behind `lead`, or behind a comma and `next` if there are elements in front of it, and it says
that one element less is missing. -/
structure Counter.IsGradual (count : Counter) : Prop where
  first : ∀ {lead next : Text}, next = lead ∨ next = ' ' :: lead →
    next.head?.any Text.isBlank = true → ∀ (kept added back : Text) (missing : Nat),
      count (kept ++ lead ++ more (missing + 1) ++ back) ≤
        count (kept ++ added ++ [','] ++ next ++ more missing ++ back)
  further : ∀ {next : Text}, next.head?.any Text.isBlank = true → ∀ (kept : Text) {added : Text},
    added ≠ [] → ∀ (back : Text) (missing : Nat),
      count (kept ++ [','] ++ next ++ more (missing + 1) ++ back) ≤
        count (kept ++ added ++ [','] ++ next ++ more missing ++ back)

namespace Counter
variable {count : Counter}

/-- An element and a comma each make up for a digit. -/
theorem FollowsSize.isGradual (h : count.FollowsSize) : count.IsGradual where
  first {lead next} hnext _ kept added back missing := by
    have hmore := Placeholder.size_more_succ_le missing
    have hlead : lead.size ≤ next.size := by
      rcases hnext with rfl | rfl
      · exact Nat.le_refl _
      · exact Nat.le_add_left _ _
    have hcomma : Text.size [','] = 1 := rfl
    refine h _ _ ?_
    simp only [Text.size_append]
    omega
  further {next} _ kept added hadded back missing := by
    have hmore := Placeholder.size_more_succ_le missing
    have hpos := Text.size_pos hadded
    refine h _ _ ?_
    simp only [Text.size_append]
    omega

theorem isGradual_words : words.IsGradual where
  first {lead next} hnext hblank kept added back missing := by
    obtain ⟨c, t, rfl⟩ : ∃ c t, next = c :: t :=
      List.exists_cons_of_ne_nil (by rintro rfl; cases hblank)
    have hc : Text.isBlank c = true := by simpa using hblank
    have hlead : (Text.words (lead ++ [marker])).length = (Text.words (t ++ [marker])).length := by
      rcases hnext with rfl | heq
      · exact Text.length_words_append_blank [] hc _ |>.trans (Nat.zero_add _)
      · rw [(List.cons.inj heq).2]
    have hjoin := Text.length_words_append_le kept (lead ++ [marker])
    have hkept := Text.length_words_le_append kept (added ++ [','])
    have hsplit := Text.length_words_append_blank (kept ++ added ++ [',']) hc (t ++ [marker])
    show (Text.words _).length ≤ (Text.words _).length
    rw [Placeholder.length_words_more, Placeholder.length_words_more]
    simp only [List.append_assoc, List.cons_append] at *
    omega
  further {next} hblank kept added _ back missing := by
    obtain ⟨c, t, rfl⟩ : ∃ c t, next = c :: t :=
      List.exists_cons_of_ne_nil (by rintro rfl; cases hblank)
    have hc : Text.isBlank c = true := by simpa using hblank
    have hcomma := Text.length_words_insert_le kept added [',']
    have hsplit := Text.length_words_append_blank (kept ++ [',']) hc (t ++ [marker])
    have hsplit' := Text.length_words_append_blank (kept ++ added ++ [',']) hc (t ++ [marker])
    show (Text.words _).length ≤ (Text.words _).length
    rw [Placeholder.length_words_more, Placeholder.length_words_more]
    simp only [List.append_assoc, List.cons_append] at *
    omega

end Counter

/-! ### What is left of a collection -/

theorem CommentStyle.exists_lineComment_eq (style : CommentStyle) :
    ∃ front back, ∀ t, style.lineComment t = front ++ t ++ back := by
  unfold lineComment blockComment?
  cases style.line with
  | some opener => exact ⟨_, [], fun t => (List.append_nil _).symm⟩
  | none =>
    cases style.block with
    | some delimiters =>
      exact ⟨delimiters.1.toList ++ [' '], [' '] ++ delimiters.2.toList,
        fun t => by simp [enclose]⟩
    | none => exact ⟨[], [], fun t => by simp⟩

namespace Literal

namespace Layout
variable {l : Layout}

/-- What stands in the place of missing elements varies in the number, and in the comma that comes
in front of it, with a blank behind it. -/
theorem exists_close_eq (l : Layout) :
    ∃ lead next back : Text, (next = lead ∨ next = ' ' :: lead) ∧
      next.head?.any Text.isBlank = true ∧ ∀ kept missing,
        l.close kept false missing = kept ++ lead ++ more missing ++ back ∧
        l.close kept true missing = kept ++ [','] ++ next ++ more missing ++ back := by
  obtain ⟨front, back, hline⟩ := l.document.comments.exists_lineComment_eq
  unfold close CommentStyle.blockComment?
  by_cases hinline : l.ownLine = false ∧ l.document.comments.block.isSome
  · obtain ⟨hown, hblock⟩ := hinline
    obtain ⟨⟨opener, closer⟩, hblock⟩ := Option.isSome_iff_exists.mp hblock
    refine ⟨opener.toList ++ [' '], _, [' '] ++ closer.toList ++ l.closer, .inr rfl, rfl, ?_⟩
    exact fun kept missing => by simp [hown, hblock, CommentStyle.enclose]
  · let lead := ['\n'] ++ l.elementIndent ++ front
    refine ⟨lead, lead, back ++ ['\n'] ++ l.closerIndent ++ l.closer, .inl rfl, rfl, ?_⟩
    intro kept missing
    cases hown : l.ownLine with
    | true => simp [lead, hline]
    | false =>
      have hblock : l.document.comments.block = none := by simpa [hown] using hinline
      simp [lead, hline, hblock]

theorem count_cut_kept_le {count : Counter} {budget : Nat} (h : count (l.cut 0) ≤ budget) :
    count (l.cut (l.kept count budget)) ≤ budget := by
  rcases bisect_eq_or_fits (fun k => count (l.cut k) ≤ budget) 0 (l.length - 1) with heq | hfits
  · rw [kept, heq]
    exact h
  · exact of_decide_eq_true hfits

section
variable (hl : l.IsLaid) (helements : ∀ e ∈ l.collection.elements, e.start < e.stop)
  {count : Counter} (hcount : count.IsGradual) {j k : Nat}
include hl helements hcount

theorem count_cut_le_succ (hk : k + 1 < l.length) : count (l.cut k) ≤ count (l.cut (k + 1)) := by
  obtain ⟨lead, next, back, hnext, hblank, hclose⟩ := l.exists_close_eq
  obtain ⟨e, he⟩ : ∃ e, l.collection.elements[k]? = some e :=
    ⟨_, List.getElem?_eq_getElem (Nat.lt_of_succ_lt hk)⟩
  have hmem := List.mem_of_getElem? he
  have hmissing : l.length - k = l.length - (k + 1) + 1 := by omega
  have hsome : l.cut (k + 1) = _ := (hclose (l.head (k + 1)) (l.length - (k + 1))).2
  rw [hsome, hl.head_succ he, List.append_assoc (l.head k)]
  cases k with
  | zero =>
    have hnone : l.cut 0 = _ := (hclose (l.head 0) (l.length - 0)).1
    rw [hnone, hmissing]
    exact hcount.first hnext hblank _ _ _ _
  | succ k =>
    have hsome : l.cut (k + 1) = _ := (hclose (l.head (k + 1)) (l.length - (k + 1))).2
    rw [hsome, hmissing]
    refine hcount.further hblank _ ?_ _ _
    have hstretch := hl.element _ hmem
    have hne := Text.slice_ne_nil hstretch.isBoundary_start hstretch.isBoundary_stop
      (helements _ hmem)
    rw [← hstretch.textBetween_eq] at hne
    exact List.append_ne_nil_of_right_ne_nil _ hne

/-- The more elements are kept, the more tokens are left. -/
theorem count_cut_le (hjk : j ≤ k) (hk : k < l.length) : count (l.cut j) ≤ count (l.cut k) := by
  induction k, hjk using Nat.le_induction with
  | base => exact Nat.le_refl _
  | succ k hjk ih => exact (ih (by omega)).trans (count_cut_le_succ hl helements hcount hk)

/-- As many elements are kept as fit, if any number fits. -/
theorem isGreatest_kept {budget : Nat} (h : ∃ k < l.length, count (l.cut k) ≤ budget) :
    IsGreatest {k | k < l.length ∧ count (l.cut k) ≤ budget} (l.kept count budget) := by
  obtain ⟨k, hk, hfits⟩ := h
  have hset : {k | k < l.length ∧ count (l.cut k) ≤ budget} =
      {k | k ≤ l.length - 1 ∧ decide (count (l.cut k) ≤ budget) = true} := by
    ext j
    simp only [Set.mem_ofPred_eq, decide_eq_true_eq]
    omega
  rw [hset]
  refine isGreatest_bisect (fun i j hij hj hfits => ?_)
    ⟨k, Nat.le_sub_one_of_lt hk, decide_eq_true hfits⟩
  have hle := count_cut_le hl helements hcount hij (by omega)
  exact decide_eq_true (hle.trans (of_decide_eq_true hfits))

end

end Layout

/-- Where the comment alone fits, what is left fits: a collection that is trimmed in turn is not
used otherwise. -/
theorem count_le_of_trimCollection? {profile : Profile} {d : Document} {count : Counter} {n : Node}
    {budget : Nat} {l : Layout} (hl : layout? profile d n = some l)
    (hzero : count (l.cut 0) ≤ budget) {t : Trimmed}
    (h : trimCollection? profile d count n budget = some t) : count t.text ≤ budget := by
  obtain ⟨c, hc, rfl⟩ := Option.map_eq_some_iff.mp hl
  have hplain := Layout.count_cut_kept_le hzero
  rw [trimCollection?, hc] at h
  dsimp only at h
  split at h
  · cases h
  split at h
  · exact Option.some.inj h ▸ hplain
  split at h
  · exact Option.some.inj h ▸ hplain
  split at h
  · exact Option.some.inj h ▸ hplain
  split at h
  · split at h
    · cases h
    split at h
    next hfits => exact Option.some.inj h ▸ hfits
    · exact Option.some.inj h ▸ hplain
  · exact Option.some.inj h ▸ hplain

/-- **A collection keeps as many elements as fit.** With each of the built-in counters, of the
numbers of elements that leave one out at least and fit with the comment about the others, the
largest is taken, and none where none fits. What trimming leaves then fits too, unless not even the
comment alone does. -/
theorem trim_keeps_as_many_as_fit {d : Document} (hd : d.IsNested) {n : Node} (hn : n ∈ d.nodes)
    {l : Layout} (hl : layout? d.language.profile d n = some l)
    (helements : ∀ e ∈ l.collection.elements, e.start < e.stop) {count : Counter}
    (hcount : count = .quarterBytes ∨ count = .bytes ∨ count = .words) (budget : Nat) :
    ((∃ k < l.length, count (l.cut k) ≤ budget) →
      IsGreatest {k | k < l.length ∧ count (l.cut k) ≤ budget} (l.kept count budget)) ∧
    ((∀ k < l.length, budget < count (l.cut k)) → l.kept count budget = 0) ∧
    ∀ t, trimCollection? d.language.profile d count n budget = some t →
      count t.text ≤ budget ∨ budget < count (l.cut 0) := by
  have hgradual : count.IsGradual := by
    rcases hcount with rfl | rfl | rfl
    · exact Counter.followsSize_quarterBytes.isGradual
    · exact Counter.followsSize_bytes.isGradual
    · exact Counter.isGradual_words
  refine ⟨Layout.isGreatest_kept (isLaid_of_layout? hn hl hd) helements hgradual, fun hnone => ?_,
    fun t ht => ?_⟩
  · rcases bisect_eq_or_fits (fun k => count (l.cut k) ≤ budget) 0 (l.length - 1) with heq | hfits
    · exact heq
    · by_contra hne
      have hle : l.kept count budget ≤ l.length - 1 := bisect_le _ _ _ (Nat.zero_le _)
      have hlt := hnone (l.kept count budget) (by omega)
      exact absurd (of_decide_eq_true hfits) (Nat.not_le_of_lt hlt)
  · rcases Nat.lt_or_ge budget (count (l.cut 0)) with hlt | hzero
    · exact .inr hlt
    · exact .inl (count_le_of_trimCollection? hl hzero ht)

/-- Ten digits in a file in JavaScript. -/
def digits : Document :=
  .ofTree .javascript "[1, 2, 3, 4, 5, 6, 7, 8, 9, 0];\n".toList <|
    .named "program" 0 32 [
      .named "expression_statement" 0 31 [
        .named "array" 0 30 <| .token "[" 0 1 :: (List.range 10).flatMap fun i =>
          [.named "number" (3 * i + 1) (3 * i + 2) [],
            .token (if i = 9 then "]" else ",") (3 * i + 2) (3 * i + 3)],
        .token ";" 30 31]]

/-- Ten missing elements are counted with two digits, nine with one. -/
theorem trim_keeps_as_many_as_fit_digits :
    digits.IsWellFormed ∧ arrayAt digits 0 ∈ digits.nodes ∧
      ∃ l, layout? digits.language.profile digits (arrayAt digits 0) = some l ∧
        (∀ e ∈ l.collection.elements, e.start < e.stop) ∧
        IsGreatest {k | k < l.length ∧ Counter.bytes (l.cut k) ≤ 22} 1 ∧
        trimCollection? digits.language.profile digits Counter.bytes (arrayAt digits 0) 22 =
          some ⟨"[1, /* … 9 more */]".toList, 1⟩ ∧
        (Counter.bytes "[1, /* … 9 more */]".toList ≤ 22 ∨ 22 < Counter.bytes (l.cut 0)) := by
  have hd : digits.IsWellFormed := Document.isWellFormed_iff.mp (by decide +kernel)
  have hn := arrayAt_mem_nodes digits 0
  have hsome : (layout? digits.language.profile digits (arrayAt digits 0)).isSome = true := by
    decide +kernel
  obtain ⟨l, hl⟩ := Option.isSome_iff_exists.mp hsome
  have hfacts : ∀ l ∈ layout? digits.language.profile digits (arrayAt digits 0),
      (∀ e ∈ l.collection.elements, e.start < e.stop) ∧ 1 < l.length ∧
        Counter.bytes (l.cut 1) ≤ 22 ∧ l.kept Counter.bytes 22 = 1 := by
    decide +kernel
  obtain ⟨helements, hlength, hfits, hkept⟩ := hfacts l hl
  have htrim : trimCollection? digits.language.profile digits Counter.bytes (arrayAt digits 0) 22 =
      some ⟨"[1, /* … 9 more */]".toList, 1⟩ := by
    decide +kernel
  obtain ⟨hgreatest, -, hresult⟩ :=
    trim_keeps_as_many_as_fit hd.isNested hn hl helements (.inr (.inl rfl)) 22
  exact ⟨hd, hn, l, hl, helements, hkept ▸ hgreatest ⟨1, hlength, hfits⟩, htrim, hresult _ htrim⟩

end Literal

end Abridge
