import Abridge.Proofs.Comment.Elision
import Abridge.Proofs.Edit.Splice
import Abridge.Proofs.Text.Lines

/-!
Placeholders of a text that edits were carried out on.

In a source without markers, what is read from the edited text is what is read from the new texts
one by one (`countElisions_apply`). The new texts need to be closed for that. One that ends in a
bare marker will do as well (`IsCapped`), if only blanks follow on its line and no other new text
begins with what could continue the marker (`Opens`).
-/
namespace Abridge.Placeholder

open EditQueue

/-- Whether no marker of a text has anything behind it. -/
def IsCapped (t : Text) : Prop :=
  t.Pairwise fun c _ => c ≠ marker

/-- Whether a text begins with what cannot stand in a placeholder. -/
def Opens (t : Text) : Prop :=
  ∃ c u, t = c :: u ∧ isReadable c = false

/-- Whether a new text can be read apart from what follows it: it is closed, or at most its last
character is a marker, and nothing but blanks is left of the line. -/
def Settled (l : Lines) (e : Edit) : Prop :=
  IsClosed e.text ∨ IsCapped e.text ∧ (l.lineRest e.span.stop).isBlankText = true

/-! ### Capped texts -/

theorem isCapped_of_not_mem {t : Text} (h : marker ∉ t) : IsCapped t :=
  List.pairwise_iff_forall_sublist.mpr fun hsub heq =>
    h (hsub.subset (heq ▸ List.mem_cons_self))

/-- A capped text has no marker, or one at its end. -/
theorem IsCapped.cases {t : Text} (h : IsCapped t) :
    marker ∉ t ∨ ∃ u, marker ∉ u ∧ t = u ++ [marker] := by
  induction t with
  | nil => exact .inl List.not_mem_nil
  | cons c t ih =>
    obtain ⟨hc, ht⟩ := List.pairwise_cons.mp h
    by_cases hnil : t = []
    · subst hnil
      by_cases heq : c = marker
      · exact .inr ⟨[], List.not_mem_nil, by rw [heq]; rfl⟩
      · refine .inl fun hmem => heq (List.mem_singleton.mp hmem).symm
    · obtain ⟨d, hd⟩ := List.exists_mem_of_ne_nil t hnil
      have hne : c ≠ marker := hc d hd
      rcases ih ht with hmem | ⟨u, hu, rfl⟩
      · exact .inl fun h' => (List.mem_cons.mp h').elim (fun heq => hne heq.symm) hmem
      · refine .inr ⟨c :: u, fun h' => ?_, rfl⟩
        exact (List.mem_cons.mp h').elim (fun heq => hne heq.symm) hu

/-- Behind a capped text, the reading goes on with whatever stops it at once. -/
theorem IsCapped.elisions_append {t r : Text} (h : IsCapped t) (hr : Halts r) :
    elisions (t ++ r) = elisions t ++ elisions r := by
  rcases h.cases with hmem | ⟨u, hu, rfl⟩
  · exact isClosed_of_not_mem hmem r
  · rw [List.append_assoc, elisions_append_of_not_mem hu, elisions_append_of_not_mem hu]
    show elisions (marker :: r) = elisions (marker :: []) ++ elisions r
    rw [elisions_marker_of_halts hr, elisions_marker_of_halts (t := []) trivial]
    rfl

/-! ### What stops the reading -/

/-- The code points of blanks. -/
def blanks : List Nat :=
  List.range' 9 5 ++ [0x20, 0x85, 0xA0, 0x1680] ++ List.range' 0x2000 11 ++
    [0x2028, 0x2029, 0x202F, 0x205F, 0x3000]

theorem mem_blanks {c : Char} (h : Text.isBlank c = true) : c.toNat ∈ blanks := by
  simp only [Text.isBlank, Bool.or_eq_true, Bool.and_eq_true, decide_eq_true_eq, beq_iff_eq] at h
  simp only [blanks, List.mem_append, List.mem_range'_1, List.mem_cons, List.not_mem_nil, or_false]
  omega

/-- No digit is a blank. -/
theorem digit_contains_of_isBlank {c : Char} (h : Text.isBlank c = true) :
    CharSet.digit.contains c = false := by
  have hall : ∀ n ∈ blanks, CharSet.digit.has n = false := by decide
  exact hall c.toNat (mem_blanks h)

/-- No blank but the space can stand in a placeholder. -/
theorem isReadable_of_isBlank {c : Char} (h : Text.isBlank c = true) (hc : c ≠ ' ') :
    isReadable c = false := by
  have hn : c.toNat ≠ 32 := fun heq => hc (Char.toNat_inj.mp heq)
  have hnoun : isNounChar c = false := by
    rw [Bool.eq_false_iff]
    intro hnoun
    have hrange : 97 ≤ c.toNat ∧ c.toNat ≤ 122 ∨ c = '_' ∨ c = ' ' := by
      simpa [isNounChar, Char.le_def, UInt32.le_iff_toNat_le, or_assoc] using hnoun
    rcases hrange with hrange | rfl | rfl
    · simp only [Text.isBlank] at h
      grind
    · exact absurd h (by decide)
    · exact hc rfl
  rw [isReadable, hnoun, digit_contains_of_isBlank h]
  rfl

theorem Halts.of_opens {t : Text} (h : Opens t) (r : Text) : Halts (t ++ r) := by
  obtain ⟨c, u, rfl, hc⟩ := h
  exact .inl hc

/-- A text stops the reading if the rest of its first line is blank. -/
theorem halts_of_isBlankText {t : Text}
    (h : Text.isBlankText (t.takeWhile (· ≠ '\n')) = true) : Halts t := by
  induction t with
  | nil => trivial
  | cons c t ih =>
    by_cases hc : c = '\n'
    · exact .inl (by rw [hc]; decide)
    · rw [List.takeWhile_cons_of_pos (by simpa using hc), Text.isBlankText, List.all_cons,
        Bool.and_eq_true] at h
      by_cases hspace : c = ' '
      · exact .inr ⟨hspace, ih h.2⟩
      · exact .inl (isReadable_of_isBlank h.1 hspace)

/-- A front part of what stops the reading does so too, if what then comes does. -/
theorem Halts.replace {g b r : Text} (h : Halts (g ++ b)) (hr : Halts r) : Halts (g ++ r) := by
  induction g with
  | nil => exact hr
  | cons c g ih =>
    rcases h with h | ⟨hc, h⟩
    · exact .inl h
    · exact .inr ⟨hc, ih h⟩

/-! ### Edited texts -/

section Walk
variable {l : Lines}

/-- Where only blanks are left of a line, what the walk gives from there on stops the reading. -/
theorem halts_splice {cursor : Nat} {edits : List Edit} (hc : l.text.isBoundary cursor = true)
    (hrow : InRow l.text cursor edits) (hopens : ∀ e ∈ edits, Opens e.text)
    (hblank : (l.lineRest cursor).isBlankText = true) : Halts (splice l.text cursor edits) := by
  have hafter : Halts (l.text.after cursor) := by
    rw [Lines.lineRest_eq hc] at hblank
    exact halts_of_isBlankText hblank
  cases edits with
  | nil => exact hafter
  | cons e rest =>
    obtain ⟨hcursor, hstart, -, -⟩ := hrow
    rw [splice_cons hcursor, List.append_assoc]
    rw [← Text.slice_append_after hc hstart hcursor] at hafter
    exact hafter.replace (Halts.of_opens (hopens e List.mem_cons_self) _)

/-- What is read from an edited text is what is read from the new texts one by one. -/
theorem elisions_splice {cursor : Nat} {edits : List Edit} (hmarker : marker ∉ l.text)
    (hrow : InRow l.text cursor edits) (hsettled : ∀ e ∈ edits, Settled l e)
    (hopens : (∀ e ∈ edits, IsClosed e.text) ∨ ∀ e ∈ edits, Opens e.text) :
    elisions (splice l.text cursor edits) = edits.flatMap fun e => elisions e.text := by
  have hslice : ∀ m n, marker ∉ l.text.slice m n :=
    fun m n hmem => hmarker (Text.mem_of_mem_slice hmem)
  induction edits generalizing cursor with
  | nil =>
    refine elisions_of_not_mem fun hmem => hmarker ?_
    rw [← Text.before_append_after l.text cursor]
    exact List.mem_append_right _ hmem
  | cons e rest ih =>
    obtain ⟨hcursor, -, hstop, hrest⟩ := hrow
    have hopens' : (∀ e ∈ rest, IsClosed e.text) ∨ ∀ e ∈ rest, Opens e.text :=
      hopens.imp (fun h d hd => h d (List.mem_cons_of_mem e hd))
        fun h d hd => h d (List.mem_cons_of_mem e hd)
    have htail := ih hrest (fun d hd => hsettled d (List.mem_cons_of_mem e hd)) hopens'
    rw [splice_cons hcursor, List.append_assoc, elisions_append_of_not_mem (hslice _ _),
      List.flatMap_cons, ← htail]
    -- A text that is not closed is followed by blanks up to the next new text or line.
    by_cases hclosed : IsClosed e.text
    · exact hclosed _
    · rcases hsettled e List.mem_cons_self with h | ⟨hcapped, hblank⟩
      · exact absurd h hclosed
      · rcases hopens with h | h
        · exact absurd (h e List.mem_cons_self) hclosed
        · exact hcapped.elisions_append (halts_splice hstop hrest
            (fun d hd => h d (List.mem_cons_of_mem e hd)) hblank)

/-- The markers of an edited text are those of the new texts. -/
theorem count_splice {cursor : Nat} {edits : List Edit} (hmarker : marker ∉ l.text)
    (hrow : InRow l.text cursor edits) :
    (splice l.text cursor edits).count marker =
      total (edits.map fun e => e.text.count marker) := by
  induction edits generalizing cursor with
  | nil =>
    refine List.count_eq_zero_of_not_mem fun hmem => hmarker ?_
    rw [← Text.before_append_after l.text cursor]
    exact List.mem_append_right _ hmem
  | cons e rest ih =>
    obtain ⟨hcursor, -, -, hrest⟩ := hrow
    have hslice : (l.text.slice cursor e.span.start).count marker = 0 :=
      List.count_eq_zero_of_not_mem fun hmem => hmarker (Text.mem_of_mem_slice hmem)
    rw [splice_cons hcursor, List.count_append, List.count_append, hslice, ih hrest,
      List.map_cons, total_cons, Nat.zero_add]

end Walk

theorem countElisions_eq_total (edits : List Edit) (noun : Text) :
    total (((edits.flatMap fun e => elisions e.text).filter
      fun e => e.noun == noun || e.noun == plural noun).map Elision.amount) =
      total (edits.map fun e => countElisions e.text noun) := by
  induction edits with
  | nil => rfl
  | cons e rest ih =>
    rw [List.flatMap_cons, List.filter_append, List.map_append, total_append, ih, List.map_cons,
      total_cons]
    rfl

theorem total_perm {ns ms : List Nat} (h : ns.Perm ms) : total ns = total ms := by
  induction h with
  | nil => rfl
  | cons n _ ih => rw [total_cons, total_cons, ih]
  | swap n m _ => simp only [total_cons]; omega
  | trans _ _ ih ih' => rw [ih, ih']

/-- The placeholders of an edited text report what the new texts report. -/
theorem countElisions_apply {l : Lines} {q : EditQueue} (hq : q.IsSound)
    (hsource : q.source = l.text)
    (hmarker : marker ∉ l.text) (hsettled : ∀ e ∈ q.edits, Settled l e)
    (hopens : (∀ e ∈ q.edits, IsClosed e.text) ∨ ∀ e ∈ q.edits, Opens e.text) (noun : Text) :
    countElisions q.apply noun = total (q.edits.map fun e => countElisions e.text noun) := by
  have hrow : InRow l.text 0 q.inOrder := hsource ▸ hq.inRow
  have helisions : elisions q.apply = q.inOrder.flatMap fun e => elisions e.text := by
    rw [apply, hsource]
    refine elisions_splice hmarker hrow (fun e he => hsettled e (mem_inOrder.mp he)) ?_
    exact hopens.imp (fun h e he => h e (mem_inOrder.mp he)) fun h e he => h e (mem_inOrder.mp he)
  rw [countElisions_eq, helisions, countElisions_eq_total]
  exact total_perm (q.inOrder_perm.map _)

theorem count_apply {l : Lines} {q : EditQueue} (hq : q.IsSound) (hsource : q.source = l.text)
    (hmarker : marker ∉ l.text) :
    q.apply.count marker = total (q.edits.map fun e => e.text.count marker) := by
  have hrow : InRow l.text 0 q.inOrder := hsource ▸ hq.inRow
  rw [apply, hsource, count_splice hmarker hrow]
  exact total_perm (q.inOrder_perm.map _)

end Abridge.Placeholder
