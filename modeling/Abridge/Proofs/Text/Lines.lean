import Abridge.Text.Lines
import Abridge.Proofs.Text.Cut
import Mathlib.Data.List.GetD
import Mathlib.Tactic.ByContra

/-!
Lines, as stretches of the text.

A line is indented by blanks (`isBlankText_indentAt`). Behind a boundary, the rest of the line is
what stands there up to the next line feed (`lineRest_eq`), so that a line with nothing but blanks
left in it says so of the text itself. In front of it, the line feeds count the lines
(`lineOf_append`), and what stands behind the last of them is the front of the line
(`lineFront_append`). So where the end of one line and the start of the next are blank, all between
the two is (`isBlankText_slice`).
-/
namespace Abridge

namespace Text

/-- A slice of a text holds only characters of the text. -/
theorem mem_of_mem_slice {t : Text} {m n : Nat} {c : Char} (h : c ∈ t.slice m n) : c ∈ t := by
  unfold slice at h
  cases hs : t.slice? m n with
  | none =>
    rw [hs] at h
    exact absurd h List.not_mem_nil
  | some b =>
    rw [hs] at h
    obtain ⟨x, y, rfl, -⟩ := slice?_eq_some_iff.mp hs
    exact List.mem_append_right x (List.mem_append_left y h)

/-- From a boundary on, the slice through the first `size b` bytes of what follows is `b`. -/
theorem slice_of_after {t b c : Text} {n : Nat} (hn : t.isBoundary n = true)
    (h : t.after n = b ++ c) : t.slice n (n + size b) = b := by
  obtain ⟨a, r, rfl, rfl⟩ := isBoundary_iff.mp hn
  rw [after_append_size] at h
  subst h
  exact slice_append_append a b c

theorem isBlankText_append (s t : Text) :
    (s ++ t).isBlankText = (s.isBlankText && t.isBlankText) :=
  List.all_append

end Text

namespace Lines

theorem isBlankText_indentAt (l : Lines) (offset : Nat) :
    (l.indentAt offset).isBlankText = true := by
  have htake := List.all_takeWhile (p := fun c => c == ' ' || c == '\t')
    (l := l.text.slice (l.lineStart offset) (l.lineEnd offset))
  refine List.all_eq_true.mpr fun c hc => ?_
  have hspace : c = ' ' ∨ c = '\t' := by simpa using List.all_eq_true.mp htake c hc
  rcases hspace with rfl | rfl <;> rfl

theorem lineRest_eq {l : Lines} {n : Nat} (h : l.text.isBoundary n = true) :
    l.lineRest n = (l.text.after n).takeWhile (· ≠ '\n') := by
  have hmin : min n l.text.size = n := Nat.min_eq_left (Text.le_size_of_isBoundary h)
  have hend : l.lineEnd n = n + Text.size ((l.text.after n).takeWhile (· ≠ '\n')) := by
    unfold lineEnd
    simp only [hmin]
  show l.text.slice (min n l.text.size) (l.lineEnd (min n l.text.size)) = _
  rw [hmin, hend]
  exact Text.slice_of_after h (List.takeWhile_append_dropWhile ..).symm

end Lines

/-! ### Where lines begin -/

/-- Bisection finds the index that the test splits its range at. -/
theorem bisect_eq {fits : Nat → Bool} {lo hi k : Nat} (hlo : lo ≤ k) (hhi : k ≤ hi)
    (hfits : ∀ i ≤ k, fits i = true) (hfails : ∀ i, k < i → i ≤ hi → fits i = false) :
    bisect fits lo hi = k := by
  fun_induction bisect fits lo hi with
  | case1 lo hi hlt mid hmid ih =>
    refine ih ?_ hhi hfails
    by_contra hk
    rw [hfails mid (by omega) (by omega)] at hmid
    cases hmid
  | case2 lo hi hlt mid hmid ih =>
    have hk : k < mid := by
      by_contra hk
      exact hmid (hfits mid (by omega))
    exact ih hlo (by omega) fun i hi' hle => hfails i hi' (by omega)
  | case3 lo hi hlt => omega

namespace Text

theorem lineStartsFrom_append (offset : Nat) (s t : Text) :
    lineStartsFrom offset (s ++ t) =
      lineStartsFrom offset s ++ lineStartsFrom (offset + size s) t := by
  induction s generalizing offset with
  | nil => rfl
  | cons c s ih =>
    have hsize : offset + size (c :: s) = offset + c.utf8Size + size s := by
      rw [size_cons, Nat.add_assoc]
    rw [List.cons_append, lineStartsFrom, lineStartsFrom, hsize, ih]
    split <;> rfl

theorem length_lineStartsFrom (offset : Nat) (t : Text) :
    (lineStartsFrom offset t).length = t.count '\n' := by
  induction t generalizing offset with
  | nil => rfl
  | cons c t ih =>
    rw [lineStartsFrom, List.count_cons]
    split
    next hc => rw [List.length_cons, ih, if_pos (beq_iff_eq.mpr hc)]
    next hc => rw [ih, if_neg (mt beq_iff_eq.mp hc), Nat.add_zero]

theorem bounds_of_mem_lineStartsFrom {offset n : Nat} {t : Text}
    (h : n ∈ lineStartsFrom offset t) : offset < n ∧ n ≤ offset + size t := by
  induction t generalizing offset with
  | nil => cases h
  | cons c t ih =>
    have hpos := c.utf8Size_pos
    have hrest : n ∈ lineStartsFrom (offset + c.utf8Size) t →
        offset < n ∧ n ≤ offset + size (c :: t) := by
      intro hn
      have := ih hn
      rw [size_cons]
      omega
    rw [lineStartsFrom] at h
    split at h
    · rcases List.mem_cons.mp h with rfl | h
      · rw [size_cons]
        omega
      · exact hrest h
    · exact hrest h

end Text

namespace Lines

theorem starts_eq_append {l : Lines} {a c : Text} (h : l.text = a ++ c) :
    l.starts = ((0 :: Text.lineStartsFrom 0 a) ++ Text.lineStartsFrom (Text.size a) c).toArray := by
  rw [l.starts_eq, h, Text.lineStarts, Text.lineStartsFrom_append, Nat.zero_add]
  rfl

/-- Whether an offset begins its line or not, it is on the last line that does not begin behind
it. -/
theorem lineOf_eq_bisect (l : Lines) (offset : Nat) :
    l.lineOf offset = bisect (fun k => l.starts.getD k 0 ≤ offset) 0 (l.starts.size - 1) := by
  unfold lineOf search
  extract_lets line start
  split
  next found heq =>
    split at heq
    · exact (Except.ok.inj heq).symm
    · split at heq <;> cases heq
  next next heq =>
    split at heq
    · cases heq
    next hne =>
      split at heq
      · rw [← Except.error.inj heq, Nat.add_sub_cancel]
      next hge =>
        have hline : line = 0 :=
          (bisect_eq_or_fits (fun k => l.starts.getD k 0 ≤ offset) 0 _).resolve_right fun hfits => by
            have hle : start ≤ offset := of_decide_eq_true hfits
            omega
        obtain rfl := Except.error.inj heq
        show line - 1 = line
        omega

/-- An offset is on the line that has as many lines in front of it as there are line feeds in front
of the offset. -/
theorem lineOf_append {l : Lines} {a c : Text} (h : l.text = a ++ c) :
    l.lineOf (Text.size a) = a.count '\n' := by
  have hlength : (0 :: Text.lineStartsFrom 0 a).length = a.count '\n' + 1 := by
    rw [List.length_cons, Text.length_lineStartsFrom]
  have hsize : l.starts.size = a.count '\n' + 1 + c.count '\n' := by
    rw [starts_eq_append h, List.size_toArray, List.length_append, hlength,
      Text.length_lineStartsFrom]
  have hget : ∀ i, l.starts.getD i 0 =
      ((0 :: Text.lineStartsFrom 0 a) ++ Text.lineStartsFrom (Text.size a) c).getD i 0 := by
    intro i
    rw [starts_eq_append h]
    simp
  rw [lineOf_eq_bisect]
  refine bisect_eq (Nat.zero_le _) (by omega) (fun i hi => ?_) fun i hi hle => ?_
  · have hi' : i < (0 :: Text.lineStartsFrom 0 a).length := by omega
    rw [decide_eq_true_eq, hget, List.getD_append _ _ _ _ hi', List.getD_eq_getElem _ _ hi']
    rcases List.mem_cons.mp (List.getElem_mem hi') with hzero | hmem
    · omega
    · have := (Text.bounds_of_mem_lineStartsFrom hmem).2
      omega
  · have hi' : (0 :: Text.lineStartsFrom 0 a).length ≤ i := by omega
    have hlt : i - (0 :: Text.lineStartsFrom 0 a).length <
        (Text.lineStartsFrom (Text.size a) c).length := by
      rw [hlength, Text.length_lineStartsFrom]
      omega
    rw [decide_eq_false_iff_not, hget, List.getD_append_right _ _ _ _ hi',
      List.getD_eq_getElem _ _ hlt]
    have := (Text.bounds_of_mem_lineStartsFrom (List.getElem_mem hlt)).1
    omega

/-- A line begins behind the last line feed in front of it. -/
theorem lineStart_append {l : Lines} {a b c : Text} (h : l.text = a ++ ('\n' :: b ++ c))
    (hb : '\n' ∉ b) : l.lineStart (Text.size (a ++ '\n' :: b)) = Text.size (a ++ ['\n']) := by
  have hfront : l.text = (a ++ '\n' :: b) ++ c := by rw [h, List.append_assoc]
  have hsplit : l.text = (a ++ ['\n']) ++ (b ++ c) := by rw [h]; simp
  have hline : l.lineOf (Text.size (a ++ '\n' :: b)) = a.count '\n' + 1 := by
    rw [lineOf_append hfront, List.count_append, List.count_cons_self, List.count_eq_zero.mpr hb]
  have hstarts : Text.lineStartsFrom 0 (a ++ ['\n']) =
      Text.lineStartsFrom 0 a ++ [Text.size (a ++ ['\n'])] := by
    rw [Text.lineStartsFrom_append, Nat.zero_add, Text.size_append]
    rfl
  rw [lineStart, hline, starts_eq_append hsplit, hstarts]
  simp [Text.length_lineStartsFrom]

/-- The front of a line is what stands behind the last line feed. -/
theorem lineFront_append {l : Lines} {a b c : Text} (h : l.text = a ++ ('\n' :: b ++ c))
    (hb : '\n' ∉ b) : l.lineFront (Text.size (a ++ '\n' :: b)) = b := by
  have hsplit : l.text = (a ++ ['\n']) ++ (b ++ c) := by rw [h]; simp
  have hsize : Text.size (a ++ '\n' :: b) = Text.size (a ++ ['\n']) + Text.size b := by simp; omega
  have hmin : min (Text.size (a ++ '\n' :: b)) l.text.size = Text.size (a ++ '\n' :: b) := by
    rw [h, ← List.append_assoc, Text.size_append (a ++ '\n' :: b)]
    omega
  rw [lineFront, lineStart_append h hb, hmin, hsize, hsplit, Text.slice_append_append]

/-- Between two offsets on neighbouring lines stand only blanks, if only blanks stand behind the one
and in front of the other. -/
theorem isBlankText_slice {l : Lines} {m n : Nat} (hm : l.text.isBoundary m = true)
    (hn : l.text.isBoundary n = true) (hline : l.lineOf n = l.lineOf m + 1)
    (hrest : (l.lineRest m).isBlankText = true) (hfront : (l.lineFront n).isBlankText = true) :
    m ≤ n ∧ (l.text.slice m n).isBlankText = true := by
  have hle : m ≤ n := by
    by_contra hlt
    obtain ⟨a, b, c, htext, rfl, rfl⟩ := Text.exists_append_of_isBoundary hn hm (by omega)
    rw [lineOf_append htext, ← Text.size_append,
      lineOf_append (htext.trans (List.append_assoc ..).symm), List.count_append] at hline
    omega
  obtain ⟨a, b, c, htext, rfl, rfl⟩ := Text.exists_append_of_isBoundary hm hn hle
  have hcount : b.count '\n' = 1 := by
    rw [← Text.size_append, lineOf_append (htext.trans (List.append_assoc ..).symm),
      lineOf_append htext, List.count_append] at hline
    omega
  -- One line feed stands between the two.
  obtain ⟨x, y, rfl⟩ : ∃ x y, b = x ++ '\n' :: y :=
    List.append_of_mem (List.count_pos_iff.mp (by omega))
  have hxy : '\n' ∉ x ∧ '\n' ∉ y := by
    rw [List.count_append, List.count_cons_self] at hcount
    exact ⟨List.count_eq_zero.mp (by omega), List.count_eq_zero.mp (by omega)⟩
  refine ⟨hle, ?_⟩
  have hbehind : l.lineRest (Text.size a) = x := by
    rw [lineRest_eq hm, htext, Text.after_append_size, List.append_assoc, List.cons_append,
      List.takeWhile_append_of_pos fun c hc => decide_eq_true (ne_of_mem_of_not_mem hc hxy.1)]
    simp
  have hbefore : l.lineFront (Text.size a + Text.size (x ++ '\n' :: y)) = y := by
    have htext' : l.text = (a ++ x) ++ ('\n' :: y ++ c) := by simpa using htext
    have := lineFront_append htext' hxy.2
    rwa [List.append_assoc, Text.size_append] at this
  rw [hbehind] at hrest
  rw [hbefore] at hfront
  rw [htext, Text.slice_append_append, Text.isBlankText_append, hrest, Bool.true_and]
  exact hfront
end Lines

end Abridge
