import Abridge.Proofs.Bisection
import Abridge.Proofs.Edit.Queue
import Abridge.Proofs.Text.Lines
import Mathlib.Data.List.DropRight

/-!
Where the line of an offset begins and ends.

Around a boundary the text falls into four parts (`IsSplit`): what lies in front of the line, the
part of the line in front of the boundary, the part behind it, and what lies behind the line. Every
boundary has such parts (`exists_isSplit`), and all that is asked about its line can be read off
them. So the line is the widest stretch around the boundary without a line feed, and a span is
widened by blanks alone, to whole lines or not at all (`line_geometry`).
-/
namespace Abridge

/-! ### Looking a line up -/

/-- What looking a number up in an ascending row has to answer: an index at which it stands, or else
the index at which it would have to be put. -/
def IsPlace (row : List Nat) (n : Nat) : Except Nat Nat → Prop
  | .ok k => row[k]? = some n
  | .error k => k ≤ row.length ∧ (∀ m ∈ row.take k, m < n) ∧ ∀ m ∈ row.drop k, n < m

theorem Text.pairwise_lineStartsFrom (offset : Nat) (t : Text) :
    (lineStartsFrom offset t).Pairwise (· < ·) := by
  induction t generalizing offset with
  | nil => exact List.Pairwise.nil
  | cons c t ih =>
    rw [lineStartsFrom]
    split
    · exact List.pairwise_cons.mpr ⟨fun n hn => (bounds_of_mem_lineStartsFrom hn).1, ih _⟩
    · exact ih _

namespace Lines

theorem toList_starts (l : Lines) : l.starts.toList = 0 :: Text.lineStartsFrom 0 l.text := by
  rw [l.starts_eq]
  rfl

theorem pairwise_starts (l : Lines) : l.starts.toList.Pairwise (· < ·) := by
  rw [toList_starts]
  exact List.pairwise_cons.mpr ⟨fun n hn => (Text.bounds_of_mem_lineStartsFrom hn).1,
    Text.pairwise_lineStartsFrom 0 l.text⟩

/-- The look-up answers what it has to. -/
theorem isPlace_search (l : Lines) (offset : Nat) :
    IsPlace l.starts.toList offset (l.search offset) := by
  have hget : ∀ k, l.starts.getD k 0 = l.starts.toList.getD k 0 := fun k => by simp
  have hsize : l.starts.toList.length = l.starts.size := Array.length_toList
  have hpos : 0 < l.starts.size := by rw [← hsize, toList_starts]; exact Nat.succ_pos _
  have hfirst : l.starts.toList.getD 0 0 = 0 := by rw [toList_starts]; rfl
  unfold search
  extract_lets line start
  have hgreatest : IsGreatest
      {k | k ≤ l.starts.size - 1 ∧ decide (l.starts.getD k 0 ≤ offset) = true} line := by
    refine isGreatest_bisect (fun i j hij hj hfits => ?_) ⟨0, Nat.zero_le _, ?_⟩
    · have hrow := getD_le_getD l.pairwise_starts hij (by omega)
      rw [decide_eq_true_eq, hget] at hfits ⊢
      exact Nat.le_trans hrow hfits
    · rw [decide_eq_true_eq, hget, hfirst]
      exact Nat.zero_le _
  obtain ⟨⟨hle, hfits⟩, hmax⟩ := hgreatest
  have hline : line < l.starts.toList.length := by
    rw [hsize]
    exact Nat.lt_of_le_of_lt hle (Nat.sub_lt hpos Nat.one_pos)
  have hstart : start = l.starts.toList[line] := by
    rw [← List.getD_eq_getElem _ 0 hline]
    exact hget line
  have hfits : start ≤ offset := of_decide_eq_true hfits
  split
  next heq =>
    show l.starts.toList[line]? = some offset
    rw [List.getElem?_eq_getElem hline, ← hstart, heq]
  next hne =>
    have hlt : start < offset := Nat.lt_of_le_of_ne hfits hne
    rw [if_pos hlt]
    refine ⟨hline, fun m hm => ?_, fun m hm => ?_⟩
    · obtain ⟨i, hi, rfl⟩ := List.mem_take_iff_getElem.mp hm
      have hrow := getD_le_getD l.pairwise_starts
        (Nat.le_of_lt_succ (Nat.lt_of_lt_of_le hi (Nat.min_le_left _ _))) hline
      rw [List.getD_eq_getElem _ _ (Nat.lt_of_lt_of_le hi (Nat.min_le_right _ _)),
        List.getD_eq_getElem _ _ hline, ← hstart] at hrow
      exact Nat.lt_of_le_of_lt hrow hlt
    · obtain ⟨i, hi, rfl⟩ := List.mem_drop_iff_getElem.mp hm
      by_contra hge
      -- an entry behind the line that is not greater would itself pass the test
      have hbeyond : line + 1 + i ≤ line := by
        refine hmax ⟨by omega, ?_⟩
        rw [decide_eq_true_eq, hget, List.getD_eq_getElem _ _ (by omega)]
        exact Nat.le_of_not_lt hge
      omega

/-! ### The four parts -/

/-- Whether a text falls into these parts at a boundary: the lines in front, the line itself on both
sides of the boundary, and what is left from the line feed on. -/
structure IsSplit (t : Text) (b : Nat) (front lead rest back : Text) : Prop where
  text_eq : t = front ++ (lead ++ (rest ++ back))
  size_eq : Text.size front + Text.size lead = b
  not_mem_lead : '\n' ∉ lead
  not_mem_rest : '\n' ∉ rest
  front_eq : front = [] ∨ ∃ lines, front = lines ++ ['\n']
  back_eq : back = [] ∨ ∃ lines, back = '\n' :: lines

theorem exists_isSplit {t : Text} {b : Nat} (h : t.isBoundary b = true) :
    ∃ front lead rest back, IsSplit t b front lead rest back := by
  obtain ⟨a, c, rfl, rfl⟩ := Text.isBoundary_iff.mp h
  refine ⟨a.rdropWhile (· ≠ '\n'), a.rtakeWhile (· ≠ '\n'), c.takeWhile (· ≠ '\n'),
    c.dropWhile (· ≠ '\n'), ⟨?text, ?size, ?lead, ?rest, ?front, ?back⟩⟩
  case text =>
    rw [List.takeWhile_append_dropWhile, ← List.append_assoc, List.rdropWhile_append_rtakeWhile]
  case size => rw [← Text.size_append, List.rdropWhile_append_rtakeWhile]
  case lead => exact fun hmem => by simpa using List.mem_rtakeWhile_imp hmem
  case rest => exact fun hmem => by simpa using List.mem_takeWhile_imp hmem
  case front =>
    by_cases hnil : a.rdropWhile (· ≠ '\n') = []
    · exact .inl hnil
    · have hlast := List.rdropWhile_last_not (· ≠ '\n') a hnil
      have hfeed : (a.rdropWhile (· ≠ '\n')).getLast hnil = '\n' := by simpa using hlast
      exact .inr ⟨_, hfeed ▸ (List.dropLast_append_getLast hnil).symm⟩
  case back =>
    have hhead := List.head?_dropWhile_not (· ≠ '\n') c
    cases hback : c.dropWhile (· ≠ '\n') with
    | nil => exact .inl rfl
    | cons d lines =>
      rw [hback] at hhead
      obtain rfl : d = '\n' := by simpa using hhead
      exact .inr ⟨lines, rfl⟩

section
variable {l : Lines} {b : Nat} {front lead rest back : Text}

namespace IsSplit
variable (h : IsSplit l.text b front lead rest back)
include h

theorem before_eq : l.text.before b = front ++ lead := by
  rw [h.text_eq, ← h.size_eq, ← List.append_assoc, ← Text.size_append, Text.before_append_size]

theorem after_eq : l.text.after b = rest ++ back := by
  rw [h.text_eq, ← h.size_eq, ← List.append_assoc, ← Text.size_append, Text.after_append_size]

theorem isBoundary : l.text.isBoundary b = true := by
  rw [h.text_eq, ← h.size_eq, ← List.append_assoc, ← Text.size_append]
  exact Text.isBoundary_append_size _ _

theorem lineOf_eq : l.lineOf b = front.count '\n' := by
  have htext : l.text = (front ++ lead) ++ (rest ++ back) := by
    rw [h.text_eq, List.append_assoc]
  rw [← h.size_eq, ← Text.size_append, lineOf_append htext, List.count_append,
    List.count_eq_zero.mpr h.not_mem_lead, Nat.add_zero]

theorem lineStart_eq : l.lineStart b = Text.size front := by
  rcases h.front_eq with rfl | ⟨lines, rfl⟩
  · rw [lineStart, h.lineOf_eq, l.starts_eq]
    rfl
  · have htext : l.text = lines ++ ('\n' :: lead ++ (rest ++ back)) := by
      rw [h.text_eq]
      simp
    have hsize : b = Text.size (lines ++ '\n' :: lead) := by
      rw [← h.size_eq]
      simp
      omega
    rw [hsize, lineStart_append htext h.not_mem_lead]

theorem takeWhile_after : (l.text.after b).takeWhile (· ≠ '\n') = rest := by
  rw [h.after_eq, List.takeWhile_append_of_pos fun c hc =>
    decide_eq_true (ne_of_mem_of_not_mem hc h.not_mem_rest)]
  rcases h.back_eq with rfl | ⟨lines, rfl⟩ <;> simp

theorem lineEnd_eq : l.lineEnd b = b + Text.size rest := by
  have hmin : min b l.text.size = b := Nat.min_eq_left (Text.le_size_of_isBoundary h.isBoundary)
  unfold lineEnd
  simp only [hmin, h.takeWhile_after]

theorem slice_lineStart : l.text.slice (l.lineStart b) b = lead := by
  rw [h.lineStart_eq, h.text_eq, ← h.size_eq, Text.slice_append_append]

theorem lineFront_eq : l.lineFront b = lead := by
  rw [lineFront, Nat.min_eq_left (Text.le_size_of_isBoundary h.isBoundary), h.slice_lineStart]

theorem lineRest_eq : l.lineRest b = rest := by
  rw [Lines.lineRest_eq h.isBoundary, h.takeWhile_after]

theorem line_eq : l.text.slice (l.lineStart b) (l.lineEnd b) = lead ++ rest := by
  have hend : b + Text.size rest = Text.size front + Text.size (lead ++ rest) := by
    rw [Text.size_append, ← h.size_eq, Nat.add_assoc]
  rw [h.lineStart_eq, h.lineEnd_eq, hend, h.text_eq, ← List.append_assoc lead,
    Text.slice_append_append]

theorem slice_lineEnd : l.text.slice b (l.lineEnd b) = rest := by
  have htext : l.text = (front ++ lead) ++ (rest ++ back) := by rw [h.text_eq, List.append_assoc]
  rw [h.lineEnd_eq, htext, ← h.size_eq, ← Text.size_append, Text.slice_append_append]

theorem lineStart_le : l.lineStart b ≤ b := by
  rw [h.lineStart_eq, ← h.size_eq]
  exact Nat.le_add_right _ _

theorem le_lineEnd : b ≤ l.lineEnd b := by
  rw [h.lineEnd_eq]
  exact Nat.le_add_right _ _

theorem isBoundary_lineStart : l.text.isBoundary (l.lineStart b) = true := by
  rw [h.lineStart_eq, h.text_eq]
  exact Text.isBoundary_append_size _ _

theorem isBoundary_lineEnd : l.text.isBoundary (l.lineEnd b) = true := by
  rw [h.lineEnd_eq, ← h.size_eq, h.text_eq]
  exact Text.isBoundary_iff.mpr ⟨front ++ (lead ++ rest), back, by simp, by simp [Nat.add_assoc]⟩

theorem after_lineEnd : l.text.after (l.lineEnd b) = back := by
  have hsplit : l.text = (front ++ (lead ++ rest)) ++ back := by rw [h.text_eq]; simp
  have hsize : b + Text.size rest = Text.size (front ++ (lead ++ rest)) := by
    rw [← h.size_eq]
    simp [Nat.add_assoc]
  rw [h.lineEnd_eq, hsize, hsplit, Text.after_append_size]

theorem before_lineStart : l.text.before (l.lineStart b) = front := by
  rw [h.lineStart_eq, h.text_eq, Text.before_append_size]

/-- A stretch around the boundary that goes further back than its line takes a line feed in. -/
theorem lineStart_le_of_not_mem {m n : Nat} (hm : l.text.isBoundary m = true)
    (hn : l.text.isBoundary n = true) (hbn : b ≤ n)
    (hfeed : '\n' ∉ l.text.slice m n) : l.lineStart b ≤ m := by
  by_contra hlt
  have hstart := h.isBoundary_lineStart
  have hle := h.lineStart_le
  have hfront : l.text.before m ++ l.text.slice m (l.lineStart b) = front := by
    rw [Text.before_append_slice hm hstart (by omega), h.before_lineStart]
  have hne : l.text.slice m (l.lineStart b) ≠ [] := Text.slice_ne_nil hm hstart (by omega)
  refine hfeed (Text.slice_append_slice hm hstart hn (by omega) (by omega) ▸
    List.mem_append_left _ ?_)
  rcases h.front_eq with rfl | ⟨lines, rfl⟩
  · exact absurd (List.append_eq_nil_iff.mp hfront).2 hne
  · have hlast := congrArg List.getLast? hfront
    rw [List.getLast?_append_of_ne_nil _ hne, List.getLast?_concat] at hlast
    exact List.mem_of_getLast? hlast

/-- So does one that goes further on. -/
theorem le_lineEnd_of_not_mem {m n : Nat} (hm : l.text.isBoundary m = true)
    (hn : l.text.isBoundary n = true) (hmb : m ≤ b) (hfeed : '\n' ∉ l.text.slice m n) :
    n ≤ l.lineEnd b := by
  by_contra hlt
  have hstop := h.isBoundary_lineEnd
  have hle := h.le_lineEnd
  have hback : l.text.slice (l.lineEnd b) n ++ l.text.after n = back := by
    rw [Text.slice_append_after hstop hn (by omega), h.after_lineEnd]
  have hne : l.text.slice (l.lineEnd b) n ≠ [] := Text.slice_ne_nil hstop hn (by omega)
  refine hfeed (Text.slice_append_slice hm hstop hn (by omega) (by omega) ▸
    List.mem_append_right _ ?_)
  rcases h.back_eq with rfl | ⟨lines, rfl⟩
  · exact absurd (List.append_eq_nil_iff.mp hback).1 hne
  · have hhead := congrArg List.head? hback
    rw [List.head?_append_of_ne_nil _ hne, List.head?_cons] at hhead
    exact List.mem_of_head? hhead

/-- Where the last line of a widened span stops. -/
theorem slice_stop {stop : Nat}
    (hstop : stop = if l.lineEnd b < l.text.size then l.lineEnd b + 1 else l.lineEnd b) :
    l.text.isBoundary stop = true ∧ b ≤ stop ∧
      (l.text.slice b stop = rest ++ ['\n'] ∨ l.text.slice b stop = rest ∧ stop = l.text.size) := by
  rw [h.lineEnd_eq] at hstop
  rcases h.back_eq with rfl | ⟨lines, rfl⟩
  · have hsize : l.text.size = b + Text.size rest := by
      rw [h.text_eq, ← h.size_eq]
      simp [Nat.add_assoc]
    rw [if_neg (by omega), ← h.lineEnd_eq] at hstop
    subst hstop
    exact ⟨h.isBoundary_lineEnd, h.le_lineEnd, .inr ⟨h.slice_lineEnd, by rw [h.lineEnd_eq, hsize]⟩⟩
  · have htext : l.text = (front ++ lead) ++ ((rest ++ ['\n']) ++ lines) := by
      rw [h.text_eq]
      simp
    have hfeed : Char.utf8Size '\n' = 1 := rfl
    have hb : b = Text.size (front ++ lead) := by rw [← h.size_eq, Text.size_append]
    have hrest : Text.size (rest ++ ['\n']) = Text.size rest + 1 := by simp [hfeed]
    have hsize : l.text.size = b + Text.size rest + 1 + Text.size lines := by
      rw [htext, Text.size_append, ← hb, Text.size_append, hrest]
      omega
    rw [if_pos (by omega), Nat.add_assoc, ← hrest, hb] at hstop
    subst hstop
    refine ⟨?_, by omega, .inl (by rw [hb, htext, Text.slice_append_append])⟩
    rw [← Text.size_append, htext, ← List.append_assoc]
    exact Text.isBoundary_append_size _ _

end IsSplit

end

/-! ### Lines and widened spans -/

/-- Whether all that is asked about the line of an offset is answered as it has to be: the line
feeds in front of it are counted, its line is the widest stretch around it without one, and the
indentation is all that the line has of spaces and tabs in front. -/
structure IsLineAt (l : Lines) (b : Nat) : Prop where
  place : IsPlace l.starts.toList b (l.search b)
  lineOf_eq : l.lineOf b = (l.text.before b).count '\n'
  isBoundary_start : l.text.isBoundary (l.lineStart b) = true
  isBoundary_stop : l.text.isBoundary (l.lineEnd b) = true
  start_le : l.lineStart b ≤ b
  le_stop : b ≤ l.lineEnd b
  not_mem : '\n' ∉ l.text.slice (l.lineStart b) (l.lineEnd b)
  widest : ∀ m n, l.text.isBoundary m = true → l.text.isBoundary n = true → m ≤ b → b ≤ n →
    '\n' ∉ l.text.slice m n → l.lineStart b ≤ m ∧ n ≤ l.lineEnd b
  front_append_rest :
    l.lineFront b ++ l.lineRest b = l.text.slice (l.lineStart b) (l.lineEnd b)
  size_front : l.lineStart b + Text.size (l.lineFront b) = b
  indent_isPrefix : l.indentAt b <+: l.text.slice (l.lineStart b) (l.lineEnd b)
  indent_iff : ∀ lead, lead <+: l.text.slice (l.lineStart b) (l.lineEnd b) →
    (lead <+: l.indentAt b ↔ ∀ c ∈ lead, c = ' ' ∨ c = '\t')

theorem isLineAt (l : Lines) {b : Nat} (hb : l.text.isBoundary b = true) : l.IsLineAt b := by
  obtain ⟨front, lead, rest, back, h⟩ := exists_isSplit hb
  exact {
    place := l.isPlace_search b
    lineOf_eq := by
      rw [h.lineOf_eq, h.before_eq, List.count_append, List.count_eq_zero.mpr h.not_mem_lead,
        Nat.add_zero]
    isBoundary_start := h.isBoundary_lineStart
    isBoundary_stop := h.isBoundary_lineEnd
    start_le := h.lineStart_le
    le_stop := h.le_lineEnd
    not_mem := by
      rw [h.line_eq, List.mem_append, not_or]
      exact ⟨h.not_mem_lead, h.not_mem_rest⟩
    widest := fun m n hm hn hmb hbn hfeed =>
      ⟨h.lineStart_le_of_not_mem hm hn hbn hfeed, h.le_lineEnd_of_not_mem hm hn hmb hfeed⟩
    front_append_rest := by rw [h.lineFront_eq, h.lineRest_eq, h.line_eq]
    size_front := by rw [h.lineFront_eq, h.lineStart_eq, h.size_eq]
    indent_isPrefix := List.takeWhile_prefix _
    indent_iff := fun p hp => by
      constructor
      · intro hindent c hc
        simpa using List.mem_takeWhile_imp (hindent.subset hc)
      · intro hall
        obtain ⟨others, heq⟩ := hp
        rw [indentAt, ← heq, List.takeWhile_append_of_pos fun c hc => by simpa using hall c hc]
        exact List.prefix_append _ _ }

/-- Whether a span is widened as it has to be: by blanks alone, and to whole lines or not at
all. -/
structure IsWidening (l : Lines) (s w : Span) : Prop where
  isBoundary_start : l.text.isBoundary w.start = true
  isBoundary_stop : l.text.isBoundary w.stop = true
  contains : w.contains s = true
  blank_front : (l.text.slice w.start s.start).isBlankText = true
  blank_back : (l.text.slice s.stop w.stop).isBlankText = true
  alone : (l.lineFront s.start).isBlankText = true → (l.lineRest s.stop).isBlankText = true →
    w.start = l.lineStart s.start ∧
      (l.text.slice s.stop w.stop = l.lineRest s.stop ++ ['\n'] ∨
        l.text.slice s.stop w.stop = l.lineRest s.stop ∧ w.stop = l.text.size)
  shared : (l.lineFront s.start).isBlankText = false ∨ (l.lineRest s.stop).isBlankText = false →
    w = s

theorem isWidening_wholeLines (l : Lines) {s : Span} (hstart : l.text.isBoundary s.start = true)
    (hstop : l.text.isBoundary s.stop = true) : l.IsWidening s (l.wholeLines s) := by
  obtain ⟨_, lead, _, _, hfirst⟩ := exists_isSplit hstart
  obtain ⟨_, _, rest, _, hlast⟩ := exists_isSplit hstop
  by_cases halone : (lead.isBlankText && rest.isBlankText) = true
  · have hwhole : l.wholeLines s = Span.between (l.lineStart s.start)
        (if l.lineEnd s.stop < l.text.size then l.lineEnd s.stop + 1 else l.lineEnd s.stop) := by
      simp only [wholeLines, hfirst.slice_lineStart, hlast.slice_lineEnd, halone, if_true]
    obtain ⟨hbound, hle, hslice⟩ := hlast.slice_stop rfl
    have hend : (l.wholeLines s).stop =
        if l.lineEnd s.stop < l.text.size then l.lineEnd s.stop + 1 else l.lineEnd s.stop := by
      rw [hwhole]
      exact Nat.max_eq_left
        (Nat.le_trans hfirst.lineStart_le (Nat.le_trans s.start_le_stop hle))
    have hbegin : (l.wholeLines s).start = l.lineStart s.start := by rw [hwhole]; rfl
    rw [← hend] at hbound hle hslice
    obtain ⟨hlead, hrest⟩ := Bool.and_eq_true_iff.mp halone
    exact {
      isBoundary_start := hbegin ▸ hfirst.isBoundary_lineStart
      isBoundary_stop := hbound
      contains := Span.contains_iff.mpr ⟨hbegin ▸ hfirst.lineStart_le, hle⟩
      blank_front := by rw [hbegin, hfirst.slice_lineStart, hlead]
      blank_back := by
        rcases hslice with heq | ⟨heq, -⟩
        · rw [heq, Text.isBlankText_append, hrest]
          rfl
        · rw [heq, hrest]
      alone := fun _ _ => ⟨hbegin, by rw [hlast.lineRest_eq]; exact hslice⟩
      shared := fun hshared => by
        rw [hfirst.lineFront_eq, hlast.lineRest_eq, hlead, hrest] at hshared
        simp at hshared }
  · have hwhole : l.wholeLines s = s := by
      simp only [wholeLines, hfirst.slice_lineStart, hlast.slice_lineEnd, if_neg halone]
    rw [hwhole]
    exact {
      isBoundary_start := hstart
      isBoundary_stop := hstop
      contains := Span.contains_iff.mpr ⟨Nat.le_refl _, Nat.le_refl _⟩
      blank_front := by rw [Text.slice_self hstart]; rfl
      blank_back := by rw [Text.slice_self hstop]; rfl
      alone := fun hlead hrest => by
        rw [hfirst.lineFront_eq] at hlead
        rw [hlast.lineRest_eq] at hrest
        exact absurd (Bool.and_eq_true_iff.mpr ⟨hlead, hrest⟩) halone
      shared := fun _ => rfl }

/-- The lines of a text are where they have to be, whatever its characters, and spans are widened
to them. -/
theorem line_geometry (l : Lines) :
    (∀ b, l.text.isBoundary b = true → l.IsLineAt b) ∧
      ∀ s : Span, l.text.isBoundary s.start = true → l.text.isBoundary s.stop = true →
        l.IsWidening s (l.wholeLines s) :=
  ⟨fun _ => l.isLineAt, fun _ => l.isWidening_wholeLines⟩

/-- Of the two lines of this text, the second is indented and all that stands on it is its letter,
so the span of the letter is widened to that line. -/
theorem line_geometry_indented :
    let l : Lines := { text := "é\n\t x\n".toList }
    let letter : Span := { start := 5, stop := 6 }
    (l.text.isBoundary 5 = true ∧ l.IsLineAt 5 ∧ l.lineOf 5 = 1 ∧ l.indentAt 5 = "\t ".toList) ∧
      l.text.isBoundary 6 = true ∧ l.IsWidening letter (l.wholeLines letter) ∧
      l.wholeLines letter = { start := 3, stop := 7 } := by
  intro l letter
  obtain ⟨hlines, hspans⟩ := line_geometry l
  have hstart : l.text.isBoundary 5 = true := by decide
  have hstop : l.text.isBoundary 6 = true := by decide
  exact ⟨⟨hstart, hlines 5 hstart, by decide +kernel, by decide +kernel⟩, hstop,
    hspans letter hstart hstop, by decide +kernel⟩

end Lines

end Abridge
