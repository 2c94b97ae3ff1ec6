import Abridge.Declaration.Basic
import Abridge.Proofs.Edit.Queue
import Abridge.Proofs.Tree.WellFormed

/-!
How far a declaration reaches.

A declaration takes in the siblings that attach to it from above and the separator behind it. It
stays inside its parent, and it ends before the next sibling begins with all that attaches to that
one (`separatorEnd_le_start`): neither attachments nor declarations reach over what does not attach.
-/
namespace Abridge

namespace Attachments
variable {a : Attachments} {d : Document}

/-- Whether a kind of node is neither a comment nor attaches to declarations. -/
def passes (a : Attachments) (kind : String) : Bool :=
  !Text.occurs "comment".toList kind.toList && !a.kinds.contains kind

/-- Whether separators attach to nothing. -/
def SparesSeparators (a : Attachments) : Prop :=
  a.passes "," = true ∧ a.passes ";" = true

instance (a : Attachments) : Decidable a.SparesSeparators :=
  inferInstanceAs (Decidable (_ ∧ _))

theorem admits_of_passes {n : Node} (h : a.passes n.kind = true) : a.admits d n = false := by
  obtain ⟨hcomment, hkinds⟩ := Bool.and_eq_true_iff.mp h
  have hcomment' : n.isComment = false := by simpa [Node.isComment] using hcomment
  rw [admits, hcomment']
  simpa using hkinds

/-- What is attached begins where a node begins, the declaration or one attached to it. -/
theorem startFrom_eq (a : Attachments) (d : Document) (start : Nat) (l : List Node) :
    a.startFrom d start l = start ∨ ∃ n ∈ l, a.startFrom d start l = n.start := by
  induction l generalizing start with
  | nil => exact .inl rfl
  | cons n rest ih =>
    rw [startFrom]
    split
    · rcases ih n.start with h | ⟨m, hm, h⟩
      · exact .inr ⟨n, List.mem_cons_self, h⟩
      · exact .inr ⟨m, List.mem_cons_of_mem _ hm, h⟩
    · exact .inl rfl

/-- Nothing attaches over a node that does not attach. -/
theorem startFrom_append {n : Node} (h : a.admits d n = false) (start : Nat)
    (l rest : List Node) : a.startFrom d start (l ++ n :: rest) = a.startFrom d start l := by
  induction l generalizing start with
  | nil => simp [startFrom, attaches, h]
  | cons m l ih =>
    rw [List.cons_append, startFrom, startFrom]
    split
    · exact ih m.start
    · rfl

end Attachments

/-! ### A child among its siblings -/

/-- What ends a child is the child itself or the separator behind it. -/
theorem separatorEnd_eq {p c : Node} {pre post : List Node} (h : p.children = pre ++ c :: post) :
    separatorEnd c = c.stop ∨
      ∃ next rest, post = next :: rest ∧ (next.kind = "," ∨ next.kind = ";") ∧
        next.isNamed = false ∧ separatorEnd c = next.stop := by
  rw [separatorEnd, Node.following_eq h]
  cases post with
  | nil => exact .inl rfl
  | cons next rest =>
    simp only [List.head?_cons]
    split
    next hnext =>
      simp only [Bool.and_eq_true, Bool.or_eq_true, Bool.not_eq_true', beq_iff_eq] at hnext
      exact .inr ⟨next, rest, rfl, hnext.2, hnext.1, rfl⟩
    · exact .inl rfl

namespace Document.IsOrdered
variable {d : Document} (hd : d.IsOrdered) {p c : Node} (hp : p ∈ d.nodes)
include hd hp

theorem stop_le_of_mem_before {pre post : List Node} (h : p.children = pre ++ c :: post) {m : Node}
    (hm : m ∈ pre) : m.stop ≤ c.start := by
  obtain ⟨front, back, rfl⟩ := List.append_of_mem hm
  have h' : p.children = front ++ m :: (back ++ c :: post) := by simp [h]
  exact hd.stop_le_of_mem_behind hp h' (by simp)

/-- A child with all that is attached to it begins with the child or with a sibling in front. -/
theorem exists_first (a : Attachments) (hc : c ∈ p.children) :
    ∃ m ∈ p.children, a.start d c = m.start ∧ m.start ≤ c.start ∧ m.stop ≤ c.stop := by
  obtain ⟨pre, post, h⟩ := List.append_of_mem hc
  rw [Attachments.start, Node.previous_eq h]
  rcases a.startFrom_eq d c.start pre.reverse with heq | ⟨m, hm, heq⟩
  · exact ⟨c, hc, heq, Nat.le_refl _, Nat.le_refl _⟩
  · have hm' : m ∈ pre := List.mem_reverse.mp hm
    have hle := hd.stop_le_of_mem_before hp h hm'
    have hspan : m.start ≤ m.stop := m.span.start_le_stop
    have hspan' : c.start ≤ c.stop := c.span.start_le_stop
    exact ⟨m, h ▸ List.mem_append_left _ hm', heq, hspan.trans hle, hle.trans hspan'⟩

/-- A child with its separator ends with the child or with a sibling behind. -/
theorem exists_last (hc : c ∈ p.children) :
    ∃ m ∈ p.children, separatorEnd c = m.stop ∧ c.stop ≤ m.stop := by
  obtain ⟨pre, post, h⟩ := List.append_of_mem hc
  rcases separatorEnd_eq h with heq | ⟨next, rest, rfl, -, -, heq⟩
  · exact ⟨c, hc, heq, Nat.le_refl _⟩
  · have hle := hd.stop_le_of_mem_behind hp h List.mem_cons_self
    exact ⟨next, h ▸ by simp, heq, hle.trans next.span.start_le_stop⟩

theorem le_start (a : Attachments) (hc : c ∈ p.children) : p.start ≤ a.start d c := by
  obtain ⟨m, hm, heq, -⟩ := hd.exists_first hp a hc
  exact heq ▸ (hd.span_le hp hm).1

theorem start_le (a : Attachments) (hc : c ∈ p.children) : a.start d c ≤ c.start := by
  obtain ⟨m, -, heq, hle, -⟩ := hd.exists_first hp a hc
  exact heq ▸ hle

theorem separatorEnd_le (hc : c ∈ p.children) : separatorEnd c ≤ p.stop := by
  obtain ⟨m, hm, heq, -⟩ := hd.exists_last hp hc
  exact heq ▸ (hd.span_le hp hm).2

theorem le_separatorEnd (hc : c ∈ p.children) : c.stop ≤ separatorEnd c := by
  obtain ⟨m, -, heq, hle⟩ := hd.exists_last hp hc
  exact heq ▸ hle

/-- What a declaration takes in lies around what it is wrapped in. -/
theorem span_of (a : Attachments) (node : Node) (standing : Standing) (hc : c ∈ p.children) :
    (Declaration.of d a node c standing).span.start = a.start d c ∧
      (Declaration.of d a node c standing).span.stop = separatorEnd c := by
  have hstart := hd.start_le hp a hc
  have hstop := hd.le_separatorEnd hp hc
  have hspan : c.start ≤ c.stop := c.span.start_le_stop
  refine ⟨rfl, ?_⟩
  show max (separatorEnd c) (a.start d c) = separatorEnd c
  omega

/-- Where all children begin with something that can be seen, so do declarations. -/
theorem isSolid_of (hsolid : ∀ m ∈ p.children, d.IsSolid m.span) (a : Attachments) (node : Node)
    (standing : Standing) (hc : c ∈ p.children) :
    d.IsSolid (Declaration.of d a node c standing).span := by
  obtain ⟨hstart, hstop⟩ := hd.span_of hp a node standing hc
  obtain ⟨m, hm, hfirst, -, hle⟩ := hd.exists_first hp a hc
  obtain ⟨l, hl, hlast, hle'⟩ := hd.exists_last hp hc
  refine (hsolid m hm).extend (hstart.trans hfirst) ?_ ?_
  · rw [hstop, hlast]
    exact hle.trans hle'
  · rw [hstop, hlast]
    exact (hsolid l hl).isBoundary_stop

/-- A child that attaches to nothing ends, separator included, before a named sibling begins with
all that is attached to it. -/
theorem separatorEnd_le_start {a : Attachments} (ha : a.SparesSeparators) {e : Node}
    {pre mid post : List Node} (h : p.children = pre ++ c :: (mid ++ e :: post))
    (hc : a.admits d c = false) (he : e.isNamed = true) : separatorEnd c ≤ a.start d e := by
  have h' : p.children = (pre ++ c :: mid) ++ e :: post := by simp [h]
  -- attachments of `e` lie behind `x`, and so behind whatever ends before they begin
  have hbehind : ∀ {front back : List Node} {x : Node}, pre ++ c :: mid = front ++ x :: back →
      a.admits d x = false → x.stop ≤ a.start d e := by
    intro front back x hsplit hx
    have hx' : p.children = front ++ x :: (back ++ e :: post) := by simp [h', hsplit]
    rw [Attachments.start, Node.previous_eq h', hsplit, List.reverse_append, List.reverse_cons,
      List.append_assoc, List.singleton_append, Attachments.startFrom_append hx]
    rcases a.startFrom_eq d e.start back.reverse with heq | ⟨m, hm, heq⟩ <;> rw [heq]
    · exact hd.stop_le_of_mem_behind hp hx' (by simp)
    · exact hd.stop_le_of_mem_behind hp hx'
        (List.mem_append_left _ (List.mem_reverse.mp hm))
  rcases separatorEnd_eq h with heq | ⟨next, rest, hnext, hkind, hnamed, heq⟩ <;> rw [heq]
  · exact hbehind rfl hc
  · cases mid with
    | nil =>
      obtain ⟨rfl, -⟩ := List.cons.inj hnext
      rw [he] at hnamed
      cases hnamed
    | cons x mid =>
      obtain ⟨rfl, -⟩ := List.cons.inj hnext
      have hx : a.admits d x = false := by
        rcases hkind with hkind | hkind
        · exact Attachments.admits_of_passes (hkind ▸ ha.1)
        · exact Attachments.admits_of_passes (hkind ▸ ha.2)
      have hfront : pre ++ c :: x :: mid = (pre ++ [c]) ++ x :: mid := by simp
      exact hbehind hfront hx

end Document.IsOrdered

end Abridge
