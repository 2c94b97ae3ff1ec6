import Abridge.Tree.Node
import Mathlib.Data.List.Infix
import Mathlib.Data.List.Pairwise

/-!
Ancestors and siblings.

Paths are written innermost first, so that the path of an ancestor is a suffix of that of its
descendant (`encloses_iff`). The siblings of a child are what stands around it in the list of
children (`following_eq`, `previous_eq`); what lies below different siblings never encloses one
another (`not_encloses_of_siblings`).
-/
namespace Abridge.Node

/-- Whether a node is a proper ancestor of another. -/
def encloses (n m : Node) : Bool :=
  m.ancestors.any n.same

/-- Whether a node is another one or encloses it. -/
def Holds (n m : Node) : Prop :=
  n.path <:+ m.path

theorem mem_tail_tails {α : Type} {l p : List α} : l ∈ p.tails.tail ↔ l <:+ p ∧ l ≠ p := by
  cases p with
  | nil => simp
  | cons a q =>
    rw [List.tails_cons, List.tail_cons, List.mem_tails, List.suffix_cons_iff]
    constructor
    · intro h
      refine ⟨.inr h, fun heq => ?_⟩
      have hle := h.length_le
      rw [heq, List.length_cons] at hle
      omega
    · rintro ⟨h | h, hne⟩
      · exact absurd h hne
      · exact h

theorem path_enclosing (t : Tree) (above : List Frame) :
    (enclosing t above).map path = (above.map fun f => f.before.length).tails.tail := by
  induction above generalizing t with
  | nil => rfl
  | cons f above ih =>
    have hself : ∀ p : List Nat, p.tails = p :: p.tails.tail := fun p => by cases p <;> simp
    show path ⟨f.close t, above⟩ :: (enclosing (f.close t) above).map path = _
    rw [ih, List.map_cons, List.tails_cons, List.tail_cons, hself (above.map _)]
    rfl

/-- A node encloses those whose path goes on from its own. -/
theorem encloses_iff {n m : Node} :
    n.encloses m = true ↔ n.Holds m ∧ n.path ≠ m.path := by
  have hpaths : n.encloses m = true ↔ n.path ∈ m.ancestors.map path := by
    rw [encloses, List.any_eq_true, List.mem_map]
    simp only [same, beq_iff_eq, eq_comm (a := n.path)]
  rw [hpaths, ancestors, path_enclosing, mem_tail_tails]
  rfl

section
variable {n m k : Node}

@[refl] theorem Holds.refl (n : Node) : n.Holds n :=
  List.suffix_refl _

theorem Holds.trans (h : n.Holds m) (h' : m.Holds k) : n.Holds k :=
  List.IsSuffix.trans h h'

theorem holds_of_encloses (h : n.encloses m = true) : n.Holds m :=
  (encloses_iff.mp h).1

theorem length_lt_of_encloses (h : n.encloses m = true) : n.path.length < m.path.length := by
  obtain ⟨hsuffix, hne⟩ := encloses_iff.mp h
  exact lt_of_le_of_ne hsuffix.length_le fun heq => hne (hsuffix.eq_of_length heq)

/-- A node that holds another one and does not enclose it is that one. -/
theorem Holds.path_eq (h : n.Holds m) (hflat : n.encloses m = false) : n.path = m.path := by
  by_contra hne
  rw [encloses_iff.mpr ⟨h, hne⟩] at hflat
  cases hflat

theorem Holds.encloses (h : n.Holds m) (hlt : n.path.length < m.path.length) :
    n.encloses m = true :=
  encloses_iff.mpr ⟨h, fun heq => absurd (congrArg List.length heq) (Nat.ne_of_lt hlt)⟩

theorem encloses_of_holds_of_encloses (h : n.Holds m) (h' : m.encloses k = true) :
    n.encloses k = true :=
  (h.trans (holds_of_encloses h')).encloses
    (Nat.lt_of_le_of_lt h.length_le (length_lt_of_encloses h'))

theorem encloses_of_encloses_of_holds (h : n.encloses m = true) (h' : m.Holds k) :
    n.encloses k = true :=
  ((holds_of_encloses h).trans h').encloses
    (Nat.lt_of_lt_of_le (length_lt_of_encloses h) h'.length_le)

theorem encloses_trans (h : n.encloses m = true) (h' : m.encloses k = true) :
    n.encloses k = true :=
  encloses_of_holds_of_encloses (holds_of_encloses h) h'

theorem encloses_irrefl (n : Node) : n.encloses n = false :=
  Bool.eq_false_iff.mpr fun h => Nat.lt_irrefl _ (length_lt_of_encloses h)

theorem encloses_asymm (h : n.encloses m = true) : m.encloses n = false :=
  Bool.eq_false_iff.mpr fun h' =>
    Nat.lt_asymm (length_lt_of_encloses h) (length_lt_of_encloses h')

/-- What lies below one of two nodes on the same level encloses nothing below the other. -/
theorem not_encloses_of_level {x y : Node} (hlength : n.path.length = m.path.length)
    (hne : n.path ≠ m.path) (hx : n.Holds x) (hy : m.Holds y) : x.encloses y = false := by
  refine Bool.eq_false_iff.mpr fun h => hne ?_
  have hn : n.path <:+ y.path := hx.trans (holds_of_encloses h)
  exact (List.suffix_of_suffix_length_le hn hy hlength.le).eq_of_length hlength

end

/-! ### Siblings -/

theorem siblingsAfter_split {label : Label} {above : List Frame} {before ts : List Tree}
    {pre post : List Node} {c : Node}
    (h : siblingsAfter label above before ts = pre ++ c :: post) :
    c.following = post ∧
      c.previous = pre.reverse ++ siblingsBefore label above ts before ∧
      c.path = (before.length + pre.length) :: above.map fun f => f.before.length := by
  induction pre generalizing before ts with
  | nil =>
    cases ts with
    | nil => cases h
    | cons t ts =>
      obtain ⟨rfl, rfl⟩ := List.cons.inj h
      exact ⟨rfl, rfl, rfl⟩
  | cons p pre ih =>
    cases ts with
    | nil => cases h
    | cons t ts =>
      rw [siblingsAfter, List.cons_append] at h
      obtain ⟨rfl, hrest⟩ := List.cons.inj h
      obtain ⟨hfollowing, hprevious, hpath⟩ := ih hrest
      refine ⟨hfollowing, ?_, ?_⟩
      · rw [hprevious, siblingsBefore, List.reverse_cons, List.append_assoc]
        rfl
      · rw [hpath]
        simp only [List.length_cons]
        congr 1
        omega

section
variable {n c : Node} {pre post : List Node}

theorem following_eq (h : n.children = pre ++ c :: post) : c.following = post :=
  (siblingsAfter_split h).1

theorem previous_eq (h : n.children = pre ++ c :: post) : c.previous = pre.reverse := by
  obtain ⟨-, hprevious, -⟩ := siblingsAfter_split h
  rw [hprevious, siblingsBefore, List.append_nil]

theorem path_eq (h : n.children = pre ++ c :: post) : c.path = pre.length :: n.path := by
  obtain ⟨-, -, hpath⟩ := siblingsAfter_split h
  rw [hpath, List.length_nil, Nat.zero_add]
  rfl

theorem length_path_of_mem_children (h : c ∈ n.children) : c.path.length = n.path.length + 1 := by
  obtain ⟨pre, post, h⟩ := List.append_of_mem h
  rw [path_eq h, List.length_cons]

/-- A node encloses its children. -/
theorem encloses_of_mem_children (h : c ∈ n.children) : n.encloses c = true := by
  obtain ⟨pre, post, hsplit⟩ := List.append_of_mem h
  refine Holds.encloses ?_ (by rw [length_path_of_mem_children h]; omega)
  rw [Holds, path_eq hsplit]
  exact List.suffix_cons _ _

/-- What lies below different children of a node never encloses one another. -/
theorem not_encloses_of_siblings {a b x y : Node} {mid : List Node}
    (h : n.children = pre ++ a :: (mid ++ b :: post)) (hx : a.Holds x) (hy : b.Holds y) :
    x.encloses y = false ∧ y.encloses x = false := by
  have ha : a.path = pre.length :: n.path := path_eq h
  have hb : b.path = (pre ++ a :: mid).length :: n.path := path_eq (by simpa using h)
  have hlength : a.path.length = b.path.length := by rw [ha, hb]; rfl
  have hne : a.path ≠ b.path := by
    rw [ha, hb]
    intro heq
    have := (List.cons.inj heq).1
    simp at this
  exact ⟨not_encloses_of_level hlength hne hx hy,
    not_encloses_of_level hlength.symm hne.symm hy hx⟩

end

/-- Two elements of a list, one behind the other, cut it in three. -/
theorem exists_split_of_pair {α : Type} {a b : α} {l : List α} (h : [a, b].Sublist l) :
    ∃ pre mid post, l = pre ++ a :: (mid ++ b :: post) := by
  obtain ⟨r₁, r₂, rfl, ha, hb⟩ := List.cons_sublist_iff.mp h
  obtain ⟨pre, mid, rfl⟩ := List.append_of_mem ha
  obtain ⟨mid', post, rfl⟩ := List.append_of_mem (List.singleton_sublist.mp hb)
  exact ⟨pre, mid ++ mid', post, by simp⟩

/-- Two elements of a list in order are related, one way round or the other. -/
theorem rel_or_rel {α : Type} {R : α → α → Prop} {l : List α} (h : l.Pairwise R) {a b : α}
    (ha : a ∈ l) (hb : b ∈ l) (hne : a ≠ b) : R a b ∨ R b a := by
  have hsymm : Std.Symm fun x y => R x y ∨ R y x := ⟨fun _ _ h => h.symm⟩
  have hor : l.Pairwise fun x y => R x y ∨ R y x := h.imp fun h => .inl h
  exact hor.forall ha hb hne

end Abridge.Node
