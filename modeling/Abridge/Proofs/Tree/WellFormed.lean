import Abridge.Proofs.Document
import Abridge.Proofs.Edit.Queue
import Abridge.Proofs.Text.Cut
import Abridge.Proofs.Tree.Ancestry

/-!
Well-formed trees.

Parsers give trees in which children lie inside their parent, one behind the other
(`Document.IsOrdered`), whose nodes are stretches of the text (`Document.IsNested`) and, but for
empty ones, begin with something that can be seen (`Document.IsWellFormed`). Grammars put a body
behind a keyword or a name (`Document.HasHeads`).
-/
namespace Abridge

/-! ### Trees written out -/

namespace Tree

/-- A named node. -/
def named (kind : String) (start stop : Nat) (children : List Tree) : Tree :=
  .node { kind, span := .between start stop } children

/-- A bare token. -/
def token (kind : String) (start stop : Nat) : Tree :=
  .node { kind, span := .between start stop, isNamed := false } []

def inField (field : String) : Tree → Tree
  | .node label children => .node { label with field := some field } children

/-- The path of an import in Go. -/
def importPath (start stop : Nat) : Tree :=
  inField "path" (named "interpreted_string_literal" start stop [
    token "\"" start (start + 1),
    named "interpreted_string_literal_content" (start + 1) (stop - 1) [],
    token "\"" (stop - 1) stop])

/-- What a parser sets aside when it recovers. -/
def error (start stop : Nat) (children : List Tree) : Tree :=
  .node { kind := "ERROR", span := .between start stop, isError := true, hasError := true } children

/-- A node around an error. -/
def recovered : Tree → Tree
  | .node label children => .node { label with hasError := true } children

end Tree

/-! ### Nodes of a document -/

namespace Node

theorem mem_walk_of_mem {stack : List Node} {n : Node} (h : n ∈ stack) : n ∈ walk stack := by
  induction stack using walk.induct with
  | case1 => cases h
  | case2 m stack ih =>
    rw [walk]
    rcases List.mem_cons.mp h with rfl | h
    · exact List.mem_cons_self
    · exact List.mem_cons_of_mem _ (ih (List.mem_append_right _ h))

/-- A walk that comes by a node comes by its children. -/
theorem mem_walk_of_mem_children {stack : List Node} {n c : Node} (h : n ∈ walk stack)
    (hc : c ∈ n.children) : c ∈ walk stack := by
  induction stack using walk.induct with
  | case1 => rw [walk] at h; cases h
  | case2 m stack ih =>
    rw [walk] at h ⊢
    rcases List.mem_cons.mp h with rfl | h
    · exact List.mem_cons_of_mem _ (mem_walk_of_mem (List.mem_append_left _ hc))
    · exact List.mem_cons_of_mem _ (ih h)

section Expand
variable {σ α : Type}

/-- What comes of a result or of a node to go on from. -/
def resume (go : σ → Node → List α) : α ⊕ (σ × Node) → List α
  | .inl a => [a]
  | .inr (next, m) => go next m

@[simp] theorem flatMap_resume_cons_inl (go : σ → Node → List α) (a : α)
    (rest : List (α ⊕ (σ × Node))) :
    (.inl a :: rest).flatMap (resume go) = a :: rest.flatMap (resume go) := rfl

@[simp] theorem flatMap_resume_map_inl (go : σ → Node → List α) (as : List α) :
    (as.map .inl).flatMap (resume go) = as := by
  rw [List.flatMap_map]
  exact List.flatMap_singleton' as

/-- What a recursion gives at a node has a property if one step gives it whenever whatever it goes
on with has it. -/
theorem expand_induct {step : σ → Node → List (α ⊕ (σ × Node))} {Q : Node → Prop}
    {P : Node → List α → Prop} (hnil : ∀ n, P n [])
    (hstep : ∀ state n go, Q n → (∀ next m, Q m → P m (go next m)) →
      P n ((step state n).flatMap (resume go)))
    (state : σ) (n : Node) (hn : Q n) : P n (expand step state n) := by
  induction hsize : n.size using Nat.strong_induction_on generalizing state n with
  | _ size ih =>
    have hexpand : expand step state n = (step state n).flatMap
        (resume fun next m => if m.size < n.size then expand step next m else []) := by
      rw [expand]
      refine congrArg (step state n).flatMap (funext fun result => ?_)
      cases result <;> rfl
    rw [hexpand]
    refine hstep state n _ hn fun next m hm => ?_
    by_cases hlt : m.size < n.size
    · rw [if_pos hlt]
      exact ih m.size (hsize ▸ hlt) next m hm rfl
    · rw [if_neg hlt]
      exact hnil m

end Expand

end Node

namespace Document
variable {d : Document} {n c : Node}

theorem root_mem_nodes (d : Document) : d.root ∈ d.nodes :=
  List.mem_cons_self

theorem mem_nodes_of_mem_children (h : n ∈ d.nodes) (hc : c ∈ n.children) : c ∈ d.nodes := by
  rcases List.mem_cons.mp h with rfl | h
  · exact List.mem_cons_of_mem _ (Node.mem_walk_of_mem hc)
  · exact List.mem_cons_of_mem _ (Node.mem_walk_of_mem_children h hc)

/-! ### Nested trees -/

/-- Whether two offsets are the ends of a stretch of the text. -/
structure IsStretch (d : Document) (start stop : Nat) : Prop where
  isBoundary_start : d.text.isBoundary start = true
  isBoundary_stop : d.text.isBoundary stop = true
  start_le_stop : start ≤ stop

namespace IsStretch
variable {l m n : Nat}

theorem trans (h : d.IsStretch l m) (h' : d.IsStretch m n) : d.IsStretch l n :=
  ⟨h.isBoundary_start, h'.isBoundary_stop, h.start_le_stop.trans h'.start_le_stop⟩

theorem textBetween_eq (h : d.IsStretch m n) : d.textBetween m n = d.text.slice m n := by
  show d.text.slice m (max n m) = _
  rw [Nat.max_eq_left h.start_le_stop]

/-- Neighbouring stretches join. -/
theorem textBetween_append (h : d.IsStretch l m) (h' : d.IsStretch m n) :
    d.textBetween l m ++ d.textBetween m n = d.textBetween l n := by
  rw [h.textBetween_eq, h'.textBetween_eq, (h.trans h').textBetween_eq]
  exact Text.slice_append_slice h.isBoundary_start h.isBoundary_stop h'.isBoundary_stop
    h.start_le_stop h'.start_le_stop

end IsStretch

/-- Whether the children of each node lie inside it, each behind the one in front. -/
structure IsOrdered (d : Document) : Prop where
  nested : ∀ n ∈ d.nodes, ∀ c ∈ n.children, n.span.contains c.span = true
  ordered : ∀ n ∈ d.nodes, ∀ m ∈ n.following, n.stop ≤ m.start

namespace IsOrdered
variable (hd : d.IsOrdered) {p : Node} (hp : p ∈ d.nodes)
include hd hp

theorem span_le (hc : c ∈ p.children) : p.start ≤ c.start ∧ c.stop ≤ p.stop :=
  Span.contains_iff.mp (hd.nested p hp c hc)

theorem stop_le_of_mem_behind {pre post : List Node} (h : p.children = pre ++ c :: post) {m : Node}
    (hm : m ∈ post) : c.stop ≤ m.start := by
  have hc : c ∈ p.children := h ▸ List.mem_append_right _ List.mem_cons_self
  refine hd.ordered c (mem_nodes_of_mem_children hp hc) m ?_
  rw [Node.following_eq h]
  exact hm

theorem children_pairwise : p.children.Pairwise fun a b => a.stop ≤ b.start := by
  refine List.pairwise_iff_forall_sublist.mpr fun {a b} hpair => ?_
  obtain ⟨pre, mid, post, h⟩ := Node.exists_split_of_pair hpair
  exact hd.stop_le_of_mem_behind hp h (by simp)

end IsOrdered

/-- Whether the nodes of a tree are stretches of the text, perhaps empty ones, with the children
inside their parent and each behind the one in front. -/
structure IsNested (d : Document) : Prop where
  stretch : ∀ n ∈ d.nodes, d.IsStretch n.start n.stop
  nested : ∀ n ∈ d.nodes, ∀ c ∈ n.children, n.span.contains c.span = true
  ordered : ∀ n ∈ d.nodes, ∀ m ∈ n.following, n.stop ≤ m.start

namespace IsNested
variable (hd : d.IsNested) {p : Node} (hp : p ∈ d.nodes)
include hd

theorem isOrdered : d.IsOrdered :=
  ⟨hd.nested, hd.ordered⟩

include hp

theorem span_le (hc : c ∈ p.children) : p.start ≤ c.start ∧ c.stop ≤ p.stop :=
  hd.isOrdered.span_le hp hc

theorem children_pairwise : p.children.Pairwise fun a b => a.stop ≤ b.start :=
  hd.isOrdered.children_pairwise hp

end IsNested

/-! ### Solid spans -/

/-- Whether a span is a stretch of the text that begins with a character that is no blank. -/
structure IsSolid (d : Document) (s : Span) : Prop where
  isBoundary_start : d.text.isBoundary s.start = true
  isBoundary_stop : d.text.isBoundary s.stop = true
  start_lt_stop : s.start < s.stop
  opens : ((d.text.after s.start).head?.any fun c => !Text.isBlank c) = true

namespace IsSolid
variable {s t : Span}

/-- A solid span stays so when its end is moved away. -/
theorem extend (hs : d.IsSolid s) (hstart : t.start = s.start) (hle : s.stop ≤ t.stop)
    (hstop : d.text.isBoundary t.stop = true) : d.IsSolid t where
  isBoundary_start := hstart ▸ hs.isBoundary_start
  isBoundary_stop := hstop
  start_lt_stop := by have := hs.start_lt_stop; omega
  opens := hstart ▸ hs.opens

/-- Where a solid span starts between two boundaries, not only blanks stand between them. -/
theorem not_isBlankText (hs : d.IsSolid s) {m n : Nat} (hm : d.text.isBoundary m = true)
    (hn : d.text.isBoundary n = true) (hms : m ≤ s.start) (hsn : s.start < n) :
    (d.text.slice m n).isBlankText = false := by
  have hk := hs.isBoundary_start
  have hjoin : d.text.slice m s.start ++ d.text.slice s.start n = d.text.slice m n :=
    Text.slice_append_slice hm hk hn hms hsn.le
  have hne : d.text.slice s.start n ≠ [] := Text.slice_ne_nil hk hn hsn
  obtain ⟨c, t, hslice⟩ := List.exists_cons_of_ne_nil hne
  have hopens := hs.opens
  rw [← Text.slice_append_after hk hn hsn.le, hslice] at hopens
  have hblank : Text.isBlank c = false := by simpa using hopens
  rw [← hjoin, hslice]
  simp [Text.isBlankText, hblank]

end IsSolid

/-! ### Well-formed trees -/

/-- Whether a tree is what parsers make of a text: nodes begin with characters that are no blanks,
and children lie inside their parent, each behind the one in front. -/
structure IsWellFormed (d : Document) : Prop where
  solid : ∀ n ∈ d.nodes, d.IsSolid n.span
  nested : ∀ n ∈ d.nodes, ∀ c ∈ n.children, n.span.contains c.span = true
  ordered : ∀ n ∈ d.nodes, ∀ m ∈ n.following, n.stop ≤ m.start

theorem IsWellFormed.isNested (hd : d.IsWellFormed) : d.IsNested where
  stretch n hn := ⟨(hd.solid n hn).isBoundary_start, (hd.solid n hn).isBoundary_stop,
    (hd.solid n hn).start_lt_stop.le⟩
  nested := hd.nested
  ordered := hd.ordered

theorem IsWellFormed.isOrdered (hd : d.IsWellFormed) : d.IsOrdered :=
  ⟨hd.nested, hd.ordered⟩

/-- The check of each node that a tree is well-formed. -/
def isWellFormed (d : Document) : Bool :=
  d.nodes.all fun n =>
    d.text.isBoundary n.start && d.text.isBoundary n.stop && n.start < n.stop &&
      ((d.text.after n.start).head?.any fun c => !Text.isBlank c) &&
      n.children.all (n.span.contains ·.span) && n.following.all (n.stop ≤ ·.start)

theorem isWellFormed_iff : d.isWellFormed = true ↔ d.IsWellFormed := by
  simp only [isWellFormed, List.all_eq_true, Bool.and_eq_true, decide_eq_true_eq]
  constructor
  · intro h
    exact ⟨fun n hn => have ⟨⟨⟨⟨⟨hstart, hstop⟩, hlt⟩, hopens⟩, _⟩, _⟩ := h n hn
        ⟨hstart, hstop, hlt, hopens⟩,
      fun n hn => (h n hn).1.2, fun n hn => (h n hn).2⟩
  · intro h n hn
    obtain ⟨hstart, hstop, hlt, hopens⟩ := h.solid n hn
    exact ⟨⟨⟨⟨⟨hstart, hstop⟩, hlt⟩, hopens⟩, h.nested n hn⟩, h.ordered n hn⟩

end Document

/-- Whether a child is the body of its parent; the list of fields of a structure type in Go is one
without the field. -/
def Node.isBodyOf (c n : Node) : Bool :=
  c.label.field == some "body" || n.kind == "struct_type" && c.kind == "field_declaration_list"

/-- Whether no body begins its node; all grammars put a keyword or a name in front of it. -/
def Document.HasHeads (d : Document) : Prop :=
  ∀ n ∈ d.nodes, ∀ c ∈ n.children, c.isBodyOf n = true → n.start < c.start

end Abridge
