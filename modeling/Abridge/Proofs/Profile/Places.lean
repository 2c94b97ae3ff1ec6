import Abridge.Profile.Table
import Abridge.Proofs.Declaration.Extent
import Abridge.Proofs.Profile.Layout

/-!
Where the declarations of a document stand.

Whatever a profile declares, it found it going down from the root: a declaration stands at a child
of a node of the document, or in what wraps it there (`Declaration.IsPlaced`). Nothing is asked of
the tree for that. So a declaration with all that is attached to it begins where a node of the
document begins (`IsPlaced.exists_start`), and where nodes begin with something that can be seen, so
do declarations (`IsPlaced.isSolid`).
-/
namespace Abridge

/-- Whether a declaration takes in a child of a node of the document. -/
def Declaration.IsPlaced (d : Document) (e : Declaration) : Prop :=
  ∃ p ∈ d.nodes, ∃ outer ∈ p.children, ∃ a node standing, e = .of d a node outer standing

/-- Whether a step of a profile gives a declaration in its place or a node of the document to go on
from. -/
def IsFound {σ : Type} (d : Document) : Declaration ⊕ (σ × Node) → Prop
  | .inl e => e.IsPlaced d
  | .inr (_, m) => m ∈ d.nodes

section
variable {d : Document} {p outer node : Node}

/-- A declaration begins with the node that it takes in or with a sibling in front of it. -/
theorem Declaration.IsPlaced.exists_start {e : Declaration} (h : e.IsPlaced d) :
    ∃ n ∈ d.nodes, e.span.start = n.start := by
  obtain ⟨p, hp, outer, houter, a, node, standing, rfl⟩ := h
  obtain ⟨pre, post, hsplit⟩ := List.append_of_mem houter
  have hprevious : ∀ m ∈ outer.previous, m ∈ p.children := by
    intro m hm
    rw [Node.previous_eq hsplit] at hm
    exact hsplit ▸ List.mem_append_left _ (List.mem_reverse.mp hm)
  show ∃ n ∈ d.nodes, a.startFrom d outer.start outer.previous = n.start
  rcases a.startFrom_eq d outer.start outer.previous with heq | ⟨m, hm, heq⟩
  · exact ⟨outer, Document.mem_nodes_of_mem_children hp houter, heq⟩
  · exact ⟨m, Document.mem_nodes_of_mem_children hp (hprevious m hm), heq⟩

theorem Declaration.IsPlaced.isSolid {e : Declaration} (hd : d.IsWellFormed) (h : e.IsPlaced d) :
    d.IsSolid e.span := by
  obtain ⟨p, hp, outer, houter, a, node, standing, rfl⟩ := h
  exact hd.isOrdered.isSolid_of hp
    (fun m hm => hd.solid m (Document.mem_nodes_of_mem_children hp hm)) a node standing houter

theorem isPlaced_of (hp : p ∈ d.nodes) (houter : outer ∈ p.children) (a : Attachments)
    (node : Node) (standing : Standing) : (Declaration.of d a node outer standing).IsPlaced d :=
  ⟨p, hp, outer, houter, a, node, standing, rfl⟩

theorem isPlaced_of_namedChildren (hp : p ∈ d.nodes) (hnode : node ∈ p.namedChildren)
    (a : Attachments) (standing : Standing) :
    (Declaration.of d a node node standing).IsPlaced d :=
  isPlaced_of hp (Node.mem_children_of_mem_namedChildren hnode) a node standing

theorem mem_nodes_of_namedChildren (hp : p ∈ d.nodes) (hnode : node ∈ p.namedChildren) :
    node ∈ d.nodes :=
  Document.mem_nodes_of_mem_children hp (Node.mem_children_of_mem_namedChildren hnode)

theorem mem_nodes_of_inField? (hp : p ∈ d.nodes) {field : String}
    (hnode : p.inField? field = some node) : node ∈ d.nodes :=
  Document.mem_nodes_of_mem_children hp (Node.mem_children_of_inField? hnode)

/-- Steps that find declarations in their places and nodes of the document find nothing else on the
way down. -/
theorem isPlaced_of_mem_expand {σ : Type} {step : σ → Node → List (Declaration ⊕ (σ × Node))}
    (hstep : ∀ state, ∀ n ∈ d.nodes, ∀ r ∈ step state n, IsFound d r) (state : σ)
    (hnode : node ∈ d.nodes) : ∀ e ∈ node.expand step state, e.IsPlaced d := by
  refine Node.expand_induct (Q := (· ∈ d.nodes))
    (P := fun _ ds => ∀ e ∈ ds, Declaration.IsPlaced d e) (fun _ _ h => absurd h List.not_mem_nil)
    (fun state n go hn hgo e he => ?_) state node hnode
  obtain ⟨r, hr, he⟩ := List.mem_flatMap.mp he
  have hfound := hstep state n hn r hr
  cases r with
  | inl e' => exact List.mem_singleton.mp he ▸ hfound
  | inr next => exact hgo next.1 next.2 hfound e he

end

namespace Profile
variable {d : Document} {p node outer : Node}

/-! ### Python -/

namespace Python

theorem isFound_declare (hp : p ∈ d.nodes) (houter : outer ∈ p.children) (hnode : node ∈ d.nodes)
    (inClass : Bool) : ∀ r ∈ declare d inClass node outer, IsFound d r := by
  intro r hr
  unfold declare at hr
  split at hr
  · obtain ⟨name, -, rfl⟩ := List.mem_map.mp hr
    exact isPlaced_of hp houter _ _ _
  · split at hr
    · obtain ⟨name, -, hr⟩ := List.mem_flatMap.mp hr
      rcases List.mem_cons.mp hr with rfl | hr
      · exact isPlaced_of hp houter _ _ _
      · obtain ⟨body, hbody, rfl⟩ := List.mem_map.mp hr
        exact mem_nodes_of_inField? hnode (Option.mem_toList.mp hbody)
    · split at hr
      · obtain ⟨name, -, rfl⟩ := List.mem_map.mp hr
        exact isPlaced_of hp houter _ _ _
      · split at hr
        · obtain rfl := List.mem_singleton.mp hr
          exact isPlaced_of hp houter _ _ _
        · cases hr

theorem isPlaced_of_mem : ∀ e ∈ declarations d, e.IsPlaced d := by
  refine isPlaced_of_mem_expand (fun inClass n hn r hr => ?_) false d.root_mem_nodes
  obtain ⟨child, hchild, hr⟩ := List.mem_flatMap.mp hr
  have houter := Node.mem_children_of_mem_namedChildren hchild
  have hmem := mem_nodes_of_namedChildren hn hchild
  split at hr
  · obtain ⟨node, hnode, hr⟩ := List.mem_flatMap.mp hr
    exact isFound_declare hn houter (mem_nodes_of_inField? hmem (Option.mem_toList.mp hnode))
      inClass r hr
  · exact isFound_declare hn houter hmem inClass r hr

end Python

/-! ### TypeScript and JavaScript -/

namespace Ecma

theorem isPlaced_declare (hp : p ∈ d.nodes) (houter : outer ∈ p.children) (hnode : node ∈ d.nodes)
    (exported : Bool) : ∀ e ∈ declare d node outer exported, e.IsPlaced d := by
  intro e he
  unfold declare at he
  split at he
  · cases he
  · rcases List.mem_cons.mp he with rfl | he
    · exact isPlaced_of hp houter _ _ _
    · split at he
      · obtain ⟨body, hbody, he⟩ := List.mem_flatMap.mp he
        obtain ⟨member, hmember, he⟩ := List.mem_filterMap.mp he
        obtain ⟨kind, -, rfl⟩ := Option.map_eq_some_iff.mp he
        exact isPlaced_of_namedChildren (mem_nodes_of_inField? hnode (Option.mem_toList.mp hbody))
          hmember _ _
      · cases he

theorem isPlaced_of_mem : ∀ e ∈ declarations d, e.IsPlaced d := by
  intro e he
  obtain ⟨statement, hstatement, he⟩ := List.mem_flatMap.mp he
  have hroot := d.root_mem_nodes
  have houter := Node.mem_children_of_mem_namedChildren hstatement
  have hmem := mem_nodes_of_namedChildren hroot hstatement
  have hdeclared : ∀ node ∈ (declared? statement).toList, node ∈ d.nodes := fun node hnode =>
    Document.mem_nodes_of_mem_children hmem (mem_children_of_declared? (Option.mem_toList.mp hnode))
  unfold declareStatement at he
  dsimp only at he
  split at he
  · obtain rfl := List.mem_singleton.mp he
    exact isPlaced_of hroot houter _ _ _
  · split at he
    · obtain ⟨node, hnode, he⟩ := List.mem_flatMap.mp he
      exact isPlaced_declare hroot houter (hdeclared node hnode) _ e he
    · split at he
      · obtain ⟨node, hnode, he⟩ := List.mem_flatMap.mp he
        exact isPlaced_declare hroot houter (hdeclared node hnode) _ e he
      · exact isPlaced_declare hroot houter hmem _ e he

end Ecma

/-! ### Rust -/

namespace Rust

theorem isPlaced_implMembers (hnode : node ∈ d.nodes) :
    ∀ e ∈ implMembers d node, e.IsPlaced d := by
  intro e he
  obtain ⟨body, hbody, he⟩ := List.mem_flatMap.mp he
  obtain ⟨member, hmember, he⟩ := List.mem_filterMap.mp he
  obtain ⟨kind, -, rfl⟩ := Option.map_eq_some_iff.mp he
  exact isPlaced_of_namedChildren (mem_nodes_of_inField? hnode (Option.mem_toList.mp hbody))
    hmember _ _

theorem isPlaced_fields (hnode : node ∈ d.nodes) : ∀ e ∈ fields d node, e.IsPlaced d := by
  intro e he
  obtain ⟨body, hbody, he⟩ := List.mem_flatMap.mp he
  obtain ⟨field, hfield, rfl⟩ := List.mem_map.mp he
  have hbody := Option.mem_toList.mp (List.mem_filter.mp hbody).1
  exact isPlaced_of_namedChildren (mem_nodes_of_inField? hnode hbody) (List.mem_filter.mp hfield).1
    _ _

theorem isFound_declare (hp : p ∈ d.nodes) (hnode : node ∈ p.namedChildren) :
    ∀ r ∈ declare d node, IsFound d r := by
  have hmem := mem_nodes_of_namedChildren hp hnode
  intro r hr
  unfold declare at hr
  split at hr
  · obtain ⟨e, he, rfl⟩ := List.mem_map.mp hr
    exact isPlaced_implMembers hmem e he
  · split at hr
    · cases hr
    · dsimp only at hr
      rcases List.mem_cons.mp hr with rfl | hr
      · exact isPlaced_of_namedChildren hp hnode _ _
      · split at hr
        · obtain ⟨e, he, rfl⟩ := List.mem_map.mp hr
          exact isPlaced_fields hmem e he
        · split at hr
          · obtain ⟨body, hbody, rfl⟩ := List.mem_map.mp hr
            exact mem_nodes_of_inField? hmem (Option.mem_toList.mp hbody)
          · cases hr

theorem isPlaced_of_mem : ∀ e ∈ declarations d, e.IsPlaced d := by
  refine isPlaced_of_mem_expand (fun _ n hn r hr => ?_) () d.root_mem_nodes
  obtain ⟨item, hitem, hr⟩ := List.mem_flatMap.mp hr
  exact isFound_declare hn hitem r hr

end Rust

/-! ### Go -/

namespace Go

theorem isPlaced_fields (hnode : node ∈ d.nodes) : ∀ e ∈ fields d node, e.IsPlaced d := by
  intro e he
  obtain ⟨spec, hspec, he⟩ := List.mem_flatMap.mp he
  obtain ⟨struct, hstruct, he⟩ := List.mem_flatMap.mp he
  obtain ⟨list, hlist, he⟩ := List.mem_flatMap.mp he
  obtain ⟨field, hfield, rfl⟩ := List.mem_map.mp he
  have hspec' := mem_nodes_of_namedChildren hnode hspec
  have hstruct' := mem_nodes_of_inField? hspec'
    (Option.mem_toList.mp (List.mem_filter.mp hstruct).1)
  have hlist' := mem_nodes_of_namedChildren hstruct'
    (List.mem_of_find?_eq_some (Option.mem_toList.mp hlist))
  exact isPlaced_of_namedChildren hlist' (List.mem_filter.mp hfield).1 _ _

theorem isPlaced_of_mem : ∀ e ∈ declarations d, e.IsPlaced d := by
  intro e he
  obtain ⟨n, hn, he⟩ := List.mem_flatMap.mp he
  have hroot := d.root_mem_nodes
  obtain ⟨standing, -, he⟩ := List.mem_flatMap.mp he
  rcases List.mem_cons.mp he with rfl | he
  · exact isPlaced_of_namedChildren hroot hn _ _
  · split at he
    · exact isPlaced_fields (mem_nodes_of_namedChildren hroot hn) e he
    · cases he

end Go

/-! ### Java -/

namespace Java

theorem isFound_declareMember (hp : p ∈ d.nodes) (hnode : node ∈ p.namedChildren)
    (otherwise : Visibility) : ∀ r ∈ declareMember d otherwise node, IsFound d r := by
  intro r hr
  obtain ⟨kind, -, hr⟩ := List.mem_flatMap.mp hr
  dsimp only at hr
  rcases List.mem_cons.mp hr with rfl | hr
  · exact isPlaced_of_namedChildren hp hnode _ _
  · split at hr
    · obtain rfl := List.mem_singleton.mp hr
      exact mem_nodes_of_namedChildren hp hnode
    · cases hr

theorem isFound_memberStep (hnode : node ∈ d.nodes) :
    ∀ r ∈ memberStep d () node, IsFound d r := by
  intro r hr
  obtain ⟨body, hbody, hr⟩ := List.mem_flatMap.mp hr
  obtain ⟨member, hmember, hr⟩ := List.mem_flatMap.mp hr
  have hbody' := mem_nodes_of_inField? hnode (Option.mem_toList.mp hbody)
  unfold membersIn at hmember
  split at hmember
  next inner hinner =>
    exact isFound_declareMember
      (mem_nodes_of_namedChildren hbody' (List.mem_of_find?_eq_some hinner)) hmember _ r hr
  · exact isFound_declareMember hbody' hmember _ r hr

theorem isPlaced_of_mem : ∀ e ∈ declarations d, e.IsPlaced d := by
  intro e he
  obtain ⟨n, hn, he⟩ := List.mem_flatMap.mp he
  have hroot := d.root_mem_nodes
  unfold declare at he
  split at he
  · obtain rfl := List.mem_singleton.mp he
    exact isPlaced_of_namedChildren hroot hn _ _
  · obtain ⟨kind, -, he⟩ := List.mem_flatMap.mp he
    dsimp only at he
    rcases List.mem_cons.mp he with rfl | he
    · exact isPlaced_of_namedChildren hroot hn _ _
    · split at he
      · exact isPlaced_of_mem_expand (fun _ _ => isFound_memberStep) ()
          (mem_nodes_of_namedChildren hroot hn) e he
      · cases he

end Java

/-! ### C and C++ -/

namespace CFamily

theorem isPlaced_membersUnder (hp : p ∈ d.nodes) (access : Visibility) {l : List Node}
    (hl : ∀ m ∈ l, m ∈ p.namedChildren) : ∀ e ∈ membersUnder d access l, e.IsPlaced d := by
  induction l generalizing access with
  | nil => exact fun _ h => absurd h List.not_mem_nil
  | cons m rest ih =>
    have hrest : ∀ m ∈ rest, m ∈ p.namedChildren := fun m' hm' => hl m' (List.mem_cons_of_mem m hm')
    have hm := Node.mem_children_of_mem_namedChildren (hl m List.mem_cons_self)
    intro e he
    rw [membersUnder] at he
    split at he
    · exact ih _ hrest e he
    · rcases List.mem_append.mp he with he | he
      · obtain ⟨kind, -, rfl⟩ := List.mem_map.mp he
        exact isPlaced_of hp hm _ _ _
      · exact ih access hrest e he

theorem isFound_declare (hp : p ∈ d.nodes) (houter : outer ∈ p.children) (hnode : node ∈ d.nodes)
    (withMembers : Bool) : ∀ r ∈ declare d withMembers node outer, IsFound d r := by
  intro r hr
  unfold declare at hr
  split at hr
  · obtain ⟨body, hbody, rfl⟩ := List.mem_map.mp hr
    exact mem_nodes_of_inField? hnode (Option.mem_toList.mp hbody)
  · obtain ⟨standing, -, hr⟩ := List.mem_flatMap.mp hr
    dsimp only at hr
    rcases List.mem_cons.mp hr with rfl | hr
    · exact isPlaced_of hp houter _ _ _
    · split at hr
      · obtain ⟨e, he, rfl⟩ := List.mem_map.mp hr
        obtain ⟨body, hbody, he⟩ := List.mem_flatMap.mp he
        exact isPlaced_membersUnder (mem_nodes_of_inField? hnode (Option.mem_toList.mp hbody)) _
          (fun _ hm => hm) e he
      · cases hr

theorem isPlaced_of_mem (withMembers : Bool) : ∀ e ∈ declarations withMembers d, e.IsPlaced d := by
  refine isPlaced_of_mem_expand (fun _ n hn r hr => ?_) () d.root_mem_nodes
  obtain ⟨child, hchild, hr⟩ := List.mem_flatMap.mp hr
  split at hr
  · obtain rfl := List.mem_singleton.mp hr
    exact mem_nodes_of_namedChildren hn hchild
  · obtain ⟨node, hnode, hr⟩ := List.mem_flatMap.mp hr
    have hwrapped := isWrapped_of_unwrap? hn hchild (Option.mem_toList.mp hnode)
    exact isFound_declare hn hwrapped.outer_mem hwrapped.node_mem withMembers r hr

end CFamily

end Profile

/-- What the profile of a language declares stands where it was found. -/
theorem Language.isPlaced_of_mem {d : Document} (l : Language) :
    ∀ e ∈ l.profile.declarations d, e.IsPlaced d := by
  cases l with
  | python => exact Profile.Python.isPlaced_of_mem
  | typescript | tsx | javascript => exact Profile.Ecma.isPlaced_of_mem
  | rust => exact Profile.Rust.isPlaced_of_mem
  | go => exact Profile.Go.isPlaced_of_mem
  | java => exact Profile.Java.isPlaced_of_mem
  | c => exact Profile.CFamily.isPlaced_of_mem false
  | cpp => exact Profile.CFamily.isPlaced_of_mem true

theorem Language.within_root {d : Document} (hd : d.IsWellFormed) (l : Language) :
    Within d d.root (l.profile.declarations d) :=
  ⟨l.isBelow_root hd.isOrdered, fun e he => (l.isPlaced_of_mem e he).isSolid hd⟩

end Abridge
