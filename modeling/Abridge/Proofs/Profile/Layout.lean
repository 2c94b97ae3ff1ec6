import Abridge.Profile.Table
import Abridge.Proofs.Declaration.Laminar

/-!
What every profile declares lies apart or inside one another.

Each profile goes from a node to its named children and says what is declared at each of them, so
that one case for each rule of a profile is enough. A declaration may stand in a wrapper
(`IsWrapped`); its members are found in its body, behind its head.
-/
namespace Abridge

/-! ### Kinds that attach to nothing -/

namespace Attachments
variable {a : Attachments} {kind : String}

theorem passes_of_beq {k : String} (hk : a.passes k = true) (h : (kind == k) = true) :
    a.passes kind = true :=
  eq_of_beq h ▸ hk

theorem passes_of_mem (kinds : List String) (hall : kinds.all a.passes = true)
    (h : kind ∈ kinds) : a.passes kind = true :=
  List.all_eq_true.mp hall kind h

end Attachments

namespace Node
variable {n c : Node}

theorem mem_children_of_mem_namedChildren (h : c ∈ n.namedChildren) : c ∈ n.children :=
  (List.mem_filter.mp h).1

theorem isBodyOf_of_inField? (h : n.inField? "body" = some c) : c.isBodyOf n = true := by
  have hfield := List.find?_some h
  simp only [isBodyOf, hfield, Bool.true_or]

end Node

/-! ### Wrappers, bodies and members -/

/-- Whether a node is a child of a node of the document, or stands in one that attaches to
nothing. -/
structure IsWrapped (d : Document) (a : Attachments) (container node outer : Node) : Prop where
  container_mem : container ∈ d.nodes
  outer_mem : outer ∈ container.children
  wraps : node = outer ∨ node ∈ outer.children ∧ a.passes outer.kind = true

section
variable {d : Document} {a : Attachments} {container n c node outer : Node}

theorem IsWrapped.self (hc : container ∈ d.nodes) (hn : n ∈ container.namedChildren) :
    IsWrapped d a container n n :=
  ⟨hc, Node.mem_children_of_mem_namedChildren hn, .inl rfl⟩

theorem IsWrapped.node_mem (h : IsWrapped d a container node outer) : node ∈ d.nodes := by
  have houter := Document.mem_nodes_of_mem_children h.container_mem h.outer_mem
  rcases h.wraps with rfl | ⟨hnode, -⟩
  · exact houter
  · exact Document.mem_nodes_of_mem_children houter hnode

variable (hd : d.IsOrdered)
include hd

/-- A declaration with what lies inside it is a group. -/
theorem IsWrapped.isGroup (h : IsWrapped d a container node outer)
    (hpasses : a.passes node.kind = true) {ds : List Declaration} (hds : Inside d node ds)
    (standing : Standing) : IsGroup d a outer (.of d a node outer standing :: ds) := by
  rcases h.wraps with rfl | ⟨hnode, houter⟩
  · exact IsGroup.of_declaration hd h.container_mem h.outer_mem
      (Attachments.admits_of_passes hpasses) (.inl rfl) hds standing
  · exact IsGroup.of_declaration hd h.container_mem h.outer_mem
      (Attachments.admits_of_passes houter) (.inr hnode) hds standing

theorem IsWrapped.isGroup_of_isBelow (h : IsWrapped d a container node outer)
    (hpasses : a.passes node.kind = true) {ds : List Declaration} (hds : IsBelow d node ds) :
    IsGroup d a outer ds := by
  rcases h.wraps with rfl | ⟨hnode, houter⟩
  · exact IsGroup.of_isBelow hd h.container_mem h.outer_mem
      (Attachments.admits_of_passes hpasses) hds
  · have hmem := Document.mem_nodes_of_mem_children h.container_mem h.outer_mem
    exact IsGroup.of_isBelow hd h.container_mem h.outer_mem
      (Attachments.admits_of_passes houter) (hds.lift hd hmem hnode)

/-- What lies below the body of a node, if it has one, lies inside the node. -/
theorem Inside.of_bodies (hn : n ∈ d.nodes) {f : Node → List Declaration}
    (h : ∀ body ∈ d.nodes, IsBelow d body (f body)) :
    Inside d n ((n.inField? "body").toList.flatMap f) := by
  cases hbody : n.inField? "body" with
  | none => exact .nil n
  | some body =>
    have hmem := Node.mem_children_of_inField? hbody
    rw [Option.toList_some, List.flatMap_singleton]
    exact Inside.of_body hd hn hmem (Node.isBodyOf_of_inField? hbody)
      (h body (Document.mem_nodes_of_mem_children hn hmem))

/-- Children that are each a declaration of their own lie below their parent. -/
theorem IsBelow.filterMap_of (ha : a.SparesSeparators) (hn : n ∈ d.nodes) {l : List Node}
    (hl : l.Sublist n.namedChildren) {f : Node → Option Declaration}
    (h : ∀ m ∈ l, ∀ e, f m = some e →
      a.passes m.kind = true ∧ ∃ standing, e = .of d a m m standing) :
    IsBelow d n (l.filterMap f) := by
  rw [List.filterMap_eq_flatMap_toList]
  refine IsBelow.flatMap hd hn ha hl fun m hm => ?_
  cases hf : f m with
  | none => exact .nil _ _
  | some e =>
    obtain ⟨hpasses, standing, rfl⟩ := h m hm e hf
    exact (IsWrapped.self hn (hl.subset hm)).isGroup hd hpasses (.nil m) standing

end

namespace Profile
variable {d : Document} (hd : d.IsOrdered)

/-! ### Python -/

namespace Python

theorem attachments_spare : attachments.SparesSeparators := by
  decide

variable {go : Bool → Node → List Declaration} {inClass : Bool} {container node outer : Node}
include hd

theorem isGroup_declare (h : IsWrapped d attachments container node outer)
    (hgo : ∀ next, ∀ m ∈ d.nodes, IsBelow d m (go next m)) :
    IsGroup d attachments outer ((declare d inClass node outer).flatMap (Node.resume go)) := by
  have halone : ∀ standing, attachments.passes node.kind = true →
      IsGroup d attachments outer [.of d attachments node outer standing] :=
    fun standing hpasses => h.isGroup hd hpasses (.nil node) standing
  unfold declare
  split
  next hkind =>
    cases node.inField? "name" with
    | none => exact .nil _ _
    | some name => exact halone _ (Attachments.passes_of_beq (by decide) hkind)
  · split
    next hkind =>
      cases node.inField? "name" with
      | none => exact .nil _ _
      | some name =>
        have hinside := Inside.of_bodies hd h.node_mem (hgo true)
        have hgroup := fun standing =>
          h.isGroup hd (Attachments.passes_of_beq (by decide) hkind) hinside standing
        simpa [Node.resume, List.flatMap_map] using hgroup _
    · split
      next hkind =>
        rw [← Option.toList_filter]
        cases (assignedName? d node).filter (· != "__all__".toList) with
        | none => exact .nil _ _
        | some name => exact halone _ (Attachments.passes_of_beq (by decide) hkind)
      · split
        next himport =>
          have hkind := List.contains_iff_mem.mp (Bool.and_eq_true_iff.mp himport).1
          exact halone _ (Attachments.passes_of_mem importKinds (by decide) hkind)
        · exact .nil _ _

theorem isBelow_root : IsBelow d d.root (declarations d) := by
  refine Node.expand_induct (Q := (· ∈ d.nodes)) IsBelow.nil (fun inClass n go hn hgo => ?_) false
    d.root d.root_mem_nodes
  rw [step, List.flatMap_assoc]
  refine IsBelow.flatMap hd hn attachments_spare (List.Sublist.refl _) fun child hchild => ?_
  split
  next hdecorated =>
    cases hnode : child.inField? "definition" with
    | none => exact .nil _ _
    | some node =>
      rw [Option.toList_some, List.flatMap_singleton]
      exact isGroup_declare hd ⟨hn, Node.mem_children_of_mem_namedChildren hchild,
        .inr ⟨Node.mem_children_of_inField? hnode,
          Attachments.passes_of_beq (by decide) hdecorated⟩⟩ hgo
  · exact isGroup_declare hd (.self hn hchild) hgo

end Python

/-! ### TypeScript and JavaScript -/

namespace Ecma

theorem attachments_spare : attachments.SparesSeparators := by
  decide

theorem passes_of_kindOf? {k : String} {kind : DeclarationKind} (h : kindOf? k = some kind) :
    attachments.passes k = true := by
  refine Attachments.passes_of_mem ["function_declaration", "generator_function_declaration",
    "function_signature", "class_declaration", "abstract_class_declaration", "class",
    "interface_declaration", "type_alias_declaration", "enum_declaration", "internal_module",
    "module", "lexical_declaration", "variable_declaration"] (by decide) ?_
  by_contra hk
  simp_all [kindOf?]

theorem passes_of_memberKindOf? {k : String} {kind : DeclarationKind}
    (h : memberKindOf? k = some kind) : attachments.passes k = true := by
  refine Attachments.passes_of_mem ["method_definition", "method_signature",
    "abstract_method_signature", "public_field_definition", "field_definition"] (by decide) ?_
  by_contra hk
  simp_all [memberKindOf?]

theorem mem_children_of_declared? {statement node : Node} (h : declared? statement = some node) :
    node ∈ statement.children := by
  rcases Option.or_eq_some_iff.mp h with h | ⟨-, h⟩
  · exact Node.mem_children_of_inField? h
  · exact Node.mem_children_of_mem_namedChildren (List.mem_of_find?_eq_some h)

variable {container node outer : Node}
include hd

theorem isBelow_members {body : Node} (hbody : body ∈ d.nodes) :
    IsBelow d body (members d body) := by
  refine IsBelow.filterMap_of hd attachments_spare hbody (List.Sublist.refl _) fun m _ e he => ?_
  obtain ⟨kind, hkind, rfl⟩ := Option.map_eq_some_iff.mp he
  exact ⟨passes_of_memberKindOf? hkind, _, rfl⟩

theorem isGroup_declare (h : IsWrapped d attachments container node outer) (exported : Bool) :
    IsGroup d attachments outer (declare d node outer exported) := by
  unfold declare
  split
  · exact .nil _ _
  next kind hkind =>
    refine h.isGroup hd (passes_of_kindOf? hkind) ?_ _
    split
    · exact Inside.of_bodies hd h.node_mem fun body hbody => isBelow_members hd hbody
    · exact .nil node

theorem isGroup_declared (hcontainer : container ∈ d.nodes) {statement : Node}
    (hstatement : statement ∈ container.namedChildren)
    (hpasses : attachments.passes statement.kind = true) (exported : Node → Bool) :
    IsGroup d attachments statement
      ((declared? statement).toList.flatMap fun node =>
        declare d node statement (exported node)) := by
  cases hnode : declared? statement with
  | none => exact .nil _ _
  | some node =>
    rw [Option.toList_some, List.flatMap_singleton]
    exact isGroup_declare hd ⟨hcontainer, Node.mem_children_of_mem_namedChildren hstatement,
      .inr ⟨mem_children_of_declared? hnode, hpasses⟩⟩ _

theorem isBelow_root : IsBelow d d.root (declarations d) := by
  have hroot := d.root_mem_nodes
  refine IsBelow.flatMap hd hroot attachments_spare (List.Sublist.refl _)
    fun statement hmem => ?_
  unfold declareStatement
  dsimp only
  split
  next hkind =>
    exact (IsWrapped.self hroot hmem).isGroup hd (Attachments.passes_of_beq (by decide) hkind)
      (.nil statement) _
  · split
    next hkind =>
      exact isGroup_declared hd hroot hmem (Attachments.passes_of_beq (by decide) hkind) _
    · split
      next hkind =>
        exact isGroup_declared hd hroot hmem (Attachments.passes_of_beq (by decide) hkind) _
      · exact isGroup_declare hd (.self hroot hmem) _

end Ecma

/-! ### Rust -/

namespace Rust

theorem attachments_spare : attachments.SparesSeparators := by
  decide

theorem passes_of_kindOf? {k : String} {kind : DeclarationKind} (h : kindOf? k = some kind) :
    attachments.passes k = true := by
  refine Attachments.passes_of_mem ["function_item", "function_signature_item", "struct_item",
    "union_item", "enum_item", "trait_item", "type_item", "mod_item", "const_item", "static_item",
    "macro_definition", "use_declaration", "extern_crate_declaration"] (by decide) ?_
  by_contra hk
  simp_all [kindOf?]

theorem passes_of_memberKindOf? {k : String} {kind : DeclarationKind}
    (h : memberKindOf? k = some kind) : attachments.passes k = true := by
  refine Attachments.passes_of_mem ["function_item", "function_signature_item", "const_item",
    "type_item"] (by decide) ?_
  by_contra hk
  simp_all [memberKindOf?]

variable {container item : Node}
include hd

theorem inside_implMembers (hitem : item ∈ d.nodes) : Inside d item (implMembers d item) := by
  refine Inside.of_bodies hd hitem fun body hbody => ?_
  refine IsBelow.filterMap_of hd attachments_spare hbody (List.Sublist.refl _) fun m _ e he => ?_
  obtain ⟨kind, hkind, rfl⟩ := Option.map_eq_some_iff.mp he
  exact ⟨passes_of_memberKindOf? hkind, _, rfl⟩

theorem inside_fields (hitem : item ∈ d.nodes) : Inside d item (fields d item) := by
  rw [fields, ← Option.toList_filter]
  cases hbody : (item.inField? "body").filter (·.kind == "field_declaration_list") with
  | none => exact .nil item
  | some body =>
    have hfield := (Option.filter_eq_some_iff.mp hbody).1
    have hmem := Node.mem_children_of_inField? hfield
    have hnode := Document.mem_nodes_of_mem_children hitem hmem
    rw [Option.toList_some, List.flatMap_singleton, ← List.filterMap_eq_map]
    refine Inside.of_body hd hitem hmem (Node.isBodyOf_of_inField? hfield) ?_
    refine IsBelow.filterMap_of hd attachments_spare hnode List.filter_sublist fun m hm e he => ?_
    exact ⟨Attachments.passes_of_beq (by decide) (List.mem_filter.mp hm).2, _,
      (Option.some.inj he).symm⟩

theorem isGroup_declare {go : Unit → Node → List Declaration} (hcontainer : container ∈ d.nodes)
    (hitem : item ∈ container.namedChildren)
    (hgo : ∀ next, ∀ m ∈ d.nodes, IsBelow d m (go next m)) :
    IsGroup d attachments item ((declare d item).flatMap (Node.resume go)) := by
  have hself : IsWrapped d attachments container item item := .self hcontainer hitem
  unfold declare
  split
  next hkind =>
    rw [Node.flatMap_resume_map_inl]
    exact hself.isGroup_of_isBelow hd (Attachments.passes_of_beq (by decide) hkind)
      (inside_implMembers hd hself.node_mem).toIsBelow
  · split
    · exact .nil _ _
    next kind hkind =>
      rw [Node.flatMap_resume_cons_inl]
      refine hself.isGroup hd (passes_of_kindOf? hkind) ?_ _
      split
      · rw [Node.flatMap_resume_map_inl]
        exact inside_fields hd hself.node_mem
      · split
        · rw [List.flatMap_map]
          exact Inside.of_bodies hd hself.node_mem (hgo ())
        · exact .nil item

theorem isBelow_root : IsBelow d d.root (declarations d) := by
  refine Node.expand_induct (Q := (· ∈ d.nodes)) IsBelow.nil (fun state n go hn hgo => ?_) ()
    d.root d.root_mem_nodes
  rw [List.flatMap_assoc]
  exact IsBelow.flatMap hd hn attachments_spare (List.Sublist.refl _)
    fun item hitem => isGroup_declare hd hn hitem hgo

end Rust

/-! ### Go -/

namespace Go

theorem attachments_spare : attachments.SparesSeparators := by
  decide

theorem passes_of_standing? {n : Node} {s : Standing} (h : standing? d n = some s) :
    attachments.passes n.kind = true := by
  refine Attachments.passes_of_mem ["function_declaration", "method_declaration",
    "type_declaration", "var_declaration", "const_declaration", "import_declaration"]
    (by decide) ?_
  by_contra hk
  simp_all [standing?]

variable {n : Node}
include hd

/-- The fields of a struct lie inside it, and so inside the specification that defines it. -/
theorem inside_fields (hn : n ∈ d.nodes) : Inside d n (fields d n) := by
  refine Inside.flatMap hd hn fun spec hspec => ?_
  have hspec' := Node.mem_children_of_mem_namedChildren hspec
  have hspecNode := Document.mem_nodes_of_mem_children hn hspec'
  rw [← Option.toList_filter]
  cases htype : (spec.inField? "type").filter (·.kind == "struct_type") with
  | none => exact .nil spec
  | some struct =>
    obtain ⟨hfield, hstructKind⟩ := Option.filter_eq_some_iff.mp htype
    have hstruct := Node.mem_children_of_inField? hfield
    have hstructNode := Document.mem_nodes_of_mem_children hspecNode hstruct
    rw [Option.toList_some, List.flatMap_singleton]
    refine Inside.lift hd hspecNode hstruct ?_
    cases hlist : struct.namedChildren.find? (·.kind == "field_declaration_list") with
    | none => exact .nil struct
    | some list =>
      have hmem := Node.mem_children_of_mem_namedChildren (List.mem_of_find?_eq_some hlist)
      have hkind := List.find?_some hlist
      have hbody : list.isBodyOf struct = true :=
        Bool.or_eq_true_iff.mpr (.inr (Bool.and_eq_true_iff.mpr ⟨hstructKind, hkind⟩))
      rw [Option.toList_some, List.flatMap_singleton, ← List.filterMap_eq_map]
      refine Inside.of_body hd hstructNode hmem hbody ?_
      refine IsBelow.filterMap_of hd attachments_spare
        (Document.mem_nodes_of_mem_children hstructNode hmem) List.filter_sublist
        fun m hm e he => ?_
      exact ⟨Attachments.passes_of_beq (by decide) (List.mem_filter.mp hm).2, _,
        (Option.some.inj he).symm⟩

theorem isBelow_root : IsBelow d d.root (declarations d) := by
  have hroot := d.root_mem_nodes
  refine IsBelow.flatMap hd hroot attachments_spare (List.Sublist.refl _) fun n hn => ?_
  have hself : IsWrapped d attachments d.root n n := .self hroot hn
  unfold declare
  cases hstanding : standing? d n with
  | none => exact .nil _ _
  | some standing =>
    rw [Option.toList_some, List.flatMap_singleton]
    refine hself.isGroup hd (passes_of_standing? hstanding) ?_ _
    split
    · exact inside_fields hd hself.node_mem
    · exact .nil n

end Go

/-! ### Java -/

namespace Java

theorem attachments_spare : Attachments.SparesSeparators {} := by
  decide

theorem passes_of_typeKindOf? {k : String} {kind : DeclarationKind}
    (h : typeKindOf? k = some kind) : Attachments.passes {} k = true := by
  refine Attachments.passes_of_mem ["class_declaration", "record_declaration", "enum_declaration",
    "interface_declaration", "annotation_type_declaration"] (by decide) ?_
  by_contra hk
  simp_all [typeKindOf?]

theorem passes_of_memberKindOf? {k : String} {kind : DeclarationKind}
    (h : memberKindOf? k = some kind) : Attachments.passes {} k = true := by
  unfold memberKindOf? at h
  split at h
  next hk => exact Attachments.passes_of_mem _ (by decide) (List.contains_iff_mem.mp hk)
  · split at h
    next hk =>
      exact (Bool.or_eq_true_iff.mp hk).elim (Attachments.passes_of_beq (by decide))
        (Attachments.passes_of_beq (by decide))
    · exact passes_of_typeKindOf? h

variable {go : Unit → Node → List Declaration} {owner : Node}
include hd

theorem isBelow_declareMember {container : Node} (hcontainer : container ∈ d.nodes)
    (hgo : ∀ next, ∀ m ∈ d.nodes, Inside d m (go next m)) (otherwise : Visibility) :
    IsBelow d container ((container.namedChildren.flatMap (declareMember d otherwise)).flatMap
      (Node.resume go)) := by
  rw [List.flatMap_assoc]
  refine IsBelow.flatMap hd hcontainer attachments_spare (List.Sublist.refl _)
    fun m hm => ?_
  have hself : IsWrapped d {} container m m := .self hcontainer hm
  unfold declareMember
  cases hkind : memberKindOf? m.kind with
  | none => exact .nil _ _
  | some kind =>
    rw [Option.toList_some, List.flatMap_singleton]
    dsimp only
    rw [Node.flatMap_resume_cons_inl]
    refine hself.isGroup hd (passes_of_memberKindOf? hkind) ?_ _
    split
    · simpa [Node.resume] using hgo () m hself.node_mem
    · exact .nil m

/-- The members of a type lie inside it; those of an enum stand one level deeper in its body. -/
theorem inside_members (howner : owner ∈ d.nodes) :
    Inside d owner (owner.expand (memberStep d) ()) := by
  refine Node.expand_induct (Q := (· ∈ d.nodes)) Inside.nil (fun state n go hn hgo => ?_) ()
    owner howner
  rw [memberStep, List.flatMap_assoc]
  refine Inside.of_bodies hd hn fun body hbody => ?_
  unfold membersIn
  cases hinner : body.namedChildren.find? (·.kind == "enum_body_declarations") with
  | none => exact isBelow_declareMember hd hbody hgo _
  | some inner =>
    have hmem := Node.mem_children_of_mem_namedChildren (List.mem_of_find?_eq_some hinner)
    exact (isBelow_declareMember hd (Document.mem_nodes_of_mem_children hbody hmem) hgo _).lift
      hd hbody hmem

theorem isBelow_root : IsBelow d d.root (declarations d) := by
  have hroot := d.root_mem_nodes
  refine IsBelow.flatMap hd hroot attachments_spare (List.Sublist.refl _) fun n hn => ?_
  have hself : IsWrapped d {} d.root n n := .self hroot hn
  unfold declare
  split
  next hkind =>
    exact hself.isGroup hd (Attachments.passes_of_beq (by decide) hkind) (.nil n) _
  · cases hkind : typeKindOf? n.kind with
    | none => exact .nil _ _
    | some kind =>
      rw [Option.toList_some, List.flatMap_singleton]
      refine hself.isGroup hd (passes_of_typeKindOf? hkind) ?_ _
      split
      · exact inside_members hd hself.node_mem
      · exact .nil n

end Java

/-! ### C and C++ -/

namespace CFamily

theorem attachments_spare : attachments.SparesSeparators := by
  decide

theorem passes_of_standing? {n : Node} {s : Standing} (h : standing? d n = some s) :
    attachments.passes n.kind = true := by
  refine Attachments.passes_of_mem ["preproc_include", "function_definition", "declaration",
    "type_definition", "alias_declaration", "namespace_definition", "class_specifier",
    "struct_specifier", "union_specifier", "enum_specifier"] (by decide) ?_
  by_contra hk
  simp_all [standing?, typeKind?]

theorem passes_of_memberKind? {n : Node} {kind : DeclarationKind} (h : memberKind? n = some kind) :
    attachments.passes n.kind = true := by
  refine Attachments.passes_of_mem ["function_definition", "field_declaration", "declaration"]
    (by decide) ?_
  by_contra hk
  simp_all [memberKind?]

/-- What a template wraps is one of its children. -/
theorem isWrapped_of_unwrap? {container outer node : Node} (hc : container ∈ d.nodes)
    (houter : outer ∈ container.namedChildren) (h : unwrap? outer = some node) :
    IsWrapped d attachments container node outer := by
  unfold unwrap? at h
  split at h
  next hkind =>
    have hmem := Node.mem_children_of_mem_namedChildren (List.mem_of_getLast? h)
    exact ⟨hc, Node.mem_children_of_mem_namedChildren houter,
      .inr ⟨hmem, Attachments.passes_of_beq (by decide) hkind⟩⟩
  · obtain rfl := Option.some.inj h
    exact .self hc houter

variable {go : Unit → Node → List Declaration} {container : Node}
include hd

/-- The members of a class are groups at the children of its body, whatever the access. -/
theorem exists_groups_membersUnder (hcontainer : container ∈ d.nodes) (access : Visibility)
    {l : List Node} (hl : ∀ m ∈ l, m ∈ container.namedChildren) :
    ∃ groups, List.Forall₂ (IsGroup d attachments) l groups ∧
      membersUnder d access l = groups.flatten := by
  induction l generalizing access with
  | nil => exact ⟨[], .nil, rfl⟩
  | cons m rest ih =>
    have hrest : ∀ m ∈ rest, m ∈ container.namedChildren :=
      fun m' hm' => hl m' (List.mem_cons_of_mem m hm')
    rw [membersUnder]
    split
    · obtain ⟨groups, hgroups, heq⟩ := ih (accessOf (d.textOf m)) hrest
      exact ⟨[] :: groups, .cons (.nil _ _) hgroups, heq⟩
    · obtain ⟨groups, hgroups, heq⟩ := ih access hrest
      have hwrapped : IsWrapped d attachments container ((unwrap? m).getD m) m := by
        cases hnode : unwrap? m with
        | none => exact .self hcontainer (hl m List.mem_cons_self)
        | some node => exact isWrapped_of_unwrap? hcontainer (hl m List.mem_cons_self) hnode
      dsimp only
      refine ⟨_ :: groups, .cons ?_ hgroups, by rw [heq, List.flatten_cons]⟩
      cases hkind : memberKind? ((unwrap? m).getD m) with
      | none => exact .nil _ _
      | some kind => exact hwrapped.isGroup hd (passes_of_memberKind? hkind) (.nil _) _

theorem inside_members {owner : Node} (howner : owner ∈ d.nodes) :
    Inside d owner (members d owner) := by
  refine Inside.of_bodies hd howner fun body hbody => ?_
  obtain ⟨groups, hgroups, heq⟩ := exists_groups_membersUnder hd hbody
    (if owner.kind == "class_specifier" then .priv else .pub) fun m hm => hm
  rw [heq]
  exact IsBelow.of_groups hd hbody attachments_spare (List.Sublist.refl _) hgroups

theorem isGroup_declare {node outer : Node} {withMembers : Bool}
    (h : IsWrapped d attachments container node outer)
    (hgo : ∀ next, ∀ m ∈ d.nodes, IsBelow d m (go next m)) :
    IsGroup d attachments outer ((declare d withMembers node outer).flatMap (Node.resume go)) := by
  unfold declare
  split
  next hscope =>
    have hkind := (Bool.and_eq_true_iff.mp hscope).1
    rw [List.flatMap_map]
    exact h.isGroup_of_isBelow hd (Attachments.passes_of_beq (by decide) hkind)
      (Inside.of_bodies hd h.node_mem (hgo ())).toIsBelow
  · cases hstanding : standing? d node with
    | none => exact .nil _ _
    | some standing =>
      rw [Option.toList_some, List.flatMap_singleton]
      dsimp only
      rw [Node.flatMap_resume_cons_inl]
      refine h.isGroup hd (passes_of_standing? hstanding) ?_ _
      split
      · rw [Node.flatMap_resume_map_inl]
        exact inside_members hd h.node_mem
      · exact .nil node

theorem isBelow_root (withMembers : Bool) : IsBelow d d.root (declarations withMembers d) := by
  refine Node.expand_induct (Q := (· ∈ d.nodes)) IsBelow.nil (fun state n go hn hgo => ?_) ()
    d.root d.root_mem_nodes
  rw [step, List.flatMap_assoc]
  refine IsBelow.flatMap hd hn attachments_spare (List.Sublist.refl _)
    fun child hchild => ?_
  split
  next htransparent =>
    have hself : IsWrapped d attachments n child child := .self hn hchild
    have hkind : attachments.passes child.kind = true :=
      Attachments.passes_of_mem transparentKinds (by decide) (List.contains_iff_mem.mp htransparent)
    simpa [Node.resume] using
      hself.isGroup_of_isBelow hd hkind (hgo () child hself.node_mem)
  · cases hnode : unwrap? child with
    | none => exact .nil _ _
    | some node =>
      rw [Option.toList_some, List.flatMap_singleton]
      exact isGroup_declare hd (isWrapped_of_unwrap? hn hchild hnode) hgo

end CFamily

end Profile

/-- What the profile of a language declares lies apart or inside one another. -/
theorem Language.isBelow_root {d : Document} (hd : d.IsOrdered) (l : Language) :
    IsBelow d d.root (l.profile.declarations d) := by
  cases l with
  | python => exact Profile.Python.isBelow_root hd
  | typescript | tsx | javascript => exact Profile.Ecma.isBelow_root hd
  | rust => exact Profile.Rust.isBelow_root hd
  | go => exact Profile.Go.isBelow_root hd
  | java => exact Profile.Java.isBelow_root hd
  | c => exact Profile.CFamily.isBelow_root hd false
  | cpp => exact Profile.CFamily.isBelow_root hd true

end Abridge
