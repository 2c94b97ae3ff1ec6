import Abridge.Proofs.Config.Written

/-!
Overrides as updates of a configuration.

What an override leads to depends on what it says of each field alone (`merged_object_iff`). So it
leads from there to itself, it leaves the fields alone that it does not name, and names of no field
change nothing (`Config.overrides_update_what_they_name`).
-/
namespace Abridge

open Format (Schema Absorbs)
open Json (valuesAt deepMerge mergeMembers)

/-! ### The comment section -/

namespace CommentConfig

/-- The comment section as overrides find it. -/
def encodeDetailed (c : CommentConfig) : Json :=
  c.options.encode

/-- Objects laid over the section in detail leave it in detail. -/
theorem decode_foldl_eq_ok_iff {overlays : List Json}
    (hobjects : ∀ o ∈ overlays, o.isObject = true) (o : CommentOptions) {c : CommentConfig} :
    CommentConfig.format.decode (overlays.foldl deepMerge o.encode) = .ok c ↔
      ∃ o', CommentOptions.format.decode (overlays.foldl deepMerge o.encode) = .ok o' ∧
        c = .detailed o' := by
  -- The members of the section stay, so that what is merged is never read as a bare policy.
  rw [CommentOptions.encode, Json.foldl_deepMerge_object hobjects]
  exact decode_object_eq_ok_iff (le_trans (by simp) (Json.length_le_mergeMembers _ _))

theorem absorbs : Absorbs CommentConfig.format encodeDetailed := by
  intro overlays a b hb
  by_cases hobjects : ∀ o ∈ overlays, o.isObject = true
  · obtain ⟨o, ho, rfl⟩ := (decode_foldl_eq_ok_iff hobjects a.options).mp hb
    have hsame := CommentOptions.isPlain.absorbs overlays a.options o ho
    exact (decode_foldl_eq_ok_iff hobjects o).mpr ⟨o, hsame, rfl⟩
  · rwa [Json.foldl_deepMerge_eq hobjects _ a.encodeDetailed]

/-- What is no option in an object laid over the section does not matter. -/
theorem decode_known_eq_ok_iff (overlay : Json) (a b : CommentConfig) :
    CommentConfig.format.decode (a.encodeDetailed.deepMerge
        (CommentOptions.schema.known overlay)) = .ok b ↔
      CommentConfig.format.decode (a.encodeDetailed.deepMerge overlay) = .ok b := by
  cases overlay with
  | object fields =>
    have hone : ∀ fields, ∀ o ∈ [Json.object fields], o.isObject = true := by simp [Json.isObject]
    refine (decode_foldl_eq_ok_iff (hone _) a.options).trans
      (Iff.trans ?_ (decode_foldl_eq_ok_iff (hone fields) a.options).symm)
    exact exists_congr fun o => and_congr_left fun _ =>
      CommentOptions.schema.decode_known_eq_ok_iff (.object fields) a.options o
  | _ => rfl

end CommentConfig

namespace Config

/-! ### Sections and their fields -/

/-- The fields of a configuration as overrides find them. -/
def detailedSchema : Schema Config.format :=
  schema CommentConfig.encodeDetailed

/-- A section of a configuration: its name in an override, and its fields. -/
structure Section where
  name : String
  {type : Type}
  {format : Format type}
  schema : Schema format
  isPlain : schema.IsPlain
  get : Config → type

def sections : List Section := [
  ⟨"budget", BudgetConfig.schema, BudgetConfig.isPlain, (·.budget)⟩,
  ⟨"comments", CommentOptions.schema, CommentOptions.isPlain, (·.comments.options)⟩,
  ⟨"function_bodies", BodyConfig.schema, BodyConfig.isPlain, (·.functionBodies)⟩,
  ⟨"imports", ImportConfig.schema, ImportConfig.isPlain, (·.imports)⟩,
  ⟨"literals", LiteralConfig.schema, LiteralConfig.isPlain, (·.literals)⟩]

/-- Whether an override leaves a field of a section alone: it has nothing for the section, or an
object without the field. -/
def LeavesAlone (o : Json) (place field : String) : Prop :=
  ∀ value, (place, value) ∈ o.members →
    value.isObject = true ∧ field ∉ value.members.map Prod.fst

/-- The value that an override has under a name, without what is no field of that section. -/
def knownAt (name : String) (value : Json) : Json :=
  match sections.find? (·.name == name) with
  | some s => s.schema.known value
  | none => value

/-- An override without the names of no field, at its top and in the objects for its sections. -/
def known : Json → Json
  | .object ms =>
    .object ((ms.filter fun m => detailedSchema.has m.1).map fun m => (m.1, knownAt m.1 m.2))
  | o => o

variable {c d : Config} {ms : List (String × Json)}

/-- What an override leads to, field by field. -/
theorem merged_object_iff :
    c.merged (.object ms) = .ok d ↔
      (∀ e ∈ detailedSchema.entries,
        e.format.decode ((valuesAt e.name ms).foldl deepMerge (e.written c)) = .ok (e.get d)) ∧
        d.IsReadable := by
  rw [merged_object_eq_ok_iff, ← detailedSchema.decode_eq_ok_iff]
  exact and_congr_left fun _ => Eq.congr_left
    (congrArg Config.format.decode (Json.deepMerge_object (detailedSchema.members c) ms))

theorem eq_null_or_object_of_merged {o : Json} (h : c.merged o = .ok d) :
    (o = .null ∧ c = d) ∨ ∃ ms, o = .object ms := by
  cases o with
  | null => exact .inl ⟨rfl, Except.ok.inj h⟩
  | object ms => exact .inr ⟨ms, rfl⟩
  | _ => cases h

theorem absorbs : ∀ e ∈ detailedSchema.entries, Absorbs e.format e.write := by
  simp only [detailedSchema, schema, List.forall_mem_cons]
  exact ⟨BudgetConfig.isPlain.absorbs, CommentConfig.absorbs, BodyConfig.isPlain.absorbs,
    ImportConfig.isPlain.absorbs, LiteralConfig.isPlain.absorbs,
    Format.readsBack_boolean.absorbs fun _ => rfl, List.forall_mem_nil _⟩

/-- What objects for a section lead to, in that section. -/
theorem decode_section_of_merged (h : c.merged (.object ms) = .ok d) :
    ∀ s ∈ sections, (∀ v ∈ valuesAt s.name ms, v.isObject = true) →
      s.format.decode ((valuesAt s.name ms).foldl deepMerge (s.schema.write (s.get c))) =
        .ok (s.get d) := by
  have hfields := (merged_object_iff.mp h).1
  simp only [detailedSchema, schema, List.forall_mem_cons] at hfields
  obtain ⟨hbudget, hcomments, hbodies, himports, hliterals, -⟩ := hfields
  simp only [sections, List.forall_mem_cons]
  refine ⟨fun _ => hbudget, fun hobjects => ?_, fun _ => hbodies, fun _ => himports,
    fun _ => hliterals, List.forall_mem_nil _⟩
  obtain ⟨o, ho, heq⟩ := (CommentConfig.decode_foldl_eq_ok_iff hobjects _).mp hcomments
  rw [heq]
  exact ho

/-- A field that an override leaves alone keeps its value. -/
theorem get_eq_of_leavesAlone (h : c.merged (.object ms) = .ok d) {s : Section}
    (hs : s ∈ sections) {e : Format.Entry s.type} (he : e ∈ s.schema.entries)
    (halone : LeavesAlone (.object ms) s.name e.name) : e.get (s.get d) = e.get (s.get c) := by
  have hobjects := fun v hv => (halone v (Json.mem_valuesAt.mp hv)).1
  have hnot := fun v hv => (halone v (Json.mem_valuesAt.mp hv)).2
  exact s.schema.get_eq_of_not_mem he (s.isPlain e he).readsBack hobjects hnot
    (decode_section_of_merged h s hs hobjects)

theorem publicApiOnly_eq_of_not_mem (h : c.merged (.object ms) = .ok d)
    (hnot : "public_api_only" ∉ ms.map Prod.fst) : d.publicApiOnly = c.publicApiOnly := by
  have hfields := (merged_object_iff.mp h).1
  simp only [detailedSchema, schema, List.forall_mem_cons] at hfields
  obtain ⟨-, -, -, -, -, hfield, -⟩ := hfields
  rw [Json.valuesAt_eq_nil hnot] at hfield
  exact (Except.ok.inj hfield).symm

/-! ### Unknown names -/

/-- What is no field in an object for a section does not matter to what is read. -/
theorem decode_knownAt_eq_ok_iff :
    ∀ e ∈ detailedSchema.entries, ∀ (v : Json) (a b : e.type),
      e.format.decode ((e.write a).deepMerge (knownAt e.name v)) = .ok b ↔
        e.format.decode ((e.write a).deepMerge v) = .ok b := by
  simp only [detailedSchema, schema, List.forall_mem_cons]
  exact ⟨BudgetConfig.schema.decode_known_eq_ok_iff, CommentConfig.decode_known_eq_ok_iff,
    BodyConfig.schema.decode_known_eq_ok_iff, ImportConfig.schema.decode_known_eq_ok_iff,
    LiteralConfig.schema.decode_known_eq_ok_iff, fun _ _ _ => Iff.rfl, List.forall_mem_nil _⟩

theorem valuesAt_known {o : Json} {e : Format.Entry Config} (he : e ∈ detailedSchema.entries) :
    valuesAt e.name (known o).members = (valuesAt e.name o.members).map (knownAt e.name) := by
  cases o with
  | object ms =>
    have hhas := detailedSchema.has_iff.mpr ⟨e, he, rfl⟩
    rw [known, Json.members, Json.valuesAt_map, Json.valuesAt_filter hhas]
    rfl
  | _ => rfl

/-- Overrides that agree in all that is known lead to the same. -/
theorem merged_of_known_eq {ms ms' : List (String × Json)} (h : c.merged (.object ms) = .ok d)
    (hnames : (ms.map Prod.fst).Nodup) (hknown : known (.object ms') = known (.object ms)) :
    c.merged (.object ms') = .ok d := by
  obtain ⟨hfields, hreadable⟩ := merged_object_iff.mp h
  refine merged_object_iff.mpr ⟨fun e he => ?_, hreadable⟩
  have hvalues : (valuesAt e.name ms').map (knownAt e.name) =
      (valuesAt e.name ms).map (knownAt e.name) := by
    have hsame := congrArg (fun o : Json => valuesAt e.name o.members) hknown
    rwa [valuesAt_known he, valuesAt_known he] at hsame
  have hfield := hfields e he
  -- With one value at most to lay over a field, leaving out what is unknown commutes with merging.
  have hlength : (valuesAt e.name ms).length ≤ 1 := Json.length_valuesAt_le hnames
  match hms : valuesAt e.name ms, hlength with
  | [], _ =>
    rw [hms, List.map_nil] at hvalues
    rwa [List.map_eq_nil_iff.mp hvalues, ← hms]
  | [v], _ =>
    rw [hms, List.map_singleton] at hvalues
    obtain ⟨v', hms', heq⟩ := List.map_eq_singleton_iff.mp hvalues
    rw [hms] at hfield
    rw [hms']
    exact (decode_knownAt_eq_ok_iff e he v' _ _).mp
      (heq ▸ (decode_knownAt_eq_ok_iff e he v _ _).mpr hfield)
  | _ :: _ :: _, htwo => exact absurd htwo (by simp)

/-- An override that is accepted leads from its result to itself. What it leaves alone is as it was.
And another override that says the same but for unknown names leads to the same result. -/
theorem overrides_update_what_they_name {c d : Config} {o : Json} (h : c.merged o = .ok d) :
    (o.isObject = true → d.merged o = .ok d) ∧
      (∀ s ∈ sections, ∀ e ∈ s.schema.entries, LeavesAlone o s.name e.name →
        e.get (s.get d) = e.get (s.get c)) ∧
      ("public_api_only" ∉ o.members.map Prod.fst → d.publicApiOnly = c.publicApiOnly) ∧
      ((o.members.map Prod.fst).Nodup → ∀ o', known o' = known o → c.merged o' = .ok d) := by
  obtain ⟨rfl, rfl⟩ | ⟨ms, rfl⟩ := eq_null_or_object_of_merged h
  · refine ⟨nofun, fun _ _ _ _ _ => rfl, fun _ => rfl, fun _ o' ho' => ?_⟩
    cases o' with
    | null => rfl
    | _ => cases ho'
  · obtain ⟨hfields, hreadable⟩ := merged_object_iff.mp h
    refine ⟨fun _ => ?_, fun s hs e he => get_eq_of_leavesAlone h hs he, fun hnot => ?_,
      fun hnames o' ho' => ?_⟩
    · exact merged_object_iff.mpr ⟨fun e he => absorbs e he _ _ _ (hfields e he), hreadable⟩
    · exact publicApiOnly_eq_of_not_mem h hnot
    · cases o' with
      | object ms' => exact merged_of_known_eq h hnames ho'
      | _ => cases ho'

/-- Documentation is kept. -/
def documented : Config where
  comments := .bare .keepDoc

/-- Documentation of more than 40 tokens is to be cut, in a tone and at a pace that mean nothing. -/
def cut : Json :=
  .object [
    ("comments", .object [("max_tokens", .ofNat 40), ("tone", .null)]),
    ("pace", .string "slow")]

def documentedCut : Config where
  comments := .detailed { policy := .keepDoc, maxTokens := some 40 }

theorem overrides_update_what_they_name_cut :
    documented.merged cut = .ok documentedCut ∧ documentedCut.merged cut = .ok documentedCut ∧
      documentedCut.comments.options.policy = documented.comments.options.policy ∧
      documented.merged (.object [("comments", .object [("max_tokens", .ofNat 40)])]) =
        .ok documentedCut := by
  have hmerged : documented.merged cut = .ok documentedCut := rfl
  obtain ⟨hagain, halone, -, hknown⟩ := overrides_update_what_they_name hmerged
  have hpolicy : LeavesAlone cut "comments" "policy" := by
    simp [LeavesAlone, cut, Json.members, Json.isObject]
  refine ⟨hmerged, hagain rfl, ?_, hknown (by decide) _ rfl⟩
  exact halone ⟨"comments", CommentOptions.schema, CommentOptions.isPlain, (·.comments.options)⟩
    (.tail _ (.head _)) ⟨"policy", CommentPolicy.format, (·.policy), _, _⟩
    (.tail _ (.tail _ (.head _))) hpolicy

end Config

end Abridge
