import Abridge.Config.Format
import Abridge.Proofs.Json.Merge
import Abridge.Proofs.Reduction.Run

/-!
Records that are written and read, and overlays between the two.

A schema lists the fields of a record with the way each is written. What is laid over a record in
writing is laid over its fields one by one, and no more than that can be read from it
(`Schema.decode_eq_ok_iff`). So the laws of a record follow from those of its fields: that it is
read back (`Schema.readsBack_of_entries`), and that an overlay which has led to a record leads from
there to itself (`Schema.absorbs_of_entries`).
-/
namespace Abridge.Format

open Json (valuesAt deepMerge mergeMembers)

/-! ### Fields in writing -/

/-- A field of a record as it is read and as it is written. -/
structure Entry (σ : Type) where
  {type : Type}
  name : String
  format : Format type
  get : σ → type
  put : type → σ → σ
  write : type → Json

namespace Entry
variable {σ : Type}

def field (e : Entry σ) : Field σ :=
  Format.field e.name e.format e.put

/-- The field of a record in writing. -/
def written (e : Entry σ) (r : σ) : Json :=
  e.write (e.get r)

/-- The record that is built up from a value for each field. -/
def build (entries : List (Entry σ)) (start : σ) (value : ∀ e : Entry σ, e.type) : σ :=
  entries.foldl (fun r e => e.put (value e) r) start

/-- The value of a field that a JSON value stands for, or that of a default. -/
def valueOr (start : σ) (json : Entry σ → Json) (e : Entry σ) : e.type :=
  match e.format.decode (json e) with
  | .ok a => a
  | .error _ => e.get start

end Entry

/-- The fields of a record, each once and in the order of their names. -/
structure Schema {σ : Type} (f : Format σ) where
  entries : List (Entry σ)
  name : String
  fields : List (Field σ)
  start : σ
  format_eq : f = .record name fields start := by rfl
  ascending : (entries.map Entry.name).Pairwise (· < ·) := by
    simp only [List.map_cons, List.map_nil]; decide
  find_eq : ∀ e ∈ entries, fields.find? (·.name == e.name) = some e.field := by
    simp [Abridge.Format.field, Abridge.Format.Entry.field]
  name_mem : ∀ field ∈ fields, ∃ e ∈ entries, e.name = field.name := by
    simp [Abridge.Format.field]
  /-- A record that is built up from values has them. -/
  get_build : ∀ value, ∀ e ∈ entries, e.get (Entry.build entries start value) = value e := by
    simp [Abridge.Format.Entry.build]
  /-- Every record is built up from its values. -/
  build_get : ∀ r, Entry.build entries start (fun e => e.get r) = r := by
    intro r; rfl

/-! ### Fields one by one -/

section
variable {σ : Type} {fields : List (Field σ)}

/-- Members that are no fields are passed over. -/
theorem decodeMembers_filter (seen : List String) (r : σ) (ms : List (String × Json)) :
    decodeMembers fields seen r (ms.filter fun m => (fields.find? (·.name == m.1)).isSome) =
      decodeMembers fields seen r ms := by
  induction ms generalizing seen r with
  | nil => rfl
  | cons m rest ih =>
    obtain ⟨name, json⟩ := m
    cases hfind : fields.find? (·.name == name) with
    | none =>
      rw [List.filter_cons_of_neg (by simp [hfind]), ih, decodeMembers, hfind]
    | some f =>
      rw [List.filter_cons_of_pos (by simp [hfind]), decodeMembers, decodeMembers, hfind]
      simp only [ih]

/-- Fields of different names are set one after the other. -/
theorem decodeMembers_map_eq {entries : List (Entry σ)} {json : Entry σ → Json}
    {seen : List String} (r : σ) (hnames : entries.Pairwise fun e e' => e.name < e'.name)
    (hfind : ∀ e ∈ entries, fields.find? (·.name == e.name) = some e.field)
    (hseen : ∀ e ∈ entries, e.name ∉ seen) :
    decodeMembers fields seen r (entries.map fun e => (e.name, json e)) =
      entries.foldlM (fun r e => e.field.decode (json e) r) r := by
  induction entries generalizing seen r with
  | nil => rfl
  | cons e rest ih =>
    obtain ⟨hlt, hrest⟩ := List.pairwise_cons.mp hnames
    obtain ⟨he, hfind⟩ := List.forall_mem_cons.mp hfind
    obtain ⟨hunseen, hseen⟩ := List.forall_mem_cons.mp hseen
    have hseen' : ∀ e' ∈ rest, e'.name ∉ e.name :: seen := fun e' he' hmem =>
      (List.mem_cons.mp hmem).elim (hlt e' he').ne' (hseen e' he')
    rw [List.map_cons, decodeMembers, he, List.foldlM_cons]
    simp only [List.contains_eq_mem, hunseen, decide_false]
    exact bind_congr fun r' => ih r' hrest hfind hseen'

/-- What the fields are set to is what their values stand for. -/
theorem build_of_foldlM_eq_ok {entries : List (Entry σ)} {json : Entry σ → Json} (start : σ)
    {r b : σ} (h : entries.foldlM (fun r e => e.field.decode (json e) r) r = .ok b) :
    (∀ e ∈ entries, e.format.decode (json e) = .ok (e.valueOr start json)) ∧
      Entry.build entries r (Entry.valueOr start json) = b := by
  induction entries generalizing r with
  | nil => exact ⟨nofun, Except.ok.inj h⟩
  | cons e rest ih =>
    rw [List.foldlM_cons] at h
    obtain ⟨r', hr', h⟩ := exists_of_bind_eq_ok h
    obtain ⟨a, ha, hput⟩ := exists_of_bind_eq_ok hr'
    have hvalue : e.valueOr start json = a := by rw [Entry.valueOr, ha]
    obtain ⟨hrest, hbuild⟩ := ih h
    refine ⟨List.forall_mem_cons.mpr ⟨hvalue ▸ ha, hrest⟩, ?_⟩
    rw [Entry.build, List.foldl_cons, hvalue, Except.ok.inj hput]
    exact hbuild

theorem foldlM_eq_ok {entries : List (Entry σ)} {json : Entry σ → Json}
    {value : ∀ e : Entry σ, e.type} (r : σ)
    (h : ∀ e ∈ entries, e.format.decode (json e) = .ok (value e)) :
    entries.foldlM (fun r e => e.field.decode (json e) r) r =
      .ok (Entry.build entries r value) := by
  induction entries generalizing r with
  | nil => rfl
  | cons e rest ih =>
    obtain ⟨he, hrest⟩ := List.forall_mem_cons.mp h
    have hfield : e.field.decode (json e) r = .ok (e.put (value e) r) := by
      show (e.format.decode (json e) >>= fun a => .ok (e.put a r)) = _
      rw [he]
      rfl
    rw [List.foldlM_cons, hfield]
    exact ih _ hrest

end

/-! ### Records -/

namespace Schema
variable {σ : Type} {f : Format σ} (s : Schema f)

/-- The members that a record is written as. -/
def members (r : σ) : List (String × Json) :=
  s.entries.map fun e => (e.name, e.written r)

def write (r : σ) : Json :=
  .object (s.members r)

/-- Whether the record has a field of a name. -/
def has (name : String) : Bool :=
  s.entries.any (·.name == name)

/-- An object without the members that are no fields. -/
def known : Json → Json
  | .object ms => .object (ms.filter fun m => s.has m.1)
  | json => json

theorem has_iff {name : String} : s.has name = true ↔ ∃ e ∈ s.entries, e.name = name := by
  simp [has]

theorem isSome_find? (name : String) : (s.fields.find? (·.name == name)).isSome = s.has name := by
  rw [Bool.eq_iff_iff, List.find?_isSome, has_iff]
  constructor
  · rintro ⟨field, hfield, heq⟩
    obtain ⟨e, he, hname⟩ := s.name_mem field hfield
    exact ⟨e, he, hname.trans (beq_iff_eq.mp heq)⟩
  · rintro ⟨e, he, rfl⟩
    exact ⟨e.field, List.mem_of_find?_eq_some (s.find_eq e he), beq_self_eq_true e.name⟩

theorem isAscending_members (r : σ) : Json.IsAscending (s.members r) :=
  List.pairwise_map.mpr (List.pairwise_map.mp s.ascending)

theorem names_members (r : σ) : (s.members r).map Prod.fst = s.entries.map Entry.name := by
  rw [members, List.map_map]
  rfl

theorem decode_object (ms : List (String × Json)) :
    f.decode (.object ms) = decodeMembers s.fields [] s.start ms :=
  congrArg (fun g : Format σ => g.decode (.object ms)) s.format_eq

/-- A record can be read if each of its fields can. -/
theorem decode_map_eq_ok_iff (json : Entry σ → Json) (r : σ) :
    f.decode (.object (s.entries.map fun e => (e.name, json e))) = .ok r ↔
      ∀ e ∈ s.entries, e.format.decode (json e) = .ok (e.get r) := by
  rw [s.decode_object,
    decodeMembers_map_eq s.start (List.pairwise_map.mp s.ascending) s.find_eq
      fun _ _ => List.not_mem_nil]
  constructor
  · intro h e he
    obtain ⟨hvalues, hbuild⟩ := build_of_foldlM_eq_ok s.start h
    rw [← hbuild, s.get_build _ e he]
    exact hvalues e he
  · intro h
    rw [foldlM_eq_ok s.start h, s.build_get]

/-- What can be read from a record with members laid over it is what can be read from its fields,
with the values of the same name laid over each. -/
theorem decode_eq_ok_iff (overlay : List (String × Json)) (a b : σ) :
    f.decode (.object (mergeMembers (s.members a) overlay)) = .ok b ↔
      ∀ e ∈ s.entries,
        e.format.decode ((valuesAt e.name overlay).foldl deepMerge (e.written a)) =
          .ok (e.get b) := by
  -- What is no field is passed over, and each field is there already, in its place.
  have hfields : (mergeMembers (s.members a) overlay).filter (fun m => s.has m.1) =
      s.entries.map fun e =>
        (e.name, (valuesAt e.name overlay).foldl deepMerge (e.written a)) := by
    have hown : (s.members a).filter (fun m => s.has m.1) = s.members a := by
      refine List.filter_eq_self.mpr fun m hm => ?_
      obtain ⟨e, he, rfl⟩ := List.mem_map.mp hm
      exact s.has_iff.mpr ⟨e, he, rfl⟩
    rw [Json.filter_mergeMembers (s.isAscending_members a), hown, members, List.map_map]
    · rfl
    · intro m _ hm
      obtain ⟨e, he, hname⟩ := s.has_iff.mp hm
      rw [s.names_members]
      exact hname ▸ List.mem_map_of_mem he
  rw [← s.decode_map_eq_ok_iff, ← hfields, s.decode_object, s.decode_object,
    ← decodeMembers_filter [] s.start (mergeMembers (s.members a) overlay)]
  simp only [s.isSome_find?]

/-- The same for objects laid over a record one after the other. -/
theorem decode_foldl_eq_ok_iff {overlays : List Json}
    (hobjects : ∀ o ∈ overlays, o.isObject = true) (a b : σ) :
    f.decode (overlays.foldl deepMerge (s.write a)) = .ok b ↔
      ∀ e ∈ s.entries,
        e.format.decode ((valuesAt e.name (overlays.flatMap Json.members)).foldl deepMerge
          (e.written a)) = .ok (e.get b) := by
  rw [write, Json.foldl_deepMerge_object hobjects, s.decode_eq_ok_iff]

end Schema

/-! ### Laws -/

section
variable {α : Type}

/-- Whether what is written is read back. -/
def ReadsBack (f : Format α) (write : α → Json) : Prop :=
  ∀ a, f.decode (write a) = .ok a

/-- Whether overlays that lead from one value to another lead from there to itself. -/
def Absorbs (f : Format α) (write : α → Json) : Prop :=
  ∀ (overlays : List Json) (a b : α), f.decode (overlays.foldl deepMerge (write a)) = .ok b →
    f.decode (overlays.foldl deepMerge (write b)) = .ok b

variable {f : Format α} {write : α → Json}

/-- What is not written as an object is replaced by the first overlay. -/
theorem ReadsBack.absorbs (h : ReadsBack f write) (hwrite : ∀ a, (write a).isObject = false) :
    Absorbs f write := by
  intro overlays a b hb
  by_cases hne : overlays = []
  · subst hne
    exact h b
  · rwa [Json.foldl_deepMerge_of_not_isObject hne (hwrite b) (hwrite a)]

end

/-- Whether a field is read back, and not written as an object. -/
structure Entry.IsPlain {σ : Type} (e : Entry σ) : Prop where
  readsBack : ReadsBack e.format e.write
  not_object : ∀ a, (e.write a).isObject = false

theorem Entry.IsPlain.absorbs {σ : Type} {e : Entry σ} (h : e.IsPlain) :
    Absorbs e.format e.write :=
  h.readsBack.absorbs h.not_object

namespace Schema
variable {σ : Type} {f : Format σ} (s : Schema f)

theorem readsBack_of_entries (h : ∀ e ∈ s.entries, ReadsBack e.format e.write) :
    ReadsBack f s.write :=
  fun r => (s.decode_map_eq_ok_iff (fun e => e.written r) r).mpr fun e he => h e he _

theorem absorbs_of_entries (h : ∀ e ∈ s.entries, Absorbs e.format e.write) : Absorbs f s.write := by
  intro overlays a b hb
  by_cases hobjects : ∀ o ∈ overlays, o.isObject = true
  · rw [s.decode_foldl_eq_ok_iff hobjects] at hb ⊢
    exact fun e he => h e he _ _ _ (hb e he)
  · -- Behind an overlay that is no object nothing is left of either record.
    rwa [Json.foldl_deepMerge_eq hobjects _ (s.write a)]

/-- Whether every field is plain. -/
def IsPlain : Prop :=
  ∀ e ∈ s.entries, e.IsPlain

variable {s}

theorem IsPlain.readsBack (h : s.IsPlain) : ReadsBack f s.write :=
  s.readsBack_of_entries fun e he => (h e he).readsBack

theorem IsPlain.absorbs (h : s.IsPlain) : Absorbs f s.write :=
  s.absorbs_of_entries fun e he => (h e he).absorbs

variable (s)

/-- A field that none of the objects laid over a record has keeps its value. -/
theorem get_eq_of_not_mem {e : Entry σ} (he : e ∈ s.entries) (hback : ReadsBack e.format e.write)
    {overlays : List Json} (hobjects : ∀ o ∈ overlays, o.isObject = true)
    (hnot : ∀ o ∈ overlays, e.name ∉ o.members.map Prod.fst) {a b : σ}
    (h : f.decode (overlays.foldl deepMerge (s.write a)) = .ok b) : e.get b = e.get a := by
  have hnone : valuesAt e.name (overlays.flatMap Json.members) = [] := by
    refine Json.valuesAt_eq_nil fun hmem => ?_
    obtain ⟨m, hm, hname⟩ := List.mem_map.mp hmem
    obtain ⟨o, ho, hm⟩ := List.mem_flatMap.mp hm
    exact hnot o ho (hname ▸ List.mem_map_of_mem hm)
  have hvalue := (s.decode_foldl_eq_ok_iff hobjects a b).mp h e he
  rw [hnone, List.foldl_nil, Entry.written, hback] at hvalue
  exact (Except.ok.inj hvalue).symm

/-- Members that are no fields do not matter to what is read. -/
theorem decode_known_eq_ok_iff (overlay : Json) (a b : σ) :
    f.decode ((s.write a).deepMerge (s.known overlay)) = .ok b ↔
      f.decode ((s.write a).deepMerge overlay) = .ok b := by
  cases overlay with
  | object ms =>
    rw [known, write, Json.deepMerge_object, Json.deepMerge_object, s.decode_eq_ok_iff,
      s.decode_eq_ok_iff]
    refine forall₂_congr fun e he => ?_
    rw [Json.valuesAt_filter (s.has_iff.mpr ⟨e, he, rfl⟩)]
  | _ => rfl

end Schema

end Abridge.Format
