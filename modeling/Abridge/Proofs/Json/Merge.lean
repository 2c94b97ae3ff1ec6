import Abridge.Json.Basic
import Abridge.Proofs.Entries

/-!
What overlays do to an object.

Under each name that an object has, the values of an overlay are laid over its own, one after the
other; nothing else becomes of these members (`filter_mergeMembers`). A value that is no object is
replaced, so that nothing is left of what it was laid over (`foldl_deepMerge_eq`).
-/
namespace Abridge.Json

def isObject : Json → Bool
  | .object _ => true
  | _ => false

/-- The members of an object; other values have none. -/
def members : Json → List (String × Json)
  | .object members => members
  | _ => []

/-- The values under a name, in order. -/
def valuesAt (name : String) (members : List (String × Json)) : List Json :=
  members.filterMap fun m => if m.1 = name then some m.2 else none

/-- Whether the names stand in ascending order, each once. -/
def IsAscending (members : List (String × Json)) : Prop :=
  members.Pairwise fun a b => a.1 < b.1

/-! ### Values by name -/

@[simp] theorem valuesAt_nil (name : String) : valuesAt name [] = [] := rfl

@[simp] theorem valuesAt_cons_self (name : String) (value : Json)
    (rest : List (String × Json)) :
    valuesAt name ((name, value) :: rest) = value :: valuesAt name rest := by
  simp [valuesAt]

theorem valuesAt_cons_of_ne {name other : String} (h : other ≠ name) (value : Json)
    (rest : List (String × Json)) :
    valuesAt name ((other, value) :: rest) = valuesAt name rest := by
  simp [valuesAt, h]

theorem mem_valuesAt {name : String} {value : Json} {members : List (String × Json)} :
    value ∈ valuesAt name members ↔ (name, value) ∈ members := by
  induction members with
  | nil => simp
  | cons first rest ih =>
    obtain ⟨k, v⟩ := first
    by_cases hk : k = name
    · subst hk
      simp [ih]
    · rw [valuesAt_cons_of_ne hk, ih]
      simp [Ne.symm hk]

theorem valuesAt_filter {chosen : String → Bool} {name : String} (h : chosen name = true)
    (members : List (String × Json)) :
    valuesAt name (members.filter fun m => chosen m.1) = valuesAt name members := by
  induction members with
  | nil => rfl
  | cons first rest ih =>
    obtain ⟨k, v⟩ := first
    by_cases hk : k = name
    · subst hk
      rw [List.filter_cons, if_pos h, valuesAt_cons_self, valuesAt_cons_self, ih]
    · rw [valuesAt_cons_of_ne hk, List.filter_cons]
      split
      · rw [valuesAt_cons_of_ne hk, ih]
      · exact ih

theorem valuesAt_map (change : String → Json → Json) (name : String)
    (members : List (String × Json)) :
    valuesAt name (members.map fun m => (m.1, change m.1 m.2)) =
      (valuesAt name members).map (change name) := by
  induction members with
  | nil => rfl
  | cons first rest ih =>
    obtain ⟨k, v⟩ := first
    by_cases hk : k = name
    · subst hk
      rw [List.map_cons, valuesAt_cons_self, valuesAt_cons_self, ih, List.map_cons]
    · rw [List.map_cons, valuesAt_cons_of_ne hk, valuesAt_cons_of_ne hk, ih]

theorem valuesAt_eq_nil {name : String} {members : List (String × Json)}
    (h : name ∉ members.map Prod.fst) : valuesAt name members = [] :=
  List.eq_nil_iff_forall_not_mem.mpr fun _ hvalue =>
    h (List.mem_map_of_mem (mem_valuesAt.mp hvalue))

/-- Where no name is repeated, there is one value for a name at most. -/
theorem length_valuesAt_le {name : String} {members : List (String × Json)}
    (h : (members.map Prod.fst).Nodup) : (valuesAt name members).length ≤ 1 := by
  induction members with
  | nil => exact Nat.zero_le 1
  | cons first rest ih =>
    obtain ⟨k, v⟩ := first
    obtain ⟨hk, hrest⟩ := List.nodup_cons.mp h
    by_cases heq : k = name
    · subst heq
      rw [valuesAt_cons_self, valuesAt_eq_nil hk]
      rfl
    · rw [valuesAt_cons_of_ne heq]
      exact ih hrest

/-! ### One overlay -/

theorem deepMerge_of_not_isObject_left {base : Json} (h : base.isObject = false) (overlay : Json) :
    deepMerge base overlay = overlay := by
  cases overlay <;> cases base <;> first | rfl | cases h

theorem deepMerge_of_not_isObject_right (base : Json) {overlay : Json}
    (h : overlay.isObject = false) : deepMerge base overlay = overlay := by
  cases overlay <;> first | rfl | cases h

theorem deepMerge_object (base overlay : List (String × Json)) :
    deepMerge (.object base) (.object overlay) = .object (mergeMembers base overlay) := by
  rw [deepMerge]

/-! ### Overlays one after the other -/

theorem mergeMembers_append (base first second : List (String × Json)) :
    mergeMembers base (first ++ second) = mergeMembers (mergeMembers base first) second := by
  induction first generalizing base with
  | nil => rw [List.nil_append, mergeMembers]
  | cons m rest ih =>
    rw [List.cons_append, mergeMembers, mergeMembers]
    exact ih _

/-- Objects laid over an object one after the other come to one object laid over it. -/
theorem foldl_deepMerge_object {overlays : List Json} (h : ∀ o ∈ overlays, o.isObject = true)
    (base : List (String × Json)) :
    overlays.foldl deepMerge (.object base) =
      .object (mergeMembers base (overlays.flatMap members)) := by
  induction overlays generalizing base with
  | nil => rw [List.flatMap_nil, mergeMembers]; rfl
  | cons o rest ih =>
    obtain ⟨ho, hrest⟩ := List.forall_mem_cons.mp h
    cases o with
    | object overlay =>
      rw [List.foldl_cons, deepMerge_object, ih hrest, List.flatMap_cons, mergeMembers_append]
      rfl
    | _ => cases ho

/-- Where not all overlays are objects, nothing is left of the value that they are laid over. -/
theorem foldl_deepMerge_eq {overlays : List Json} (h : ¬ ∀ o ∈ overlays, o.isObject = true)
    (a b : Json) : overlays.foldl deepMerge a = overlays.foldl deepMerge b := by
  induction overlays generalizing a b with
  | nil => exact absurd (fun _ ho => absurd ho List.not_mem_nil) h
  | cons o rest ih =>
    rw [List.foldl_cons, List.foldl_cons]
    by_cases ho : o.isObject = true
    · exact ih (fun hrest => h (List.forall_mem_cons.mpr ⟨ho, hrest⟩)) _ _
    · -- This overlay takes the place of either value.
      have ho := Bool.not_eq_true _ ▸ ho
      rw [deepMerge_of_not_isObject_right a ho, deepMerge_of_not_isObject_right b ho]

/-- Over a value that is no object, the first overlay takes its place. -/
theorem foldl_deepMerge_of_not_isObject {overlays : List Json} (hne : overlays ≠ []) {a b : Json}
    (ha : a.isObject = false) (hb : b.isObject = false) :
    overlays.foldl deepMerge a = overlays.foldl deepMerge b := by
  obtain ⟨o, rest, rfl⟩ := List.exists_cons_of_ne_nil hne
  rw [List.foldl_cons, List.foldl_cons, deepMerge_of_not_isObject_left ha,
    deepMerge_of_not_isObject_left hb]

/-! ### Members -/

section
variable {base : List (String × Json)} {name : String} {value : Json}

theorem putMember_eq_put (name : String) (value : Json) (base : List (String × Json)) :
    putMember name value base = Entries.put name (fun _ => value) base := by
  induction base with
  | nil => rfl
  | cons first rest ih =>
    obtain ⟨k, v⟩ := first
    rw [putMember, Entries.put, ih]

theorem IsAscending.putMember (h : IsAscending base) :
    IsAscending (putMember name value base) := by
  rw [putMember_eq_put]
  exact Entries.IsAscending.put h

/-- Members whose names are not chosen do not matter to those whose names are. -/
theorem filter_putMember_of_not {chosen : String → Bool} (h : chosen name = false) :
    (putMember name value base).filter (chosen ·.1) = base.filter (chosen ·.1) := by
  induction base with
  | nil => simp [putMember, h]
  | cons first rest ih =>
    obtain ⟨k, v⟩ := first
    rw [putMember]
    split
    next heq => simp [← heq, h]
    · split
      · simp [h]
      · simp [List.filter_cons, ih]

/-- No name gets lost. -/
theorem names_subset_putMember : base.map Prod.fst ⊆ (putMember name value base).map Prod.fst := by
  induction base with
  | nil => exact List.nil_subset _
  | cons first rest ih =>
    obtain ⟨k, v⟩ := first
    rw [putMember]
    split
    · exact List.Subset.refl _
    · split
      · exact List.subset_cons_self _ _
      · exact List.cons_subset_cons _ ih

theorem length_le_putMember : base.length ≤ (putMember name value base).length := by
  induction base with
  | nil => exact Nat.zero_le _
  | cons first rest ih =>
    obtain ⟨k, v⟩ := first
    rw [putMember]
    split
    · exact le_rfl
    · split
      · exact Nat.le_succ _
      · exact Nat.succ_le_succ ih

/-- A member with a value laid over its own, if that has its name. -/
def mergeAt (name : String) (value : Json) (m : String × Json) : String × Json :=
  (m.1, if m.1 = name then deepMerge m.2 value else m.2)

theorem mergeAt_of_ne {m : String × Json} (h : m.1 ≠ name) : mergeAt name value m = m := by
  rw [mergeAt, if_neg h]

/-- A member that is there already keeps its place. -/
theorem putMember_eq_map (h : IsAscending base) {old : Json} (hold : base.lookup name = some old) :
    putMember name (deepMerge old value) base = base.map (mergeAt name value) := by
  induction base with
  | nil => cases hold
  | cons first rest ih =>
    obtain ⟨k, v⟩ := first
    obtain ⟨hfirst, hrest⟩ := List.pairwise_cons.mp h
    by_cases hk : name = k
    · subst hk
      obtain rfl : v = old := by simpa using hold
      have hsame : rest.map (mergeAt name value) = rest :=
        (List.map_congr_left fun m hm => mergeAt_of_ne (hfirst m hm).ne').trans (List.map_id rest)
      rw [List.map_cons, hsame]
      simp [putMember, mergeAt]
    · rw [List.lookup_cons, beq_eq_false_iff_ne.mpr hk] at hold
      obtain ⟨front, back, hrest_eq, -⟩ := List.lookup_eq_some_iff.mp hold
      have hlt : k < name := hfirst (name, old) (hrest_eq ▸ by simp)
      rw [putMember, if_neg hk, if_neg hlt.asymm, ih hrest hold, List.map_cons,
        mergeAt_of_ne (Ne.symm hk)]

theorem exists_lookup (hname : name ∈ base.map Prod.fst) : ∃ old, base.lookup name = some old :=
  Option.isSome_iff_exists.mp (Entries.isSome_lookup_iff.mpr hname)

end

/-- A member with all values of an overlay under its name laid over its own. -/
def overlaid (overlay : List (String × Json)) (m : String × Json) : String × Json :=
  (m.1, (valuesAt m.1 overlay).foldl deepMerge m.2)

section
variable {rest : List (String × Json)} {name : String} {value : Json} {m : String × Json}

theorem overlaid_mergeAt :
    overlaid rest (mergeAt name value m) = overlaid ((name, value) :: rest) m := by
  obtain ⟨k, v⟩ := m
  by_cases hk : k = name
  · subst hk
    simp [overlaid, mergeAt]
  · simp [overlaid, mergeAt, valuesAt_cons_of_ne (Ne.symm hk), hk]

theorem overlaid_cons_of_ne (h : name ≠ m.1) :
    overlaid ((name, value) :: rest) m = overlaid rest m := by
  rw [overlaid, valuesAt_cons_of_ne h, overlaid]

end

theorem length_le_mergeMembers (base overlay : List (String × Json)) :
    base.length ≤ (mergeMembers base overlay).length := by
  induction overlay generalizing base with
  | nil => rw [mergeMembers]
  | cons m rest ih =>
    obtain ⟨name, value⟩ := m
    rw [mergeMembers]
    exact length_le_putMember.trans (ih _)

/-- Of an object under an overlay, the members whose names are chosen are its own with the values of
the overlay laid over them, if the overlay has no other such members. -/
theorem filter_mergeMembers {chosen : String → Bool} {base overlay : List (String × Json)}
    (h : IsAscending base)
    (hoverlay : ∀ m ∈ overlay, chosen m.1 = true → m.1 ∈ base.map Prod.fst) :
    (mergeMembers base overlay).filter (chosen ·.1) =
      (base.filter (chosen ·.1)).map (overlaid overlay) := by
  induction overlay generalizing base with
  | nil =>
    rw [mergeMembers]
    exact (List.map_id _).symm
  | cons m rest ih =>
    obtain ⟨name, value⟩ := m
    obtain ⟨hname, hrest⟩ := List.forall_mem_cons.mp hoverlay
    replace hname : chosen name = true → name ∈ base.map Prod.fst := hname
    rw [mergeMembers,
      ih h.putMember fun m hm hchosen => names_subset_putMember (hrest m hm hchosen)]
    cases hchosen : chosen name with
    | true =>
      obtain ⟨old, hold⟩ := exists_lookup (hname hchosen)
      simp only [hold]
      rw [putMember_eq_map h hold, List.filter_map, List.map_map]
      exact List.map_congr_left fun m _ => overlaid_mergeAt
    | false =>
      rw [filter_putMember_of_not hchosen]
      refine List.map_congr_left fun m hm => (overlaid_cons_of_ne ?_).symm
      rintro rfl
      have hm := (List.mem_filter.mp hm).2
      rw [hchosen] at hm
      cases hm

end Abridge.Json
