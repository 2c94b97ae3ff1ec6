import Mathlib.Data.String.Basic

/-!
Rows of entries by name.

Counters, the members of an object and what an extension stands for are kept in such rows, each name
once and in ascending order. Putting an entry at a name keeps the order (`IsAscending.put`) and
changes what is found there and nowhere else (`lookup_put`); what overwrites is found without regard
to the order (`lookup_put_const`).
-/
namespace Abridge.Entries
variable {α : Type}

/-- Puts `update` of the present entry, if any, at a name. -/
def put (name : String) (update : Option α → α) : List (String × α) → List (String × α)
  | [] => [(name, update none)]
  | (k, old) :: rest =>
    if name = k then (k, update (some old)) :: rest
    else if name < k then (name, update none) :: (k, old) :: rest
    else (k, old) :: put name update rest

/-- Whether the names stand in ascending order, each once. -/
def IsAscending (entries : List (String × α)) : Prop :=
  entries.Pairwise fun a b => a.1 < b.1

variable {name : String} {update : Option α → α} {entries : List (String × α)}

/-- No name is left behind but those that were there and the one that was put. -/
theorem mem_put {entry : String × α} (h : entry ∈ put name update entries) :
    entry.1 = name ∨ entry ∈ entries := by
  induction entries with
  | nil =>
    obtain rfl := List.mem_singleton.mp h
    exact .inl rfl
  | cons first rest ih =>
    obtain ⟨k, old⟩ := first
    rw [put] at h
    split at h
    next heq =>
      rcases List.mem_cons.mp h with rfl | h
      · exact .inl heq.symm
      · exact .inr (List.mem_cons_of_mem _ h)
    · split at h
      · rcases List.mem_cons.mp h with rfl | h
        · exact .inl rfl
        · exact .inr h
      · rcases List.mem_cons.mp h with rfl | h
        · exact .inr List.mem_cons_self
        · exact (ih h).imp id (List.mem_cons_of_mem _)

theorem IsAscending.put (h : IsAscending entries) : IsAscending (put name update entries) := by
  induction entries with
  | nil => exact List.pairwise_singleton _ _
  | cons first rest ih =>
    obtain ⟨k, old⟩ := first
    obtain ⟨hfirst, hrest⟩ := List.pairwise_cons.mp h
    rw [Entries.put]
    split
    · exact List.pairwise_cons.mpr ⟨hfirst, hrest⟩
    next hne =>
      split
      next hlt =>
        refine List.pairwise_cons.mpr ⟨fun entry hentry => ?_, h⟩
        rcases List.mem_cons.mp hentry with rfl | hentry
        · exact hlt
        · exact lt_trans hlt (hfirst entry hentry)
      next hnlt =>
        have hlt : k < name := lt_of_le_of_ne (not_lt.mp hnlt) (Ne.symm hne)
        refine List.pairwise_cons.mpr ⟨fun entry hentry => ?_, ih hrest⟩
        rcases mem_put hentry with heq | hentry
        · rwa [heq]
        · exact hfirst entry hentry

/-- A name below all those that are there is not among them. -/
theorem lookup_eq_none_of_lt (h : ∀ entry ∈ entries, name < entry.1) :
    entries.lookup name = none := by
  refine List.lookup_eq_none_iff.mpr fun entry hentry => ?_
  exact bne_iff_ne.mpr (ne_of_lt (h entry hentry))

/-- In order, what is found at a name is what was put there, and elsewhere what was found before. -/
theorem lookup_put (h : IsAscending entries) (other : String) :
    (put name update entries).lookup other =
      if name = other then some (update (entries.lookup name)) else entries.lookup other := by
  induction entries with
  | nil => grind [put]
  | cons first rest ih =>
    obtain ⟨k, old⟩ := first
    obtain ⟨hfirst, hrest⟩ := List.pairwise_cons.mp h
    rw [put]
    split
    next heq => grind
    next hne =>
      split
      next hlt =>
        have hnone : ((k, old) :: rest).lookup name = none := by
          refine lookup_eq_none_of_lt fun entry hentry => ?_
          rcases List.mem_cons.mp hentry with rfl | hentry
          · exact hlt
          · exact lt_trans hlt (hfirst entry hentry)
        rw [hnone]
        grind
      · have htail := ih hrest
        grind

/-- Overwriting needs no order. -/
theorem lookup_put_const (name other : String) (value : α) (entries : List (String × α)) :
    (put name (fun _ => value) entries).lookup other =
      if name = other then some value else entries.lookup other := by
  induction entries with
  | nil => grind [put]
  | cons first rest ih =>
    obtain ⟨k, old⟩ := first
    rw [put]
    split
    next heq => grind
    next hne => split <;> grind

theorem isSome_lookup_iff :
    (entries.lookup name).isSome = true ↔ name ∈ entries.map Prod.fst := by
  simp only [List.lookup_isSome_iff, List.mem_map, beq_iff_eq, @eq_comm _ name]

end Abridge.Entries
