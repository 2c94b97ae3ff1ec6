import Abridge.Proofs.Entries
import Abridge.Tally

/-!
What becomes of the counters of a tally.

A look-up finds what was put in last only if the names stand in ascending order (`Tally.IsSorted`),
which every update keeps. In such a tally, raising one counter moves that counter alone
(`Tally.get_incr`).
-/
namespace Abridge.Tally

/-- Whether the names stand in ascending order, each once. -/
def IsSorted (entries : List (String × Nat)) : Prop :=
  entries.Pairwise fun a b => a.1 < b.1

section Alter
variable {key : String} {update : Option Nat → Nat} {entries : List (String × Nat)}

theorem alter_eq_put (key : String) (update : Option Nat → Nat) (entries : List (String × Nat)) :
    alter key update entries = Entries.put key update entries := by
  induction entries with
  | nil => rfl
  | cons first rest ih =>
    obtain ⟨k, n⟩ := first
    rw [alter, Entries.put, ih]

/-- An update leaves no name behind but those that were there and its own. -/
theorem mem_alter {entry : String × Nat} (h : entry ∈ alter key update entries) :
    entry.1 = key ∨ entry ∈ entries :=
  Entries.mem_put (alter_eq_put key update entries ▸ h)

theorem IsSorted.alter (h : IsSorted entries) : IsSorted (alter key update entries) := by
  rw [alter_eq_put]
  exact Entries.IsAscending.put h

/-- An update changes what is found under its name, and nothing else. -/
theorem lookup_alter (h : IsSorted entries) (other : String) :
    (alter key update entries).lookup other =
      if key = other then some (update (entries.lookup key)) else entries.lookup other := by
  rw [alter_eq_put]
  exact Entries.lookup_put h other

end Alter

/-! ### Counters -/

section Counters
variable {t : Tally}

theorem get?_set (t : Tally) (key other : String) (value : Nat) :
    (t.set key value).get? other = if key = other then some value else t.get? other := by
  rw [get?, set, alter_eq_put]
  exact Entries.lookup_put_const key other value t.entries

theorem isSorted_empty : IsSorted ({} : Tally).entries :=
  List.Pairwise.nil

theorem isSorted_incr (h : IsSorted t.entries) (key : String) (n : Nat) :
    IsSorted (t.incr key n).entries := by
  unfold incr
  split
  · exact h
  · exact h.alter

/-- Raising a counter raises that counter alone. -/
theorem get_incr (h : IsSorted t.entries) (key other : String) (n : Nat) :
    (t.incr key n).get other = t.get other + if key = other then n else 0 := by
  unfold incr
  split
  next hn => simp [hn]
  · unfold get get? add
    rw [lookup_alter h]
    split
    next heq => subst heq; rfl
    · rfl

/-- The sum of the entries whose name is among those chosen. -/
def sumIn (chosen : String → Bool) (entries : List (String × Nat)) : Nat :=
  total ((entries.filter fun e => chosen e.1).map Prod.snd)

theorem sumIn_cons (chosen : String → Bool) (e : String × Nat) (rest : List (String × Nat)) :
    sumIn chosen (e :: rest) = (if chosen e.1 then e.2 else 0) + sumIn chosen rest := by
  cases h : chosen e.1 <;> simp [sumIn, h]

theorem sumIn_alter (chosen : String → Bool) (key : String) (n : Nat)
    (entries : List (String × Nat)) :
    sumIn chosen (alter key (fun old => old.getD 0 + n) entries) =
      sumIn chosen entries + if chosen key then n else 0 := by
  induction entries with
  | nil =>
    rw [alter, sumIn_cons, Option.getD_none, Nat.zero_add]
    exact Nat.add_comm _ _
  | cons first rest ih =>
    obtain ⟨k, m⟩ := first
    rw [alter]
    split
    next heq =>
      subst heq
      simp only [sumIn_cons, Option.getD_some]
      split <;> omega
    · split
      · simp only [sumIn_cons, Option.getD_none, Nat.zero_add]
        omega
      · simp only [sumIn_cons, ih]
        omega

/-- Raising a counter raises the sum of those that its name belongs to. -/
theorem sumOf_incr (t : Tally) (key start : String) (n : Nat) :
    (t.incr key n).sumOf start =
      t.sumOf start + if start.toList.isPrefixOf key.toList then n else 0 := by
  unfold incr
  split
  next hn => simp [hn]
  · exact sumIn_alter (fun k => start.toList.isPrefixOf k.toList) key n t.entries

/-- A bound of all entries that is positive is one of all counters. -/
theorem get_lt_of_forall {bound : Nat} (hbound : 0 < bound)
    (h : ∀ entry ∈ t.entries, entry.2 < bound) (key : String) : t.get key < bound := by
  unfold get get?
  cases hlookup : t.entries.lookup key with
  | none => exact hbound
  | some n =>
    obtain ⟨before, after, heq, -⟩ := List.lookup_eq_some_iff.mp hlookup
    exact h (key, n) (heq ▸ List.mem_append_right before List.mem_cons_self)

/-! ### Empty tallies -/

theorem isEmpty_add (t : Tally) (key : String) (n : Nat) : (t.add key n).isEmpty = false := by
  refine List.isEmpty_eq_false_iff.mpr ?_
  unfold add
  cases t.entries with
  | nil => exact List.cons_ne_nil _ _
  | cons first rest =>
    rw [alter]
    split
    · exact List.cons_ne_nil _ _
    · split <;> exact List.cons_ne_nil _ _

theorem isEmpty_incr (t : Tally) (key : String) {n : Nat} (hn : n ≠ 0) :
    (t.incr key n).isEmpty = false := by
  rw [incr, if_neg hn]
  exact t.isEmpty_add key n

/-- Nothing that is added gets lost. -/
theorem isEmpty_merge (t other : Tally) :
    (t.merge other).isEmpty = (t.isEmpty && other.isEmpty) := by
  unfold merge
  cases hentries : other.entries with
  | nil => simp [isEmpty, hentries]
  | cons first rest =>
    have hother : other.isEmpty = false := by rw [isEmpty, hentries, List.isEmpty_cons]
    rw [List.foldl_cons, hother, Bool.and_false]
    exact List.foldlRecOn (motive := fun acc : Tally => acc.isEmpty = false) rest _
      (t.isEmpty_add first.1 first.2) fun acc _ entry _ => acc.isEmpty_add entry.1 entry.2

theorem isEmpty_under (t : Tally) (scope : String) : (t.under scope).isEmpty = t.isEmpty :=
  List.isEmpty_map

end Counters

end Abridge.Tally
