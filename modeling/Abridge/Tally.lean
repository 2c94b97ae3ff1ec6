import Abridge.Total

/-!
Tallies: named counters of what was taken out of a text, in the order of their names.
-/
namespace Abridge

/-- Counters by name, each name once and in ascending order. -/
structure Tally where
  entries : List (String × Nat) := []
  deriving DecidableEq, Repr

namespace Tally

/-- Puts `update` of the present count, if any, at `key`. -/
def alter (key : String) (update : Option Nat → Nat) : List (String × Nat) → List (String × Nat)
  | [] => [(key, update none)]
  | (k, n) :: rest =>
    if key = k then (k, update (some n)) :: rest
    else if key < k then (key, update none) :: (k, n) :: rest
    else (k, n) :: alter key update rest

/-- Overwrites a counter. -/
def set (t : Tally) (key : String) (value : Nat) : Tally :=
  ⟨alter key (fun _ => value) t.entries⟩

/-- Adds to a counter, which exists from then on. -/
def add (t : Tally) (key : String) (n : Nat) : Tally :=
  ⟨alter key (fun old => old.getD 0 + n) t.entries⟩

/-- Adds to a counter; adding nothing leaves no counter behind. -/
def incr (t : Tally) (key : String) (n : Nat) : Tally :=
  if n = 0 then t else t.add key n

def get? (t : Tally) (key : String) : Option Nat :=
  t.entries.lookup key

/-- The count, zero where there is none. -/
def get (t : Tally) (key : String) : Nat :=
  (t.get? key).getD 0

def contains (t : Tally) (key : String) : Bool :=
  (t.get? key).isSome

/-- Adds every counter of `other`. -/
def merge (t other : Tally) : Tally :=
  other.entries.foldl (fun acc (key, n) => acc.add key n) t

/-- The same counts under names that begin with `scope` and a point. -/
def under (t : Tally) (scope : String) : Tally :=
  ⟨t.entries.map fun (key, n) => (scope ++ "." ++ key, n)⟩

/-- Sum of the counters whose name begins with `start`. -/
def sumOf (t : Tally) (start : String) : Nat :=
  total ((t.entries.filter fun (key, _) => start.toList.isPrefixOf key.toList).map Prod.snd)

def size (t : Tally) : Nat :=
  t.entries.length

def isEmpty (t : Tally) : Bool :=
  t.entries.isEmpty

end Tally

end Abridge
