import Std.Data.HashMap
import Abridge.CharSet.Utf8
import Abridge.Text.Basic

/-!
Automata that read bytes of UTF-8, as far as their size goes. States are added one by one, numbered
from zero up, and there is room for only so many of them (`roomLimit`). A `Step` adds the states of
a part of an automaton, if there is room: those of a single text or edge, of a choice of texts
(`texts`), and of a character of a set (`set`), each read forwards or backwards.
-/
namespace Abridge.Pattern

/-- The direction in which an automaton reads. -/
inductive Direction where
  | forwards
  | backwards
  deriving DecidableEq, Repr

/-- An automaton as far as it has been built: how many states it has and what room they take. -/
structure Automaton where
  states : Nat := 0
  room : Nat := 0

namespace Automaton

/-- The most room that an automaton may take. -/
def roomLimit : Nat := 10 * 1024 * 1024

/-- Adds `states` states that take `room` together. -/
def grow (a : Automaton) (states room : Nat) : Option Automaton :=
  let grown : Automaton := ⟨a.states + states, a.room + room⟩
  if grown.room ≤ roomLimit then some grown else none

/-- Adds a state, whose ways out take `ways` beside the room of every state. -/
def add (a : Automaton) (ways : Nat) : Option Automaton :=
  a.grow 1 (32 + ways)

/-- The room that the ways out of a state take: each takes 8 out of a state that tells bytes apart,
and 4 out of a fork. -/
def byteWays (n : Nat) : Nat := 8 * n

def forkWays (n : Nat) : Nat := 4 * n

end Automaton

/-- Adds a part to an automaton, if there is room for it. -/
abbrev Step := Automaton → Option Automaton

namespace Step

/-- A single state, which tells nothing apart. -/
def state : Step := fun a => a.add 0

/-- A fork with some ways. -/
def fork (ways : Nat) : Step := fun a => a.add (Automaton.forkWays ways)

/-- The steps one after the other. -/
def all (steps : List Step) : Step := fun a => steps.foldlM (fun a step => step a) a

/-- A step a number of times. -/
def copies : Nat → Step → Step
  | 0, _, a => some a
  | n + 1, step, a =>
    match step a with
    | some a => copies n step a
    | none => none

/-! ### Choices of texts -/

/-- The lists between the empty texts of a list. -/
def between : List (List UInt8) → List (List (List UInt8))
  | [] => [[]]
  | [] :: rest => [] :: between rest
  | t :: rest =>
    match between rest with
    | [] => [[t]]
    | list :: lists => (t :: list) :: lists

/-- The texts in groups by their first byte, each without it. -/
def byFirst (ts : List (List UInt8)) : List (List (List UInt8)) :=
  (ts.filterMap (·.head?)).eraseDups.map fun first =>
    (ts.filter (·.head? == some first)).map (·.drop 1)

/-- Adds the states that read one of some texts, none longer than `length`, up to the last byte. A
text that ends where others go on parts those in front of it from those behind, and each of the
lists has a state of its own, which tells bytes apart if there is more than one. -/
def rests : (length : Nat) → List (List UInt8) → Step
  | 0, _, a => some a
  | length + 1, ts, a =>
    if ts.all (·.isEmpty) then some a
    else
      let ended := ts.takeWhile (·.isEmpty)
      let lists := between (ended.take 1 ++ ts.drop ended.length)
      let filled := (lists.map byFirst).filter (!·.isEmpty)
      let ways := filled.map fun groups =>
        if groups.length > 1 then Automaton.byteWays groups.length else 0
      let fork := Automaton.forkWays (filled.length + (lists.length - 1))
      match a.grow (filled.length + 1)
          (ways.foldl (· + ·) (32 * filled.length) + (32 + fork)) with
      | none => none
      | some a => filled.flatten.foldlM (fun a group => rests length group a) a

/-- One of some texts. Texts share the states of their first bytes, or backwards of their last. -/
def texts (direction : Direction) (ts : List Text) : Step :=
  let ts := ts.map fun t =>
    let bytes := t.flatMap String.utf8EncodeChar
    match direction with
    | .forwards => bytes
    | .backwards => bytes.reverse
  let length := ts.foldl (fun n t => max n t.length) 0
  all [state, rests length ts]

/-! ### Sets -/

/-- States that have been added for a set, to be shared with what is made alike. There is a number
of slots for them, and a slot remembers only what came last. -/
structure Memory where
  slots : Nat
  entries : Std.HashMap Nat (List Nat × Nat) := {}

namespace Memory

/-- The slot of what is made of some numbers: a hash of them, number by number. -/
def slot (m : Memory) (numbers : List Nat) : Nat :=
  let hash := numbers.foldl (fun h n => (h ^^^ n.toUInt64) * 1099511628211)
    (14695981039346656037 : UInt64)
  hash.toNat % m.slots

/-- The state that is made of some numbers, if it is remembered. -/
def find? (m : Memory) (numbers : List Nat) : Option Nat :=
  match m.entries[m.slot numbers]? with
  | some (made, state) => if made == numbers then some state else none
  | none => none

def insert (m : Memory) (numbers : List Nat) (state : Nat) : Memory :=
  { m with entries := m.entries.insert (m.slot numbers) (numbers, state) }

end Memory

/-- An automaton with the states of a set in it that can be shared. -/
abbrev Sharing := Memory × Automaton

/-- The state that is made of some numbers, which is added if it is not remembered. -/
def shared (numbers : List Nat) (ways : Nat) : Sharing → Option (Nat × Sharing)
  | (m, a) =>
    match m.find? numbers with
    | some state => some (state, m, a)
    | none => do
      let grown ← a.add ways
      return (a.states, m.insert numbers a.states, grown)

/-- Adds the states that read the bytes of some sequences, none longer than `length`, and lead to
the state `stop`. What can follow is added first, so that states with the same ways are shared. -/
def byteTree (stop : Nat) : (length : Nat) → List CharSet.ByteSequence → Sharing →
    Option (Nat × Sharing)
  | 0, _, s => some (stop, s)
  | length + 1, sequences, s =>
    if sequences.all (·.isEmpty) then some (stop, s)
    else do
      let groups := CharSet.byFront sequences
      let (ways, s) ← groups.foldlM
        (fun (ways, s) ((low, high), tails) => do
          let (next, s) ← byteTree stop length tails s
          return (next :: high :: low :: ways, s))
        (([] : List Nat), s)
      shared ways.reverse (Automaton.byteWays groups.length) s

/-- Adds the states that read the bytes of a sequence last byte first, from behind the state `stop`
on. What leads to the same state from the same bytes is shared. -/
def byteRow (stop : Nat) (sequence : CharSet.ByteSequence) (s : Sharing) : Option Sharing := do
  let (_, s) ← sequence.foldlM
    (fun (state, s) (low, high) => shared [state, low, high] 0 s) (stop, s)
  return s

/-- A character of a set. One state tells the characters of ASCII apart, and other sets are read
byte by byte. -/
def set (direction : Direction) (s : CharSet) : Step :=
  if s.isAscii then all [state, fun a => a.add (Automaton.byteWays s.ranges.length)]
  else
    let sequences := s.byteSequences
    match direction with
    | .forwards => fun a => do
      let (_, _, grown) ← byteTree a.states 4 sequences (⟨10000, {}⟩, ← a.add 0)
      return grown
    | .backwards => fun a => do
      let forked ← a.add (Automaton.forkWays sequences.length)
      let (_, grown) ← sequences.foldlM (fun s sequence => byteRow forked.states sequence s)
        (⟨1000, {}⟩, ← forked.add 0)
      return grown

end Step

end Abridge.Pattern
