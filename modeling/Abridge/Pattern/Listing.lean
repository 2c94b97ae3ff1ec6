import Abridge.Pattern.Normal

/-!
Patterns that match a few texts and nothing else. `listing?` lists the texts, as long as they are
few and short. Such texts can be searched for without an automaton (`isListed`), unless it pays to
look for their first bytes only; so can those of a choice between a great many texts (`isWordList`).
-/
namespace Abridge.Pattern

/-! ### Listing texts -/

/-- Whether a pattern has neither edges nor groups. -/
def isPlain : Pattern → Bool
  | .empty => true
  | .atom (.edge _) => false
  | .atom _ => true
  | .seq a b => isPlain a && isPlain b
  | .alt a b => isPlain a && isPlain b
  | .times a _ _ _ => isPlain a
  | .group _ _ => false

/-- The most texts that are listed. -/
def listLimit : Nat := 250

/-- A listing that is not too long, of texts of at most 100 bytes. A text that comes again right
behind itself is listed once. -/
def short? (ts : List Text) : Option (List Text) :=
  if ts.length ≤ listLimit && ts.all fun t => (String.ofList t).utf8ByteSize ≤ 100 then
    some ts.eraseReps
  else none

/-- Every text of the first listing with one of the second behind it. -/
def pairs? (ts us : List Text) : Option (List Text) :=
  if ts.length * us.length ≤ listLimit then short? (ts.flatMap fun t => us.map (t ++ ·)) else none

/-- The members of a set, each as a text, if there are at most ten. -/
def members? (s : CharSet) : Option (List Text) :=
  let count := s.ranges.foldl (fun n (first, last) => n + (last + 1 - first)) 0
  if count ≤ 10 then
    some (s.ranges.flatMap fun (first, last) =>
      (List.range (last + 1 - first)).map fun i => [Char.ofNat (first + i)])
  else none

/-- The texts of a listing one behind the other, a number of times. -/
def power? (ts : List Text) : Nat → Option (List Text)
  | 0 => some [[]]
  | n + 1 => do pairs? (← power? ts n) ts

/-- The texts that a pattern matches, those that are tried first in front, if they can be listed.
Where nothing matches, what stands behind it is not looked at, and a repetition is listed up to ten
times. -/
def listing? : Pattern → Option (List Text)
  | .empty => some [[]]
  | .atom (.text t) => short? [t]
  | .atom (.char s _) => members? s
  | .atom (.edge _) => none
  | .seq a b =>
    match listing? a with
    | none => none
    | some [] => some []
    | some ts => do pairs? ts (← listing? b)
  | .alt a b => do short? ((← listing? a) ++ (← listing? b))
  | .times a least most lazy =>
    match listing? a with
    | none => none
    | some [] => some (if least == 0 then [[]] else [])
    | some ts =>
      if least == 0 && most == some 1 then short? (if lazy then [] :: ts else ts ++ [[]])
      else if most == some least && least ≤ 10 then power? ts least
      else none
  | .group _ _ => none

/-! ### Searching without an automaton -/

/-- Whether a byte is rare in text. -/
def isRare (b : UInt8) : Bool :=
  b < 0x80 && !("\n\r (),-./0129:_abcdefghilmnoprstuvxy|".toUTF8.toList.contains b)

/-- The texts without those that begin with one in front of them, which are never matched. -/
def reachable (ts : List (List UInt8)) : List (List UInt8) :=
  (ts.foldl (fun kept t => if kept.any (·.isPrefixOf t) then kept else t :: kept) []).reverse

/-- The length of the front that all texts have in common. -/
def frontLength : List (List UInt8) → Nat
  | [] => 0
  | t :: ts =>
    ts.foldl (fun n u => min n ((t.zip u).takeWhile fun (a, b) => a == b).length) t.length

/-- The texts cut to a length, and then to the next one, until there are few enough of them for a
length. -/
def shortened : (cuts : List (Nat × Nat)) → List (List UInt8) → List (List UInt8)
  | [], ts => ts
  | (length, limit) :: cuts, ts =>
    if ts.length ≤ limit then ts else shortened cuts (reachable (ts.map (·.take length)))

/-- The lengths that texts are cut to, each with the number of texts that is not too many for it. -/
def cuts : List (Nat × Nat) :=
  [(5, 10), (4, 10), (3, 64), (2, 64), (1, 10)]

/-- Whether texts are searched for as a whole. They are not if their first bytes tell enough: a rare
byte that all begin with, a long front that they share, or few and long enough beginnings. -/
def areSought (ts : List (List UInt8)) : Bool :=
  let sought := reachable ts
  let front := frontLength sought
  if ts.any (·.isEmpty) then false
  else if ts.length > 1 && 1 ≤ front && front ≤ 3 && sought.any (·.head?.any isRare) then
    sought.all (·.length ≤ 1)
  else if front > 4 || (front > 1 && sought.length > 16) then sought.length == 1
  else
    let cut := shortened cuts sought
    !sought.isEmpty && (cut == sought || cut.any (·.length ≤ 2) || cut.length > 64)

/-- Whether a pattern matches a few texts that are searched for as they are. -/
def isListed (p : Pattern) : Bool :=
  p.isPlain && p.listing?.any fun ts => areSought (ts.map (·.flatMap String.utf8EncodeChar))

/-- The texts of a choice between texts. -/
def texts? : Pattern → Option (List Text)
  | .atom (.text t) => some [t]
  | .alt a b => do return (← texts? a) ++ (← texts? b)
  | _ => none

/-- Whether a pattern is a choice between at least 3000 texts. -/
def isWordList (p : Pattern) : Bool :=
  p.texts?.any fun ts => ts.length ≥ 3000

end Abridge.Pattern
