import Abridge.Pattern.Basic

/-!
Putting patterns together. Patterns are kept in a normal form, which is what the functions here
build. A sequence is a list of parts (`parts`), none of them empty or a sequence, and no two texts
side by side (`ofParts`). A choice is a list of choices (`choices`), none of them a choice, and not
all of them characters; if all are sequences, what they have in common at their front stands in
front of the choice (`ofChoices`). A repetition is no plain count of one (`repeated`).
-/
namespace Abridge.Pattern

/-! ### Sequences -/

/-- The parts of a pattern as a sequence. -/
def parts : Pattern → List Pattern
  | .empty => []
  | .seq a b => a :: parts b
  | p => [p]

/-- A part in front of a pattern; texts side by side become one. -/
def link : Pattern → Pattern → Pattern
  | p, .empty => p
  | .atom (.text s), .atom (.text t) => .atom (.text (s ++ t))
  | .atom (.text s), .seq (.atom (.text t)) rest => .seq (.atom (.text (s ++ t))) rest
  | p, q => .seq p q

/-- The sequence of some patterns. -/
def ofParts (ps : List Pattern) : Pattern :=
  (ps.flatMap parts).foldr link .empty

/-! ### Sets -/

/-- A character of a set. A set with one member is a text. -/
def ofSet (unicode : Bool) (s : CharSet) : Pattern :=
  let s := s.inter .characters
  match s.bounds with
  | [] => .atom (.char .empty false)
  | [first, stop] =>
    if stop == first + 1 then .atom (.text [Char.ofNat first]) else .atom (.char s unicode)
  | _ => .atom (.char s unicode)

/-- The only character of a pattern that is a text of one. -/
def onlyChar? : Pattern → Option Char
  | .atom (.text [c]) => some c
  | _ => none

/-- The set of a pattern that is one. -/
def set? : Pattern → Option CharSet
  | .atom (.char s _) => some s
  | _ => none

/-! ### Choices -/

/-- The choices of a pattern. -/
def choices : Pattern → List Pattern
  | .alt a b => a :: choices b
  | p => [p]

/-- The front that two lists have in common. -/
def commonFront : List Pattern → List Pattern → List Pattern
  | p :: ps, q :: qs => if p = q then p :: commonFront ps qs else []
  | _, _ => []

/-- The front that some sequences have in common; patterns that are no sequences have none. -/
def sharedFront : List Pattern → List Pattern
  | .seq a b :: rest =>
    rest.foldl (fun front p =>
      match p with
      | .seq _ _ => commonFront front p.parts
      | _ => []) (Pattern.parts (.seq a b))
  | _ => []

/-- A choice that is not looked into further. -/
def alternatives : List Pattern → Pattern
  | [] => ofSet true .empty
  | [p] => p
  | p :: ps => .alt p (alternatives ps)

/-- A choice between patterns that are none themselves; a common front is taken out at most `fronts`
times. -/
def choose : (fronts : Nat) → List Pattern → Pattern
  | _, [p] => p
  | fronts, ps =>
    match ps.mapM onlyChar?, ps.mapM set?, fronts, sharedFront ps with
    | some cs, _, _, _ => ofSet true (.ofCodes (cs.map Char.toNat))
    | none, some sets, _, _ => ofSet true (.unions sets)
    | none, none, fronts + 1, p :: front =>
      let rests := ps.map fun q => ofParts (q.parts.drop (front.length + 1))
      ofParts (p :: front ++ [choose fronts (rests.flatMap choices)])
    | none, none, _, _ => alternatives ps

/-- How many patterns a pattern is put together from, itself one of them. -/
def size : Pattern → Nat
  | .seq a b => size a + size b + 1
  | .alt a b => size a + size b + 1
  | .times a _ _ _ => size a + 1
  | .group _ a => size a + 1
  | _ => 1

/-- The choice between some patterns. A front is taken out of smaller patterns every time. -/
def ofChoices (ps : List Pattern) : Pattern :=
  let ps := ps.flatMap choices
  choose (ps.foldl (fun n p => n + size p) 0) ps

/-! ### Repetition -/

/-- Whether a pattern can match nothing but the empty text. -/
def isAlwaysEmpty : Pattern → Bool
  | .empty => true
  | .atom (.edge _) => true
  | .atom _ => false
  | .seq a b => isAlwaysEmpty a && isAlwaysEmpty b
  | .alt a b => isAlwaysEmpty a && isAlwaysEmpty b
  | .times a _ _ _ => isAlwaysEmpty a
  | .group _ a => isAlwaysEmpty a

/-- A pattern a number of times. What matches nothing but the empty text need not come again. -/
def repeated (p : Pattern) (least : Nat) (most : Option Nat) (lazy : Bool) : Pattern :=
  let (least, most) :=
    if p.isAlwaysEmpty then (min least 1, some (most.elim 1 (min 1))) else (least, most)
  if least == 0 && most == some 0 then .empty
  else if least == 1 && most == some 1 then p
  else .times p least most lazy

end Abridge.Pattern
