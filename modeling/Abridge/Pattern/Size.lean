import Abridge.Pattern.Automaton
import Abridge.Pattern.Listing

/-!
How large a pattern is. The measure is the room of an automaton for it. A pattern fits (`fits`) if
there is room for the automaton that reads forwards and for the one that reads backwards, or if it
needs none.
-/
namespace Abridge.Pattern

/-! ### What patterns read -/

/-- Whether a set without members stands somewhere in a pattern. -/
def hasEmptySet : Pattern → Bool
  | .empty => false
  | .atom (.char set _) => set.bounds.isEmpty
  | .atom _ => false
  | .seq a b => hasEmptySet a || hasEmptySet b
  | .alt a b => hasEmptySet a || hasEmptySet b
  | .times a _ _ _ => hasEmptySet a
  | .group _ a => hasEmptySet a

/-- Whether a pattern can match the empty text. -/
def canBeEmpty : Pattern → Bool
  | .empty => true
  | .atom (.edge _) => true
  | .atom _ => false
  | .seq a b => canBeEmpty a && canBeEmpty b
  | .alt a b => canBeEmpty a || canBeEmpty b
  | .times a least _ _ => least == 0 || canBeEmpty a
  | .group _ a => canBeEmpty a

/-- Whether a pattern matches at the start of a text only, or at its end only, by what stands at its
own start or end. -/
def isAnchored (direction : Direction) : Pattern → Bool
  | .empty => false
  | .atom (.edge .textStart) => direction == .forwards
  | .atom (.edge .textEnd) => direction == .backwards
  | .atom _ => false
  | .seq a b =>
    match direction with
    | .forwards => isAnchored direction a || (isAlwaysEmpty a && isAnchored direction b)
    | .backwards => isAnchored direction b || (isAlwaysEmpty b && isAnchored direction a)
  | .alt a b => isAnchored direction a && isAnchored direction b
  | .times a least _ _ => least != 0 && isAnchored direction a
  | .group _ a => isAnchored direction a

/-! ### The automaton of a pattern -/

open Step

/-- The states of an atom. -/
def atomStep (direction : Direction) : Atom → Step
  | .text t => copies (t.flatMap String.utf8EncodeChar).length state
  | .char s _ => set direction s
  | .edge _ => state

/-- The states of a repetition whose body has the states `body` and can be left without reading
anything if `nullable`. -/
def timesStep (body : Step) (nullable : Bool) : Nat → Option Nat → Step
  | 0, some 1 => all [fork 2, body, state]
  | 0, none => if nullable then all [body, fork 2, fork 2, state] else all [fork 2, body]
  | least, none => all [copies least body, fork 2]
  | least, some most =>
    let front := if least == 0 then state else copies least body
    if least == most then front else all [front, state, copies (most - least) (all [fork 2, body])]

/-- The states of a choice whose ways have the states `ways`. -/
def choiceStep (ways : List Step) : Step :=
  match ways with
  | [] => all []
  | [way] => way
  | first :: second :: rest => all (first :: second :: fork ways.length :: state :: rest)

/-- The states of a pattern, where `steps` are those of its parts if it is a sequence, those of its
ways if it is a choice, and else its own. -/
def joinSteps (direction : Direction) (p : Pattern) (steps : List Step) : Step :=
  match p with
  | .alt _ _ =>
    match texts? p with
    | some ts => texts direction ts
    | none => choiceStep steps
  | _ =>
    match direction with
    | .forwards => all steps
    | .backwards => all steps.reverse

/-- The states of the parts of a sequence, of the ways of a choice, or of any other pattern. -/
def steps (direction : Direction) : Pattern → List Step
  | .empty => [state]
  | .atom a => [atomStep direction a]
  | .seq a b =>
    let rest := steps direction b
    joinSteps direction a (steps direction a) ::
      match b with
      | .seq _ _ => rest
      | _ => [joinSteps direction b rest]
  | .alt a b =>
    let rest := steps direction b
    joinSteps direction a (steps direction a) ::
      match b with
      | .alt _ _ => rest
      | _ => [joinSteps direction b rest]
  | .times a least most _ =>
    [timesStep (joinSteps direction a (steps direction a)) (hasEmptySet a || canBeEmpty a)
      least most]
  | .group _ a =>
    let body := joinSteps direction a (steps direction a)
    match direction with
    | .forwards => [all [state, body, state]]
    | .backwards => [body]

/-- The automaton of a pattern. In front stands a loop over all bytes, unless the pattern says where
it matches, and at the end a state for the match; forwards there is a group around the pattern. -/
def automaton? (p : Pattern) (direction : Direction) : Option Automaton :=
  let front := if p.isAnchored direction then state
    else all [fork 2, state, fun a => a.add (Automaton.byteWays 1)]
  let body := joinSteps direction p (p.steps direction)
  let body := match direction with
    | .forwards => all [state, body, state]
    | .backwards => body
  all [front, body, state] {}

/-- Whether a pattern is not too large. -/
def fits (p : Pattern) : Bool :=
  p.isListed || p.isWordList ||
    ((p.automaton? .forwards).isSome && (p.automaton? .backwards).isSome)

end Abridge.Pattern
