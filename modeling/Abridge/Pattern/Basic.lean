import Abridge.CharSet.Basic
import Abridge.Text.Basic

/-!
Search patterns over text: texts, characters out of a set, edges, sequence, choice and repetition.

A pattern is matched from all places of a text at once. A set of places is a number whose bit `i`
says whether the place in front of character `i` is in it, so that reading one character is a mask
and a shift. `Pattern.ends` carries a set of places through a pattern, and a text matches if some
place is left when all of them are let in (`isMatch`).
-/
namespace Abridge

/-- What a word edge asks of the two sides of a place. -/
inductive WordEdge where
  | either
  | neither
  | start
  | stop
  | startHalf
  | stopHalf
  deriving DecidableEq, Repr

/-- Whether a place between two characters is such an edge, by whether each of them belongs to a
word. -/
def WordEdge.holds (before after : Bool) : WordEdge → Bool
  | .either => before != after
  | .neither => before == after
  | .start => !before && after
  | .stop => before && !after
  | .startHalf => !before
  | .stopHalf => !after

/-- A condition on the place between two characters. Where `returns` is set, a carriage return ends
a line as well, alone or with a line feed behind it. -/
inductive Edge where
  | textStart
  | textEnd
  | lineStart (returns : Bool)
  | lineEnd (returns : Bool)
  | word (edge : WordEdge) (letters : CharSet)
  deriving DecidableEq, Repr

/-- Whether an edge lies between two characters, of which the first or last may be missing. -/
def Edge.holds (before after : Option Char) : Edge → Bool
  | .textStart => before.isNone
  | .textEnd => after.isNone
  | .lineStart returns =>
    before.isNone || before == some '\n' || (returns && before == some '\r' && after != some '\n')
  | .lineEnd false => after.isNone || after == some '\n'
  | .lineEnd true =>
    after.isNone || after == some '\r' || (after == some '\n' && before != some '\r')
  | .word edge letters => edge.holds (before.any letters.contains) (after.any letters.contains)

/-- The form of a pattern over atoms. -/
inductive Shape (α : Type) where
  | empty
  | atom (a : α)
  | seq (first second : Shape α)
  | alt (left right : Shape α)
  /-- From `least` to `most` times the body, or any number of times from `least` on. Whether it is
  `lazy`, and so tries as few times as it can first, changes nothing about which texts match. -/
  | times (body : Shape α) (least : Nat) (most : Option Nat) (lazy : Bool)
  /-- A group that is counted, with its number; it matches what its body does. -/
  | group (number : Nat) (body : Shape α)
  deriving DecidableEq, Repr

def Shape.map {α β : Type} (f : α → β) : Shape α → Shape β
  | empty => empty
  | atom a => atom (f a)
  | seq a b => seq (a.map f) (b.map f)
  | alt a b => alt (a.map f) (b.map f)
  | times a least most lazy => times (a.map f) least most lazy
  | group number a => group number (a.map f)

/-- The smallest parts of a pattern. -/
inductive Atom where
  | text (t : Text)
  /-- A character of a set, which goes by Unicode or by ASCII. -/
  | char (set : CharSet) (unicode : Bool)
  | edge (e : Edge)
  deriving DecidableEq, Repr

/-- A search pattern. -/
abbrev Pattern := Shape Atom

/-! ### Sets of places -/

/-- A set of places in a text: bit `i` stands for the place in front of character `i`. -/
abbrev Places := Nat

namespace Places

/-- The places of a text that are flagged, in order. -/
def ofFlags (flags : List Bool) : Places :=
  flags.foldr (fun flag places => 2 * places + flag.toNat) 0

/-- The first `n` places. -/
def first (n : Nat) : Places :=
  (1 <<< n) - 1

/-- The places of the first set that are not in the second. -/
def without (s t : Places) : Places :=
  s ^^^ (s &&& t)

/-- What `n` steps lead to; it ends early when a step leads nowhere else. -/
def iterate (step : Places → Places) : Nat → Places → Places
  | 0, s => s
  | n + 1, s =>
    let next := step s
    if next == s then s else iterate step n next

/-- What at most `n` steps lead to, where `reached` has been reached and `front` of it last. -/
def spread (step : Places → Places) : Nat → (reached front : Places) → Places
  | 0, reached, _ => reached
  | n + 1, reached, front =>
    let fresh := without (step front) reached
    if fresh == 0 then reached else spread step n (reached ||| fresh) fresh

end Places

/-! ### Matching -/

/-- An atom laid over a text: the places from which it reads `length` characters, or at which it
holds. -/
inductive Track where
  | over (places : Places) (length : Nat)
  | at (places : Places)

/-- The characters on both sides of every place of a text. -/
def sides (t : Text) : List (Option Char × Option Char) :=
  (none :: t.map some).zip (t.map some ++ [none])

/-- Of every place in a text, whether another text begins there. -/
def begins (s : Text) : Text → List Bool
  | [] => [s.isEmpty]
  | c :: rest => s.isPrefixOf (c :: rest) :: begins s rest

def Atom.track (t : Text) : Atom → Track
  | .text s => .over (.ofFlags (begins s t)) s.length
  | .char set _ => .over (.ofFlags (t.map set.contains)) 1
  | .edge e => .at (.ofFlags ((sides t).map fun (before, after) => e.holds before after))

/-- The places where a pattern can end that starts at one of `s`; the text has `width` places. -/
def Shape.ends (width : Nat) : Shape Track → Places → Places
  | empty, s => s
  | atom (.over places length), s => (s &&& places) <<< length
  | atom (.at places), s => s &&& places
  | seq a b, s => ends width b (ends width a s)
  | alt a b, s => ends width a s ||| ends width b s
  | times a least most _, s =>
    let s := Places.iterate (ends width a) least s
    Places.spread (ends width a) (most.elim width (· - least)) s s
  | group _ a, s => ends width a s

namespace Pattern

/-- The places of a text where a pattern can end that starts at one of `s`. -/
def ends (p : Pattern) (t : Text) (s : Places) : Places :=
  (p.map (Atom.track t)).ends (t.length + 1) s

/-- Whether a pattern matches somewhere in a text. -/
def isMatch (p : Pattern) (t : Text) : Bool :=
  p.ends t (.first (t.length + 1)) != 0

/-- Whether one of the patterns matches. -/
def anyMatch (patterns : List Pattern) (t : Text) : Bool :=
  patterns.any fun p => p.isMatch t

end Pattern

end Abridge
