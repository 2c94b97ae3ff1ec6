import Abridge.Budget.Amount
import Abridge.CharSet.Shorthand
import Abridge.Comment.Style
import Abridge.Text.Lines
import Abridge.Total

/-!
Placeholders: the comments that stand where something was taken out.

All of them begin with an ellipsis, by which they are known again. `omitted` and `more` say how many
things are missing, and `countElisions` adds these numbers up again from a text.
-/
namespace Abridge.Placeholder

/-- What every placeholder begins with. -/
def marker : Char := '…'

/-! ### Wording -/

/-- The plural of a noun. -/
def plural (noun : Text) : Text :=
  if noun.endsWith ['s'] || noun.endsWith ['s', 'h'] || noun.endsWith ['c', 'h'] then
    noun ++ ['e', 's']
  else if noun.endsWith ['y'] && !noun.endsWith ['e', 'y'] then noun.dropLast ++ ['i', 'e', 's']
  else noun ++ ['s']

/-- A number in decimal digits. -/
def decimal (n : Nat) : Text :=
  Nat.toDigits 10 n

/-- Says that some things of a sort are missing: `… comment omitted`, `… 3 comments omitted`. -/
def omitted (count : Nat) (noun : Text) : Text :=
  if count = 1 then [marker, ' '] ++ noun ++ " omitted".toList
  else [marker, ' '] ++ decimal count ++ [' '] ++ plural noun ++ " omitted".toList

/-- Says that a list goes on: `… 12 more`. -/
def more (count : Nat) : Text :=
  [marker, ' '] ++ decimal count ++ " more".toList

/-- Says how much of a string is missing: `… literal string (−40 tokens)`. -/
def literalString (saved : Nat) : Text :=
  [marker] ++ " literal string (−".toList ++ decimal saved ++ " tokens)".toList

/-! ### Recognition -/

/-- Whether a comment is a placeholder. -/
def isPlaceholder (style : CommentStyle) (comment : Text) : Bool :=
  (style.stripMarkers comment).head? == some marker

/-- Whether a text says that a list goes on, and nothing else. -/
def isMore (t : Text) : Bool :=
  match t.stripStart? [marker, ' '] with
  | none => false
  | some rest =>
    !(rest.takeWhile CharSet.digit.contains).isEmpty &&
      rest.dropWhile CharSet.digit.contains == " more".toList

/-- Whether a comment is the end of a list that was trimmed. -/
def isMoreMarker (style : CommentStyle) (comment : Text) : Bool :=
  isMore (style.stripMarkers comment)

/-- A text as a comment that ends at an offset: up to the end of the line if only blanks follow
there, and closing itself otherwise. There is none if the language cannot close a comment before
code. -/
def commentBefore? (lines : Lines) (style : CommentStyle) (offset : Nat) (t : Text) : Option Text :=
  if (lines.lineRest offset).isBlankText then some (style.lineComment t) else style.blockComment? t

/-! ### Counting -/

/-- What a placeholder reports: a number, if it gives one, and a noun. -/
structure Elision where
  count : Option Text
  noun : Text
  deriving DecidableEq, Repr

def isNounChar (c : Char) : Bool :=
  ('a' ≤ c && c ≤ 'z') || c == '_' || c == ' '

/-- The rest of a text behind the word that ends a placeholder. -/
def ending? (t : Text) : Option Text :=
  (t.stripStart? " omitted".toList).or (t.stripStart? " more".toList)

/-- The shortest noun that the end of a placeholder follows, with what comes behind it. -/
def noun? : Text → Option (Text × Text)
  | [] => none
  | c :: t =>
    if isNounChar c then
      match ending? t with
      | some rest => some ([c], rest)
      | none => (noun? t).map fun (noun, rest) => (c :: noun, rest)
    else none

/-- The placeholder that begins a text, with what comes behind it. -/
def elision? (t : Text) : Option (Elision × Text) :=
  (t.stripStart? [marker, ' ']).bind fun rest =>
    let digits := rest.takeWhile CharSet.digit.contains
    let numbered :=
      if digits.isEmpty then none
      else
        (Text.stripStart? (rest.dropWhile CharSet.digit.contains) [' ']).bind fun rest =>
          (noun? rest).map fun (noun, rest) => (⟨some digits, noun⟩, rest)
    numbered.or ((noun? rest).map fun (noun, rest) => (⟨none, noun⟩, rest))

/-- The placeholders of a text from left to right; `skip` characters of the last one are still to be
passed over. -/
def elisionsFrom : Nat → Text → List Elision
  | _, [] => []
  | skip + 1, _ :: t => elisionsFrom skip t
  | 0, c :: t =>
    match elision? (c :: t) with
    | some (e, rest) => e :: elisionsFrom (t.length - rest.length) t
    | none => elisionsFrom 0 t

/-- The number that a placeholder stands for; one if it gives none. -/
def Elision.amount (e : Elision) : Nat :=
  (e.count.bind Budget.natural?).getD 1

/-- How many things of a sort the placeholders of a text report missing. -/
def countElisions (t noun : Text) : Nat :=
  total (((elisionsFrom 0 t).filter fun e => e.noun == noun || e.noun == plural noun).map
    Elision.amount)

end Abridge.Placeholder
