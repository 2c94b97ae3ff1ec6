import Abridge.Text.Basic

/-!
Looking for one text in another, and cutting a text at a character or at a pattern.
-/
namespace Abridge.Text

/-- Whether `t` begins with `lead`. -/
def startsWith (t lead : Text) : Bool :=
  lead.isPrefixOf t

/-- Whether `t` ends with `tail`. -/
def endsWith (t tail : Text) : Bool :=
  tail.isSuffixOf t

/-- The rest of `t` behind `lead`, if it begins with it. -/
def stripStart? (t lead : Text) : Option Text :=
  lead.isPrefixOf? t

/-- Whether `part` stands somewhere in `t`. -/
def occurs (part : Text) : Text → Bool
  | [] => part.isEmpty
  | c :: t => part.isPrefixOf (c :: t) || occurs part t

/-- The text in front of the first `mark`, or all of it where there is none. -/
def upTo (mark : Text) : Text → Text
  | [] => []
  | c :: t => if mark.isPrefixOf (c :: t) then [] else c :: upTo mark t

/-- Drops every occurrence of `part`, from left to right and without overlap; `skip` characters of
the occurrence at hand are still to be dropped. -/
def eraseFrom (part : Text) : Nat → Text → Text
  | _, [] => []
  | skip + 1, _ :: t => eraseFrom part skip t
  | 0, c :: t =>
    if part.isPrefixOf (c :: t) then eraseFrom part (part.length - 1) t
    else c :: eraseFrom part 0 t

/-- The text without any occurrence of `part`. -/
def erase (t part : Text) : Text :=
  if part.isEmpty then t else eraseFrom part 0 t

/-- The pieces between the characters that `isBreak` picks: one more than there are breaks. -/
def splitAt (isBreak : Char → Bool) : Text → List Text
  | [] => [[]]
  | c :: t =>
    if isBreak c then [] :: splitAt isBreak t
    else
      match splitAt isBreak t with
      | [] => [[c]]
      | piece :: rest => (c :: piece) :: rest

/-- The pieces between two `sep`. -/
def split (sep : Char) (t : Text) : List Text :=
  splitAt (· == sep) t

/-- The texts one after the other, with `sep` between two neighbours. -/
def join (sep : Text) : List Text → Text
  | [] => []
  | [t] => t
  | t :: rest => t ++ sep ++ join sep rest

/-- The text without the characters that `p` picks at its end. -/
def dropEndWhile (p : Char → Bool) (t : Text) : Text :=
  (t.reverse.dropWhile p).reverse

end Abridge.Text
