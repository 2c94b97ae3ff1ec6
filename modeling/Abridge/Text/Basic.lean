/-!
Source text and byte offsets into it.

A text is the list of its characters, and a position in it is the number of UTF-8 bytes that stand
before it. `before` and `after` cut a text at an offset, rounded down to the end of a character, and
lose nothing (`before_append_after`); at a boundary the front part is exactly that many bytes long
(`size_before`). `slice` is the stretch between two boundaries, and empty where they are none.
-/
namespace Abridge

/-- Source text as its characters; positions are byte offsets of its UTF-8 form. -/
abbrev Text := List Char

namespace Text

/-- Length in UTF-8 bytes. -/
def size : Text → Nat
  | [] => 0
  | c :: t => c.utf8Size + size t

/-- The whole characters among the first `n` bytes. -/
def before : Text → Nat → Text
  | [], _ => []
  | c :: t, n => if c.utf8Size ≤ n then c :: before t (n - c.utf8Size) else []

/-- What is left of the text after `before`. -/
def after : Text → Nat → Text
  | [], _ => []
  | c :: t, n => if c.utf8Size ≤ n then after t (n - c.utf8Size) else c :: t

/-- Whether offset `n` lies in the text and between two of its characters. -/
def isBoundary (t : Text) (n : Nat) : Bool :=
  size (before t n) == n

/-- The text from `start` to `stop`, if both are boundaries in that order. -/
def slice? (t : Text) (start stop : Nat) : Option Text :=
  if start ≤ stop && t.isBoundary start && t.isBoundary stop then
    some (before (after t start) (stop - start))
  else
    none

/-- The text from `start` to `stop`, empty where `slice?` has none. -/
def slice (t : Text) (start stop : Nat) : Text :=
  (t.slice? start stop).getD []

/-! ### Cutting loses nothing -/

@[simp] theorem size_nil : size [] = 0 := rfl

@[simp] theorem size_cons (c : Char) (t : Text) : size (c :: t) = c.utf8Size + size t := rfl

@[simp] theorem size_append (s t : Text) : size (s ++ t) = size s + size t := by
  induction s with
  | nil => simp
  | cons c s ih => simp only [List.cons_append, size_cons, ih]; omega

@[simp] theorem before_append_after (t : Text) (n : Nat) : before t n ++ after t n = t := by
  induction t generalizing n with
  | nil => rfl
  | cons c t ih =>
    by_cases h : c.utf8Size ≤ n
    · simp [before, after, h, ih]
    · simp [before, after, h]

theorem size_before {t : Text} {n : Nat} (h : t.isBoundary n = true) : size (before t n) = n := by
  simpa [isBoundary] using h

end Text

end Abridge
