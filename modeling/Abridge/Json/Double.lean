/-!
Binary doubles: how decimals are read as doubles, and how doubles are written.

A decimal is read in steps that each round to the nearest double: its digits, then the product with
a power of ten or the quotients by powers of ten (`ofDecimal?`). A double is written with the fewest
digits that no other double is nearer to (`shortest`), positionally where its first digit stands
neither too high nor too low, and with an exponent elsewhere (`render`).
-/
namespace Abridge.Json

/-- The number `mantissa · 2 ^ exponent`. -/
structure Double where
  mantissa : Nat
  exponent : Int
  deriving DecidableEq, Repr

/-- The quotient rounded to the nearest integer, a half to the even one. -/
def roundDiv (num den : Nat) : Nat :=
  let q := num / den
  let r := num % den
  if 2 * r < den then q
  else if den < 2 * r then q + 1
  else if q % 2 = 0 then q
  else q + 1

/-- A power of two. -/
def twoTo (k : Nat) : Nat :=
  Nat.pow 2 k

/-- A power of ten. -/
def tenTo (k : Nat) : Nat :=
  Nat.pow 10 k

namespace Double

def zero : Double :=
  ⟨0, 0⟩

def isZero (x : Double) : Bool :=
  x.mantissa == 0

/-! ### Rounding -/

/-- The least exponent of a double. -/
def leastExponent : Int := -1074

/-- The fraction `num / den` over `2 ^ e`, as a numerator and a denominator. -/
def rescale (num den : Nat) (e : Int) : Nat × Nat :=
  (num * twoTo (-e).toNat, den * twoTo e.toNat)

/-- The double nearest to `num / den`, the even one of two that are as near. -/
def nearest (num den : Nat) : Double :=
  if num = 0 then zero
  else
    let guess : Int := (num.log2 : Int) - den.log2 - 53
    let (n, d) := rescale num den guess
    let e := max leastExponent (if twoTo 53 ≤ n / d then guess + 1 else guess)
    let (n, d) := rescale num den e
    let m := roundDiv n d
    if m = 0 then zero else ⟨m, e⟩

/-- A double as a fraction. -/
def fraction (x : Double) : Nat × Nat :=
  (x.mantissa * twoTo x.exponent.toNat, twoTo (-x.exponent).toNat)

/-- Whether a double is too large to be one. -/
def overflows (x : Double) : Bool :=
  twoTo 1024 ≤ x.fraction.1 / x.fraction.2

/-- The double nearest to a product. -/
def mul (x y : Double) : Double :=
  nearest (x.fraction.1 * y.fraction.1) (x.fraction.2 * y.fraction.2)

/-- The double nearest to a quotient. -/
def div (x y : Double) : Double :=
  nearest (x.fraction.1 * y.fraction.2) (x.fraction.2 * y.fraction.1)

/-! ### Reading decimals -/

/-- The greatest power of ten that is a double. -/
def greatestPower : Nat := 308

/-- The double nearest to a power of ten. -/
def powerOfTen (k : Nat) : Double :=
  nearest (tenTo k) 1

/-- Divides by a power of ten, by the greatest one as often as it takes. -/
def shrink (x : Double) (k : Nat) : Double :=
  if k ≤ greatestPower then x.div (powerOfTen k)
  else if x.isZero then zero
  else shrink (x.div (powerOfTen greatestPower)) (k - greatestPower)
termination_by k
decreasing_by simp only [greatestPower] at *; omega

/-- The double that `digits · 10 ^ exponent` is read as, unless that is out of range. -/
def ofDecimal? (digits : Nat) (exponent : Int) : Option Double :=
  let x := nearest digits 1
  if exponent < 0 then some (shrink x exponent.natAbs)
  else if x.isZero then some zero
  else if greatestPower < exponent.natAbs then none
  else
    let y := x.mul (powerOfTen exponent.natAbs)
    if y.overflows then none else some y

/-! ### Shortest digits -/

/-- The power of ten of the first digit of a positive fraction. -/
def magnitude (num den : Nat) : Int :=
  if den ≤ num then ((Nat.toDigits 10 (num / den)).length : Int) - 1
  else
    let l := (Nat.toDigits 10 (den / num)).length
    if den ≤ num * tenTo (l - 1) then 1 - (l : Int) else -(l : Int)

/-- The decimal with `count` digits nearest to a double, if it lies nearer to that double than to
any other. The fractions are taken over a common denominator: `(4 m ± 2) 2 ^ e` in quarters. -/
def withDigits? (x : Double) (count : Nat) : Option (Nat × Int) :=
  let (num, den) := x.fraction
  let k := magnitude num den - count + 1
  let up := tenTo k.toNat
  let down := tenTo (-k).toNat
  let unit := twoTo x.exponent.toNat
  let low := (if x.mantissa = twoTo 52 && x.exponent ≠ leastExponent then 1 else 2) * unit
  let fits (g : Nat) : Bool :=
    let point := 4 * g * up * den
    let lower := (4 * num - low) * down
    let upper := (4 * num + 2 * unit) * down
    if x.mantissa % 2 = 0 then lower ≤ point && point ≤ upper
    else lower < point && point < upper
  let g := num * down / (den * up)
  let far := num * down - g * den * up
  let near := (g + 1) * den * up - num * down
  let first := if near < far || (near == far && g % 2 = 1) then g + 1 else g
  let second := if first = g then g + 1 else g
  if fits first then some (first, k) else if fits second then some (second, k) else none

/-- The digits and the power of ten of the shortest decimal that stands for a double. A single digit
can round up to ten, which is one at the next power. -/
def shortest (x : Double) : Nat × Int :=
  if x.isZero then (0, 0)
  else
    match (List.range 17).findSome? fun n => withDigits? x (n + 1) with
    | some (10, k) => (1, k + 1)
    | some found => found
    | none => (x.mantissa, 0)

/-! ### Writing -/

/-- `digits · 10 ^ k` written positionally with a point. -/
def positional (digits : Nat) (k : Int) : List Char :=
  if 0 ≤ k then Nat.toDigits 10 (digits * tenTo k.toNat) ++ ['.', '0']
  else
    let places := (-k).toNat
    let whole := Nat.toDigits 10 (digits / tenTo places)
    let rest := Nat.toDigits 10 (digits % tenTo places)
    whole ++ ['.'] ++ List.replicate (places - rest.length) '0' ++ rest

/-- Digits with a point behind the first of them, if there are more, and the signed exponent of that
first one. -/
def scientific (digits : List Char) (first : Int) : List Char :=
  let fraction := if digits.length = 1 then [] else '.' :: digits.drop 1
  let sign := if first < 0 then '-' else '+'
  digits.take 1 ++ fraction ++ ['e', sign] ++ Nat.toDigits 10 first.natAbs

/-- A double in writing: positionally from `10 ^ -5` to below `10 ^ 16`. -/
def render (x : Double) : List Char :=
  let (n, k) := x.shortest
  let digits := Nat.toDigits 10 n
  let first := k + digits.length - 1
  if -5 ≤ first ∧ first ≤ 15 then positional n k else scientific digits first

end Double

end Abridge.Json
