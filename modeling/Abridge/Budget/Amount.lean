import Abridge.Error
import Abridge.Text.Blank
import Abridge.Text.Digits

/-!
Numbers of tokens as people write them: `4000`, `8k`, `1M`.
-/
namespace Abridge.Budget

/-- Counts are kept in 64 bits. -/
def countLimit : Nat := 18446744073709551616

/-- The number that ASCII digits write down, with or without a plus, if it is below the limit. -/
def natural? (t : Text) : Option Nat :=
  let digits := match t with
    | '+' :: rest => rest
    | _ => t
  if digits.isEmpty || !digits.all Char.isDigit then none
  else
    let n := Text.number digits
    if n < countLimit then some n else none

/-- The digits of an amount and the factor that its last letter stands for. -/
def factored (t : Text) : Text × Nat :=
  match t.getLast? with
  | some c =>
    if c == 'k' || c == 'K' then (t.dropLast, 1000)
    else if c == 'm' || c == 'M' then (t.dropLast, 1000000)
    else (t, 1)
  | none => (t, 1)

/-- The number of tokens that a text writes down, blanks around it aside: digits, then perhaps `k`
for thousands or `m` for millions, in either case. -/
def amount (text : Text) : Except BudgetError Nat :=
  let t := text.trim
  if t.isEmpty then .error .empty
  else
    let (digits, factor) := factored t
    match natural? digits.trim with
    | some n => if n * factor < countLimit then .ok (n * factor) else .error (.invalid t)
    | none => .error (.invalid t)

end Abridge.Budget
