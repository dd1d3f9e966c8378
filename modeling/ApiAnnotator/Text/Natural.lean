/-!
# Natural numbers in text

A natural number is written with decimal digits, and a plus sign may stand before them.
-/

namespace ApiAnnotator.Text

/-- The value of decimal digits, of which there must be at least one. -/
def digitsValue? (digits : List Char) : Option Nat :=
  if digits ≠ [] ∧ digits.all Char.isDigit then
    some (digits.foldl (fun n c => 10 * n + (c.toNat - '0'.toNat)) 0)
  else none

/-- The number that a text stands for, if that number is at most `limit`. -/
def natural? (limit : Nat) (s : String) : Option Nat :=
  let value := match s.toList with
    | '+' :: digits => digitsValue? digits
    | digits => digitsValue? digits
  value.filter (· ≤ limit)

end ApiAnnotator.Text
