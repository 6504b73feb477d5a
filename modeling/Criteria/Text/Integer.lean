/-! # Integers in decimal

A 64-bit integer is written as an optional sign and at least one ASCII digit; leading zeros are
allowed, and a number outside the 64-bit range is no integer at all.
-/

namespace Criteria.Text

/-- The number that a non-empty run of ASCII digits denotes. -/
def natural? (digits : List Char) : Option Nat :=
  if digits ≠ [] ∧ digits.all Char.isDigit then
    some (digits.foldl (fun value digit => 10 * value + (digit.toNat - '0'.toNat)) 0)
  else
    none

/-- The number that digits after at most one sign denote. -/
def integer? : List Char → Option Int
  | '+' :: digits => (natural? digits).map Int.ofNat
  | '-' :: digits => (natural? digits).map fun value => -Int.ofNat value
  | digits => (natural? digits).map Int.ofNat

/-- The 64-bit integer that a text denotes. -/
def int64? (text : String) : Option Int64 :=
  (integer? text.toList).bind fun value =>
    if Int64.minValue.toInt ≤ value ∧ value ≤ Int64.maxValue.toInt then
      some (Int64.ofInt value)
    else
      none

end Criteria.Text
