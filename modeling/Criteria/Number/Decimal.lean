/-! # Decimal numbers in positional notation

A decimal number is a natural number times a power of ten. It is written with all its digits and
never with an exponent: whole numbers without a point, fractions with at least one digit before it.
-/

namespace Criteria.Number

/-- The number `significand · 10 ^ exponent`. -/
structure Decimal where
  significand : Nat
  exponent : Int
deriving DecidableEq

namespace Decimal

/-- The digits of a decimal number, with zeros or a point where its power of ten puts them. -/
def positional (number : Decimal) : String :=
  let digits := Nat.toDigits 10 number.significand
  let places := (-number.exponent).toNat
  if places = 0 then
    String.ofList (digits ++ List.replicate number.exponent.toNat '0')
  else
    let padded := digits.leftpad (places + 1) '0'
    let whole := padded.length - places
    String.ofList (padded.take whole ++ '.' :: padded.drop whole)

end Decimal

end Criteria.Number
