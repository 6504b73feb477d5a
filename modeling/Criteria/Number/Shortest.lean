import Criteria.Number.Decimal

/-! # The shortest decimal for a binary number

Among the decimal numbers that round to a given double, the one with the fewest digits is found on
the coarsest grid of multiples of a power of ten that meets the double's rounding interval. On that
grid only the two neighbours of the exact value have to be tried: the nearer one is taken, and of
two equally near ones the larger. All arithmetic is exact.
-/

namespace Criteria.Number

/-- The numbers that round to one double: from `low` to `high`, around `value`, all three in units
of `2 ^ exponent`. The ends belong to it only if it is `closed`. -/
structure RoundingInterval where
  low : Nat
  value : Nat
  high : Nat
  exponent : Int
  closed : Bool

/-- The number of fractions that the 52 low bits of a double tell apart. -/
def fractionRange : Nat :=
  Nat.pow 2 52

/-- The bits of positive infinity, above which there are only bits that are no number. -/
def infinityBits : Nat :=
  0x7FF * fractionRange

/-- The bit that makes a double negative. -/
def signBit : Nat :=
  Nat.pow 2 63

namespace RoundingInterval

/-- The rounding interval of the double whose bits, without the sign, are a positive number below
those of infinity. The gap below a power of two is half of the gap above it. -/
def ofMagnitude (bits : Nat) : RoundingInterval :=
  let fraction := bits % fractionRange
  let biased : Nat := bits / fractionRange
  let significand := if biased = 0 then fraction else fraction + fractionRange
  { low := 4 * significand - (if fraction = 0 ∧ 1 < biased then 1 else 2)
    value := 4 * significand
    high := 4 * significand + 2
    exponent := (max biased 1 : Nat) - 1077
    closed := significand % 2 = 0 }

/-- What one unit of the interval is multiplied by to compare it with multiples of `step`. -/
def scale (interval : RoundingInterval) (grid : Int) : Nat :=
  Nat.pow 2 interval.exponent.toNat * Nat.pow 10 (-grid).toNat

/-- The distance between neighbours on the grid of multiples of `10 ^ grid`, after scaling. -/
def step (interval : RoundingInterval) (grid : Int) : Nat :=
  Nat.pow 2 (-interval.exponent).toNat * Nat.pow 10 grid.toNat

/-- Whether `multiple · 10 ^ grid` rounds to the double. -/
def contains (interval : RoundingInterval) (grid : Int) (multiple : Nat) : Bool :=
  let point := multiple * interval.step grid
  let low := interval.low * interval.scale grid
  let high := interval.high * interval.scale grid
  if interval.closed then low ≤ point && point ≤ high else low < point && point < high

/-- The point of a grid that rounds to the double and is nearest to it. -/
def nearest? (interval : RoundingInterval) (grid : Int) : Option Nat :=
  let exact := interval.value * interval.scale grid
  let below := exact / interval.step grid
  let above := below + 1
  match interval.contains grid below, interval.contains grid above with
  | true, true => some (if 2 * (exact % interval.step grid) < interval.step grid then below else above)
  | true, false => some below
  | false, true => some above
  | false, false => none

/-- A power of ten that the double does not exceed, at most two above its first digit. -/
def topGrid (interval : RoundingInterval) : Int :=
  ((interval.value.log2 : Int) + 1 + interval.exponent) * 30103 / 100000 + 1

/-- The double itself, with all its digits. -/
def exact (interval : RoundingInterval) : Decimal :=
  { significand :=
      interval.value * Nat.pow 2 interval.exponent.toNat * Nat.pow 5 (-interval.exponent).toNat
    exponent := min interval.exponent 0 }

/-- The shortest decimal that rounds to the double. Seventeen digits are always enough, so the exact
value is never fallen back to. -/
def shortest (interval : RoundingInterval) : Decimal :=
  let hits := (List.range 20).findSome? fun below : Nat =>
    let grid := interval.topGrid - (below : Int)
    (interval.nearest? grid).map fun multiple => Decimal.mk multiple grid
  hits.getD interval.exact

end RoundingInterval

/-- A double in positional notation with the fewest digits that read back as the same double. -/
def floatText (value : Float) : String :=
  let bits := value.toBits.toNat
  let magnitude := bits % signBit
  let sign := if bits < signBit then "" else "-"
  if infinityBits < magnitude then "NaN"
  else if magnitude = infinityBits then sign ++ "inf"
  else if magnitude = 0 then sign ++ "0"
  else sign ++ (RoundingInterval.ofMagnitude magnitude).shortest.positional

end Criteria.Number
