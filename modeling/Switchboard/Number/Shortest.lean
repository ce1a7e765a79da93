import Switchboard.Number.Numeral

/-!
# Shortest decimal form

A floating point number is written with the fewest digits that are still read back as that
number. All decimals between the two midpoints to its neighbours are read back as it; the
midpoints themselves are when its significand is even. The search goes from coarse powers of
ten to fine ones and takes the first of which a multiple lies there, the nearer of two.
-/
namespace Switchboard.Number

/-- The decimals that are read back as one positive number, in units of `1 / denominator`. -/
structure ReadingInterval where
  /-- The midpoint below. -/
  lower : Nat
  /-- The number itself. -/
  value : Nat
  /-- The midpoint above. -/
  upper : Nat
  /-- What the other numbers are counted in. -/
  denominator : Nat
  /-- Whether the midpoints are read back as the number too. -/
  closed : Bool

namespace ReadingInterval

/-- The interval of `significand * 2 ^ exponent`. Below a power of two the neighbour is only half
as far away as above it. -/
def around (format : BinaryFormat) (significand : Nat) (exponent : Int) : ReadingInterval :=
  let narrow := significand = twoTo (format.precision - 1) ∧ format.leastExponent < exponent
  let scale : Int := exponent - 2
  let factor := if 0 ≤ scale then twoTo scale.toNat else 1
  { lower := (4 * significand - (if narrow then 1 else 2)) * factor
    value := 4 * significand * factor
    upper := (4 * significand + 2) * factor
    denominator := if 0 ≤ scale then 1 else twoTo (-scale).toNat
    closed := significand % 2 == 0 }

/-- Whether `numerator / denominator` of the given numbers lies in the interval. -/
def includes (interval : ReadingInterval) (numerator denominator : Nat) : Bool :=
  let point := numerator * interval.denominator
  if interval.closed then
    interval.lower * denominator ≤ point && point ≤ interval.upper * denominator
  else interval.lower * denominator < point && point < interval.upper * denominator

/-- The multiple of `10 ^ exponent` in the interval that is nearest to the number, if there is
one; a tie goes to the even multiple. -/
def multiple? (interval : ReadingInterval) (exponent : Int) : Option Nat :=
  let up := if 0 ≤ exponent then tenTo exponent.toNat else 1
  let down := if 0 ≤ exponent then 1 else tenTo (-exponent).toNat
  let top := interval.value * down
  let bottom := interval.denominator * up
  let floor := top / bottom
  let below := interval.includes (floor * up) down
  let above := interval.includes ((floor + 1) * up) down
  if below && above then some (Binary.nearestQuotient top bottom)
  else if below then some floor
  else if above then some (floor + 1)
  else none

/-- The first decimal found in the interval when `steps` powers of ten are tried, each a tenth of
the one before. -/
def search (interval : ReadingInterval) : Nat → Int → Option Decimal
  | 0, _ => none
  | steps + 1, exponent => match interval.multiple? exponent with
    | some coefficient => some ⟨coefficient, exponent⟩
    | none => interval.search steps (exponent - 1)

end ReadingInterval

/-- A power of ten that is not below a power of two: `2 ^ 93` is below `10 ^ 28`, and `10 ^ 3` below
`2 ^ 10`. -/
def powerAbove (exponent : Int) : Int :=
  if 0 ≤ exponent then 28 * exponent / 93 + 1 else -(3 * -exponent / 10)

/-- The shortest decimal that is read back as `significand * 2 ^ exponent`. The search starts above
the number and ends at the power of ten of which the number itself is a multiple. -/
def shortest (format : BinaryFormat) (significand : Nat) (exponent : Int) : Option Decimal :=
  let interval := ReadingInterval.around format significand exponent
  let start := powerAbove (significand.log2 + 1 + exponent)
  let finish := min (exponent - 2) 0
  interval.search (start - finish + 1).toNat start

end Switchboard.Number
