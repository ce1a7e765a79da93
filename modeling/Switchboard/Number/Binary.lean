/-!
# Binary floating point numbers

A number field of a record holds a binary floating point number of one of two formats. The
values here are exact: a finite number is a sign, a whole significand and a power of two, so a
decimal numeral can be rounded to the nearest number and written back without an approximation
on the way.
-/
namespace Switchboard.Number

/-- A power of two. -/
def twoTo (exponent : Nat) : Nat := Nat.pow 2 exponent

/-- A power of ten. -/
def tenTo (exponent : Nat) : Nat := Nat.pow 10 exponent

/-- The two interchange formats, of 32 and of 64 bits. -/
inductive BinaryFormat where
  | single
  | double
  deriving DecidableEq, Repr

namespace BinaryFormat

/-- Length of the significand in bits, the leading bit included. -/
def precision : BinaryFormat → Nat
  | single => 24
  | double => 53

/-- Length of the exponent field in bits. -/
def exponentBits : BinaryFormat → Nat
  | single => 8
  | double => 11

/-- Exponent of the last place of the smallest numbers. -/
def leastExponent : BinaryFormat → Int
  | single => -149
  | double => -1074

/-- Exponent of the last place of the largest numbers. -/
def greatestExponent : BinaryFormat → Int
  | single => 104
  | double => 971

/-- Length of the whole encoding in bits. -/
def width (format : BinaryFormat) : Nat := format.exponentBits + format.precision

end BinaryFormat

/-- A floating point value; a finite one is `significand * 2 ^ exponent` with its sign. -/
inductive Binary where
  | nan
  | infinite (negative : Bool)
  | finite (negative : Bool) (significand : Nat) (exponent : Int)
  deriving DecidableEq, Repr

namespace Binary

/-- The whole number nearest to a quotient; a half goes to the even neighbour. -/
def nearestQuotient (numerator denominator : Nat) : Nat :=
  let floor := numerator / denominator
  let twice := 2 * (numerator % denominator)
  if twice < denominator then floor
  else if denominator < twice then floor + 1
  else if floor % 2 == 0 then floor else floor + 1

/-- `numerator / denominator` counted in units of `2 ^ exponent`, as a quotient. -/
def inUnits (numerator denominator : Nat) (exponent : Int) : Nat × Nat :=
  if 0 ≤ exponent then (numerator, denominator * twoTo exponent.toNat)
  else (numerator * twoTo (-exponent).toNat, denominator)

/-- Exponent of the last place in which a positive quotient is rounded: the one that gives it a
full significand, or the least one of the format. -/
def lastPlace (format : BinaryFormat) (numerator denominator : Nat) : Int :=
  let guess : Int := (numerator.log2 : Int) - denominator.log2 - format.precision
  let (top, bottom) := inUnits numerator denominator guess
  let exact := if twoTo format.precision ≤ top / bottom then guess + 1 else guess
  max exact format.leastExponent

/-- The number of a format nearest to a quotient of positive numbers, a half going to the even
significand; a quotient beyond the largest number is infinite. -/
def ofQuotient (format : BinaryFormat) (negative : Bool) (numerator denominator : Nat) : Binary :=
  let place := lastPlace format numerator denominator
  let (top, bottom) := inUnits numerator denominator place
  let rounded := nearestQuotient top bottom
  let (significand, exponent) :=
    if rounded = twoTo format.precision then (twoTo (format.precision - 1), place + 1)
    else (rounded, place)
  if format.greatestExponent < exponent then infinite negative
  else finite negative significand exponent

/-- The sign bit of a value, in place. -/
def signBit (format : BinaryFormat) (negative : Bool) : Nat :=
  if negative then twoTo (format.width - 1) else 0

/-- An exponent field, in place. -/
def exponentField (format : BinaryFormat) (field : Nat) : Nat :=
  field * twoTo (format.precision - 1)

/-- The encoding of a value of a format, as a number. -/
def bits (format : BinaryFormat) : Binary → Nat
  | nan => exponentField format (twoTo format.exponentBits - 1) + twoTo (format.precision - 2)
  | infinite negative =>
    signBit format negative + exponentField format (twoTo format.exponentBits - 1)
  | finite negative significand exponent =>
    let field := if significand < twoTo (format.precision - 1) then 0
      else (exponent - format.leastExponent).toNat
    signBit format negative + exponentField format field + significand

end Binary

end Switchboard.Number
