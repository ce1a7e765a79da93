import Switchboard.Number.Binary

/-!
# Numerals

How whole and fractional numbers are written on a line. Whole numbers are digits with one
optional sign. Fractional numbers may have a point, with a digit on at least one of its sides,
and an exponent; the names of the infinities and of no number are read as well, in any case.
-/
namespace Switchboard.Number

/-- Whether a character is one of the ten decimal digits. -/
def isDigit (character : Char) : Bool := '0' ≤ character && character ≤ '9'

/-- The number that a run of digits writes. -/
def ofDigits (digits : List Char) : Nat :=
  digits.foldl (fun value digit => 10 * value + (digit.toNat - 48)) 0

/-- The number that a text of digits alone writes. -/
def readNatural (characters : List Char) : Option Nat :=
  if !characters.isEmpty && characters.all isDigit then some (ofDigits characters) else none

/-- The number that digits with one optional sign write. -/
def readInteger : List Char → Option Int
  | '+' :: digits => (readNatural digits).map Int.ofNat
  | '-' :: digits => (readNatural digits).map fun value => -Int.ofNat value
  | digits => (readNatural digits).map Int.ofNat

/-- The number that digits with an optional plus sign write. -/
def readUnsigned : List Char → Option Nat
  | '+' :: digits => readNatural digits
  | digits => readNatural digits

/-- A number in decimal form: `coefficient * 10 ^ exponent`. -/
structure Decimal where
  /-- The digits, without the point. -/
  coefficient : Nat
  /-- The power of ten of the last digit. -/
  exponent : Int
  deriving DecidableEq, Repr

/-- The exponent that the end of a numeral adds: none, or a marker and a whole number. -/
def readExponent : List Char → Option Int
  | [] => some 0
  | marker :: digits => if marker = 'e' ∨ marker = 'E' then readInteger digits else none

/-- The unsigned decimal number that a numeral writes. -/
def readDecimal (characters : List Char) : Option Decimal :=
  let whole := characters.takeWhile isDigit
  let (fraction, ending) := match characters.dropWhile isDigit with
    | '.' :: rest => (rest.takeWhile isDigit, rest.dropWhile isDigit)
    | rest => ([], rest)
  if whole.isEmpty && fraction.isEmpty then none
  else (readExponent ending).map fun exponent =>
    ⟨ofDigits (whole ++ fraction), exponent - fraction.length⟩

/-- A power of ten that no number of either format reaches, and whose inverse rounds to zero. -/
def decimalReach : Int := 400

/-- The number of a format nearest to a decimal number. Numbers out of reach are settled by
their size alone, so that a huge exponent costs nothing. -/
def Decimal.toBinary (format : BinaryFormat) (negative : Bool) (decimal : Decimal) : Binary :=
  let size : Int := (Nat.toDigits 10 decimal.coefficient).length + decimal.exponent
  if decimal.coefficient = 0 ∨ size < -decimalReach then
    .finite negative 0 format.leastExponent
  else if decimalReach < size then .infinite negative
  else if 0 ≤ decimal.exponent then
    .ofQuotient format negative (decimal.coefficient * tenTo decimal.exponent.toNat) 1
  else .ofQuotient format negative decimal.coefficient (tenTo (-decimal.exponent).toNat)

/-- The value of a numeral without its sign. -/
def readMagnitude (format : BinaryFormat) (negative : Bool) (characters : List Char) :
    Option Binary :=
  match readDecimal characters with
  | some decimal => some (decimal.toBinary format negative)
  | none =>
    let name := String.ofList (characters.map Char.toLower)
    if name = "inf" ∨ name = "infinity" then some (.infinite negative)
    else if name = "nan" then some .nan
    else none

/-- The value of a numeral in a format. -/
def readBinary (format : BinaryFormat) : List Char → Option Binary
  | '+' :: rest => readMagnitude format false rest
  | '-' :: rest => readMagnitude format true rest
  | rest => readMagnitude format false rest

end Switchboard.Number
