import Switchboard.Number.Numeral

/-!
# Whole numbers in a base

Whole numbers are written in base ten, or in another base after a zero and a letter that names
it. Digits after a zero alone write no number.
-/
namespace Switchboard.Number

/-- The value of a hexadecimal digit. -/
def hexValue? (digit : Char) : Option Nat :=
  if '0' ≤ digit ∧ digit ≤ '9' then some (digit.toNat - 48)
  else if 'a' ≤ digit ∧ digit ≤ 'f' then some (digit.toNat - 87)
  else if 'A' ≤ digit ∧ digit ≤ 'F' then some (digit.toNat - 55)
  else none

/-- The number that digits write in a base. -/
def readDigits (base : Nat) (digits : List Char) : Option Nat := do
  let values ← digits.mapM hexValue?
  if values.isEmpty || values.any (base ≤ ·) then none
  else some (values.foldl (fun number value => base * number + value) 0)

/-- The whole number that a numeral without a sign writes. -/
def readBased : List Char → Option Nat
  | '0' :: 'x' :: digits => readDigits 16 digits
  | '0' :: 'o' :: digits => readDigits 8 digits
  | '0' :: 'b' :: digits => readDigits 2 digits
  | '0' :: _ :: _ => none
  | digits => readNatural digits

/-- Whether a numeral has a minus sign, and the whole number that it writes without its sign. -/
def readSigned : List Char → Option (Bool × Nat)
  | '-' :: rest => (readBased rest).map (true, ·)
  | '+' :: rest => (readBased rest).map (false, ·)
  | rest => (readBased rest).map (false, ·)

/-- Whether a numeral is digits after a zero, with or without a sign. -/
def isPadded (characters : List Char) : Bool :=
  let signed := ['+', '-'].contains (characters.headD ' ')
  match if signed then characters.drop 1 else characters with
  | '0' :: digit :: rest => (digit :: rest).all isDigit
  | _ => false

/-- Whether a whole number fits in a count of bits, of which a negative one gives up one. -/
def fitsIn (bits : Nat) (negative : Bool) (size : Nat) : Bool :=
  if negative then size ≤ twoTo (bits - 1) else size < twoTo bits

end Switchboard.Number
