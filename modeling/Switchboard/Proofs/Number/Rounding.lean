import Mathlib.Data.Rat.Cast.Order
import Mathlib.Tactic.NormNum
import Switchboard.Number.Numeral
/-!
# The numbers of a format

Whatever a numeral writes, the value that is read is one of the format (`readBinary_fits`): its
significand is within the precision, and its last place is one that the format has. The place of the
last digit is found from the lengths of numerator and denominator, which are off by one at most; so
the quotient always lies below the first power of two out of reach (`lt_lastPlace`), and rounding it
can at most reach that power.
-/
namespace Switchboard.Number

namespace Binary

/-- A value of a format: a finite one has a significand within the precision and an exponent of the
format. -/
def Fits (format : BinaryFormat) : Binary → Prop
  | nan => True
  | infinite _ => True
  | finite _ significand exponent => significand < twoTo format.precision ∧
      format.leastExponent ≤ exponent ∧ exponent ≤ format.greatestExponent

/-! ## Quotients in units -/

/-- A power of two is positive. -/
theorem twoTo_pos (exponent : Nat) : 0 < twoTo exponent := Nat.two_pow_pos exponent

/-- A power of two among the rational numbers. -/
theorem twoTo_cast (exponent : Nat) : (twoTo exponent : ℚ) = 2 ^ (exponent : ℤ) := by
  rw [zpow_natCast, twoTo]
  exact Nat.cast_pow 2 exponent

/-- Counting in units divides by the unit. -/
theorem inUnits_value (numerator denominator : Nat) (exponent : Int) :
    ((inUnits numerator denominator exponent).1 : ℚ) / (inUnits numerator denominator exponent).2 =
      numerator / denominator / 2 ^ exponent := by
  unfold inUnits
  by_cases whole : 0 ≤ exponent
  · have size : ((exponent.toNat : Nat) : ℤ) = exponent := Int.toNat_of_nonneg whole
    rw [if_pos whole, Nat.cast_mul, twoTo_cast, size, div_div]
  · have size : (((-exponent).toNat : Nat) : ℤ) = -exponent :=
      Int.toNat_of_nonneg (by omega)
    have unit : (numerator : ℚ) / denominator / 2 ^ exponent =
        numerator / denominator * (2 ^ exponent)⁻¹ := div_eq_mul_inv _ _
    rw [if_neg whole, Nat.cast_mul, twoTo_cast, size, zpow_neg, unit, div_mul_eq_mul_div]

/-- The denominator stays positive in any unit. -/
theorem inUnits_pos (numerator : Nat) {denominator : Nat} (positive : 0 < denominator)
    (exponent : Int) : 0 < (inUnits numerator denominator exponent).2 := by
  unfold inUnits
  by_cases whole : 0 ≤ exponent
  · rw [if_pos whole]
    exact Nat.mul_pos positive (twoTo_pos _)
  · rw [if_neg whole]
    exact positive

/-- A quotient in units is within a length exactly when it lies below the unit that many places
up. -/
theorem inUnits_lt_iff (numerator : Nat) {denominator : Nat} (positive : 0 < denominator)
    (exponent : Int) (length : Nat) :
    (inUnits numerator denominator exponent).1 / (inUnits numerator denominator exponent).2 <
        twoTo length ↔ (numerator : ℚ) / denominator < 2 ^ (exponent + length) := by
  have below := inUnits_pos numerator positive exponent
  have value := inUnits_value numerator denominator exponent
  generalize inUnits numerator denominator exponent = units at below value
  have bottom : (0 : ℚ) < units.2 := Nat.cast_pos.mpr below
  have unit : (0 : ℚ) < 2 ^ exponent := zpow_pos two_pos exponent
  rw [Nat.div_lt_iff_lt_mul below, ← Nat.cast_lt (α := ℚ), Nat.cast_mul, twoTo_cast,
    ← div_lt_iff₀ bottom, value, div_lt_iff₀ unit, ← zpow_add₀ two_ne_zero, add_comm]

/-! ## Rounding -/

/-- The nearest whole number is the one below or the one above. -/
theorem nearestQuotient_le (numerator denominator : Nat) :
    nearestQuotient numerator denominator ≤ numerator / denominator + 1 := by
  unfold nearestQuotient
  grind

/-- The last place is none below the least of the format. -/
theorem leastExponent_le_lastPlace (format : BinaryFormat) (numerator denominator : Nat) :
    format.leastExponent ≤ lastPlace format numerator denominator := le_max_right _ _

/-- A quotient has no more digits above its last place than the precision. -/
theorem lt_lastPlace (format : BinaryFormat) (numerator : Nat) {denominator : Nat}
    (positive : 0 < denominator) : (numerator : ℚ) / denominator <
      2 ^ (lastPlace format numerator denominator + format.precision) := by
  let guess : Int := (numerator.log2 : Int) - denominator.log2 - format.precision
  let units := inUnits numerator denominator guess
  let exact := if twoTo format.precision ≤ units.1 / units.2 then guess + 1 else guess
  have among : (numerator : ℚ) / denominator < 2 ^ (exact + format.precision) := by
    by_cases longer : twoTo format.precision ≤ units.1 / units.2
    · -- The lengths alone bound the quotient by one place more than was guessed.
      have above : (numerator : ℚ) < 2 ^ ((numerator.log2 : ℤ) + 1) := by
        have length : numerator < 2 ^ (numerator.log2 + 1) := Nat.lt_log2_self
        exact_mod_cast length
      have below : (2 : ℚ) ^ (denominator.log2 : ℤ) ≤ denominator := by
        have length : 2 ^ denominator.log2 ≤ denominator :=
          Nat.log2_self_le (Nat.ne_of_gt positive)
        exact_mod_cast length
      have place : exact + (format.precision : ℤ) =
          (numerator.log2 : ℤ) + 1 - denominator.log2 := by
        change (if _ then guess + 1 else guess) + _ = _
        rw [if_pos longer]
        omega
      have bottom : (0 : ℚ) < denominator := Nat.cast_pos.mpr positive
      rw [place, zpow_sub₀ two_ne_zero, div_lt_div_iff₀ bottom (zpow_pos two_pos _)]
      calc (numerator : ℚ) * 2 ^ (denominator.log2 : ℤ)
          ≤ numerator * denominator := mul_le_mul_of_nonneg_left below (Nat.cast_nonneg _)
        _ < 2 ^ ((numerator.log2 : ℤ) + 1) * denominator := mul_lt_mul_of_pos_right above bottom
    · have place : exact = guess := if_neg longer
      rw [place, ← inUnits_lt_iff numerator positive]
      exact Nat.lt_of_not_le longer
  have within : exact ≤ lastPlace format numerator denominator := le_max_left _ _
  refine among.trans_le (zpow_le_zpow_right₀ one_le_two ?_)
  omega

/-- The number nearest to a quotient is one of the format. -/
theorem ofQuotient_fits (format : BinaryFormat) (negative : Bool) (numerator : Nat)
    {denominator : Nat} (positive : 0 < denominator) :
    (ofQuotient format negative numerator denominator).Fits format := by
  let place := lastPlace format numerator denominator
  let units := inUnits numerator denominator place
  have least : format.leastExponent ≤ place := leastExponent_le_lastPlace _ _ _
  have floor : units.1 / units.2 < twoTo format.precision :=
    (inUnits_lt_iff numerator positive place _).mpr (lt_lastPlace format numerator positive)
  have rounded : nearestQuotient units.1 units.2 ≤ twoTo format.precision :=
    (nearestQuotient_le _ _).trans floor
  have half : twoTo (format.precision - 1) < twoTo format.precision :=
    Nat.pow_lt_pow_right (by decide) (by cases format <;> decide)
  change Fits format (
    let rounded := if nearestQuotient units.1 units.2 = twoTo format.precision then
        (twoTo (format.precision - 1), place + 1)
      else (nearestQuotient units.1 units.2, place)
    if format.greatestExponent < rounded.2 then infinite negative
    else finite negative rounded.1 rounded.2)
  by_cases full : nearestQuotient units.1 units.2 = twoTo format.precision
  · rw [if_pos full]
    by_cases beyond : format.greatestExponent < place + 1
    · simp only [if_pos beyond, Fits]
    · simp only [if_neg beyond, Fits]
      exact ⟨half, by omega, by omega⟩
  · rw [if_neg full]
    by_cases beyond : format.greatestExponent < place
    · simp only [if_pos beyond, Fits]
    · simp only [if_neg beyond, Fits]
      exact ⟨lt_of_le_of_ne rounded full, least, by omega⟩

end Binary

/-! ## Reading -/

/-- The number nearest to a decimal number is one of the format. -/
theorem Decimal.toBinary_fits (format : BinaryFormat) (negative : Bool) (decimal : Decimal) :
    (decimal.toBinary format negative).Fits format := by
  have ten : ∀ exponent, 0 < tenTo exponent := fun exponent => Nat.pow_pos (by decide)
  have zero : (Binary.finite negative 0 format.leastExponent).Fits format :=
    ⟨Binary.twoTo_pos _, le_refl _, by cases format <;> decide⟩
  unfold toBinary
  by_cases vanishes : decimal.coefficient = 0 ∨
      ((Nat.toDigits 10 decimal.coefficient).length : Int) + decimal.exponent < -decimalReach
  · rw [if_pos vanishes]
    exact zero
  rw [if_neg vanishes]
  by_cases beyond : decimalReach <
      ((Nat.toDigits 10 decimal.coefficient).length : Int) + decimal.exponent
  · rw [if_pos beyond]
    exact trivial
  rw [if_neg beyond]
  by_cases whole : 0 ≤ decimal.exponent
  · rw [if_pos whole]
    exact Binary.ofQuotient_fits _ _ _ Nat.one_pos
  · rw [if_neg whole]
    exact Binary.ofQuotient_fits _ _ _ (ten _)

/-- A value that is read without its sign is one of the format. -/
theorem readMagnitude_fits {format : BinaryFormat} {negative : Bool} {characters : List Char}
    {value : Binary} (read : readMagnitude format negative characters = some value) :
    value.Fits format := by
  unfold readMagnitude at read
  cases numeral : readDecimal characters with
  | some decimal =>
    rw [numeral] at read
    cases read
    exact decimal.toBinary_fits format negative
  | none =>
    rw [numeral] at read
    by_cases infinite : String.ofList (characters.map Char.toLower) = "inf" ∨
        String.ofList (characters.map Char.toLower) = "infinity"
    · simp only [if_pos infinite, Option.some.injEq] at read
      subst read
      exact trivial
    · by_cases nan : String.ofList (characters.map Char.toLower) = "nan"
      · simp only [if_neg infinite, if_pos nan, Option.some.injEq] at read
        subst read
        exact trivial
      · simp only [if_neg infinite, if_neg nan, reduceCtorEq] at read

/-- A value that is read is one of the format. -/
theorem readBinary_fits {format : BinaryFormat} {characters : List Char} {value : Binary}
    (read : readBinary format characters = some value) : value.Fits format := by
  unfold readBinary at read
  split at read
  · exact readMagnitude_fits read
  · exact readMagnitude_fits read
  · exact readMagnitude_fits read

end Switchboard.Number
