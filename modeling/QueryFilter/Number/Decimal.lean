import QueryFilter.Number.Double
import QueryFilter.Text.Digits

/-!
# Decimal numbers and the doubles they read as

A `Decimal` is a whole number times a power of ten. `Decimal.magnitude?` is the correctly rounded
reading of it as a double: the nearest magnitude, a tie to the even one, and none when that is not
finite. Values far outside the range of doubles are settled by their number of digits, so that no
huge power of ten is formed. `Decimal.condense` bounds the digits that are compared at all.
-/

set_option autoImplicit false

namespace QueryFilter

/-- The number 10^exponent. -/
def powerOfTen (exponent : Nat) : Nat := Nat.pow 10 exponent

/-- The number digits * 10^exponent. -/
structure Decimal where
  digits : Nat
  exponent : Int
  deriving DecidableEq, Repr

namespace Decimal

/-- The least exponent of a power of ten above the number, if that is not zero: the number is below
10^scale, and at least 10^(scale - 1). -/
def scale (number : Decimal) : Int := digitCount number.digits + number.exponent

/-- The magnitude of the nearest double, with no regard to its size. -/
def nearest (number : Decimal) : Nat :=
  nearestMagnitude (number.digits * powerOfTen number.exponent.toNat * unitsPerOne)
    (powerOfTen (-number.exponent).toNat)

/-- The magnitude of the nearest double, if that is finite. From 10^310 on no double is near, and
below 10^-325 the nearest one is zero. -/
def magnitude? (number : Decimal) : Option Nat :=
  if number.digits = 0 then some 0
  else if 310 < number.scale then none
  else if number.scale < -325 then some 0
  else if number.nearest < infinityMagnitude then some number.nearest
  else none

/-- The same number without zeros at the end of its digits. -/
def trim (number : Decimal) : Decimal :=
  if 0 < number.digits ∧ number.digits % 10 = 0 then
    trim ⟨number.digits / 10, number.exponent + 1⟩
  else number
termination_by number.digits

/-- The digits of a number that are compared with doubles. No double and no tie between two
doubles has more of them. -/
def decisiveDigits : Nat := 768

/-- A number of more than the decisive digits as one that has a single one behind them. It lies
above the number that the decisive digits alone spell, also if nothing but zeros follows these, and
so it is no tie. -/
def condense (number : Decimal) : Decimal :=
  let excess := digitCount number.digits - decisiveDigits
  if excess = 0 then number
  else ⟨number.digits / powerOfTen excess * 10 + 1, number.exponent + excess - 1⟩

/-- Decisive digits alone are compared as they are. -/
theorem condense_eq_self {number : Decimal} (h : digitCount number.digits ≤ decisiveDigits) :
    number.condense = number := by
  simp [condense, Nat.sub_eq_zero_of_le h]

/-- Zero reads as zero whatever its exponent. -/
theorem magnitude?_zero (exponent : Int) : magnitude? ⟨0, exponent⟩ = some 0 := rfl

end Decimal

end QueryFilter
