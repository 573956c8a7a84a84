/-!
# Double-precision words

A `Double` is a 64-bit word of the binary64 format: a sign bit, eleven exponent bits and
fifty-two fraction bits. Without its sign bit the word is a number below 2^63, the *magnitude*.
The magnitudes below `infinityMagnitude` are those of the finite numbers and grow with the
absolute value they stand for; the next one is infinity and the others are not numbers.

Every finite absolute value is a whole number of units of 2^-1074. `unitsOfMagnitude` gives that
number, and `nearestMagnitude` goes back: it rounds a quotient, counted in such units, to the
nearest magnitude, a tie to the even one.
-/

set_option autoImplicit false

namespace QueryFilter

/-- A word of the binary64 format. -/
structure Double where
  bits : UInt64
  deriving DecidableEq, Inhabited

/-- The names under which numbers outside the reals are reported. -/
inductive NonFinite where
  | notANumber
  | infinity
  | negativeInfinity
  deriving DecidableEq, Repr

/-- The name of a non-finite number; one that is not a number has no sign. -/
def NonFinite.name : NonFinite → String
  | .notANumber => "NaN"
  | .infinity => "inf"
  | .negativeInfinity => "-inf"

/-! ## Magnitudes -/

/-- How many units of 2^-1074 make one. -/
@[irreducible] def unitsPerOne : Nat := 1 <<< 1074

/-- How many magnitudes share an exponent, one for each fraction: 2^52. -/
def binadeSize : Nat := 4503599627370496

/-- What the sign bit adds to a word: 2^63. -/
def signWeight : Nat := 9223372036854775808

/-- The magnitude of infinity: all exponent bits set and no fraction bit. -/
def infinityMagnitude : Nat := 2047 * binadeSize

/-- The absolute value of a finite magnitude, in units of 2^-1074. In the first binade a
magnitude is subnormal and counts the units itself; from the second on, each one doubles the
spacing. -/
def unitsOfMagnitude (magnitude : Nat) : Nat :=
  if magnitude < binadeSize then magnitude
  else (binadeSize + magnitude % binadeSize) <<< (magnitude / binadeSize - 1)

/-- The quotient rounded to a whole number, a half to the even one. -/
def roundHalfEven (numerator denominator : Nat) : Nat :=
  let quotient := numerator / denominator
  let rest := numerator % denominator
  if 2 * rest < denominator then quotient
  else if denominator < 2 * rest then quotient + 1
  else if quotient % 2 = 0 then quotient
  else quotient + 1

/-- The magnitude nearest to `numerator / denominator` units of 2^-1074, a tie to the even one.
The spacing of magnitudes is the largest power of two that leaves fifty-three binary digits, and
one unit where there are fewer. Values that round past the finite ones give `infinityMagnitude` or
more. -/
def nearestMagnitude (numerator denominator : Nat) : Nat :=
  -- in the first two binades the difference is zero and the spacing one unit
  let spacing := (numerator / denominator).log2 - 52
  spacing * binadeSize + roundHalfEven numerator (denominator <<< spacing)

namespace Double

/-! ## Parts of a word -/

/-- The word without its sign bit. -/
def magnitude (x : Double) : Nat := x.bits.toNat % signWeight

/-- Is the sign bit set? -/
def isNegative (x : Double) : Bool := decide (signWeight ≤ x.bits.toNat)

/-- The word with a given sign bit and magnitude. -/
def ofMagnitude (negative : Bool) (magnitude : Nat) : Double :=
  ⟨UInt64.ofNat ((if negative then signWeight else 0) + magnitude)⟩

/-- Neither infinite nor outside the numbers. -/
def isFinite (x : Double) : Bool := decide (x.magnitude < infinityMagnitude)

/-- Not a number. -/
def isNaN (x : Double) : Bool := decide (infinityMagnitude < x.magnitude)

/-- What a non-finite word is reported as. -/
def nonFinite (x : Double) : NonFinite :=
  if x.isNaN then .notANumber else if x.isNegative then .negativeInfinity else .infinity

/-- Equality of numbers: the two zeros are equal, and what is not a number equals nothing. -/
def numericallyEqual (x y : Double) : Bool :=
  !x.isNaN && !y.isNaN && (x == y || x.magnitude == 0 && y.magnitude == 0)

/-! ## Whole numbers -/

/-- The double nearest to a natural number, a tie to the even one. -/
def ofNat (number : Nat) : Double :=
  ofMagnitude false (nearestMagnitude (number * unitsPerOne) 1)

end Double

/-! ## Magnitudes and units -/

theorem unitsOfMagnitude_of_lt {magnitude : Nat} (h : magnitude < binadeSize) :
    unitsOfMagnitude magnitude = magnitude := if_pos h

/-- A whole quotient is not changed by rounding. -/
theorem roundHalfEven_mul {quotient denominator : Nat} (h : 0 < denominator) :
    roundHalfEven (quotient * denominator) denominator = quotient := by
  simp [roundHalfEven, Nat.mul_div_cancel _ h, h]

end QueryFilter
