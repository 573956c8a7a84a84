import Mathlib.Algebra.Order.Field.Basic
import Mathlib.Data.Rat.Cast.Order
import Mathlib.Tactic.Positivity
import Mathlib.Tactic.Ring
import QueryFilter.Number.Single
import QueryFilter.Proofs.Number.Nearest

set_option autoImplicit false

/-!
# The numbers that words stand for

A finite word stands for a rational number (`Double.toRat`, `Single.toRat`). A number of at most
fifty-three binary digits, doubled any number of times, is the absolute value of some magnitude
(`exists_unitsOfMagnitude_eq`). Hence every narrow word has a wide word of the same number
(`Single.widens_toDouble`), and between 2^63 and 2^64 no number is farther than 1024 from a double
(`Double.IsNearest.distance_le`). Of two whole numbers the greater one is rounded to the greater
double (`Double.IsNearest.units_le`).
-/

namespace QueryFilter

/-! ## Representable numbers -/

/-- A significand of full length or less, doubled any number of times, is the absolute value of a
magnitude. -/
theorem exists_unitsOfMagnitude_eq {significand : Nat} (h : significand ≤ 2 * binadeSize)
    (doublings : Nat) :
    ∃ magnitude, unitsOfMagnitude magnitude = significand * 2 ^ doublings ∧
      magnitude ≤ (doublings + 2) * binadeSize := by
  induction doublings generalizing significand with
  | zero =>
      have hunits : unitsOfMagnitude (0 * binadeSize + significand) = significand * 2 ^ 0 :=
        unitsOfMagnitude_spacing h nofun
      exact ⟨0 * binadeSize + significand, hunits, by omega⟩
  | succ doublings ih =>
      rcases Nat.lt_or_ge significand binadeSize with hshort | hfull
      · -- one of the doublings goes into the significand
        obtain ⟨magnitude, hunits, hle⟩ := @ih (2 * significand) (by omega)
        refine ⟨magnitude, ?_, hle.trans (Nat.mul_le_mul_right _ (by omega))⟩
        rw [hunits]
        ring
      · refine ⟨(doublings + 1) * binadeSize + significand,
          unitsOfMagnitude_spacing h fun _ => hfull, ?_⟩
        have hsum : (doublings + 1 + 2) * binadeSize
            = (doublings + 1) * binadeSize + 2 * binadeSize := by ring
        omega

theorem cast_shiftLeft (number shift : Nat) :
    ((number <<< shift : Nat) : ℚ) = number * 2 ^ shift := by
  rw [Nat.shiftLeft_eq, Nat.cast_mul, Nat.cast_pow, Nat.cast_ofNat]

theorem two_pow_add_eq (power : Nat) : 2 ^ (power + 1074) = 2 ^ power * unitsPerOne := by
  rw [unitsPerOne_eq, pow_add]

namespace Double

/-- The rational number that a finite double stands for. -/
def toRat (x : Double) : ℚ := x.units / unitsPerOne

theorem units_of_nonNegative {x : Double} (h : x.isNegative = false) :
    x.units = unitsOfMagnitude x.magnitude := by
  rw [units, h]
  rfl

/-! ## Wide integers -/

/-- The multiples of 2048 from 2^63 to 2^64 are doubles. -/
theorem exists_units_eq_mul {count : Nat} (h : count ≤ 2 * binadeSize) :
    ∃ x : Double, x.isFinite = true ∧ x.units = (count * 2048 * unitsPerOne : Nat) := by
  obtain ⟨magnitude, hunits, hle⟩ := exists_unitsOfMagnitude_eq h (11 + 1074)
  have hlt : magnitude < infinityMagnitude := hle.trans_lt (by decide)
  have hsign : magnitude < signWeight := hlt.trans (by decide)
  refine ⟨ofMagnitude false magnitude, isFinite_ofMagnitude hlt false, ?_⟩
  rw [units_of_nonNegative (isNegative_ofMagnitude_false hsign), magnitude_ofMagnitude hsign,
    hunits, two_pow_add_eq, Nat.mul_assoc]
  norm_num

namespace IsNearest

variable {x y : Double} {number other : Nat}

/-- Of two whole numbers the greater one is not rounded to the lesser double. -/
theorem units_le (hx : x.IsNearest number) (hy : y.IsNearest other) (h : number < other) :
    x.units ≤ y.units := by
  -- in the other order, one of the numbers would be nearer to the double of the other one
  have hnear : x.distance number ≤ y.distance number := hx.le y hy.finite
  have hother : y.distance other ≤ x.distance other := hy.le x hx.finite
  have hscaled : number * unitsPerOne < other * unitsPerOne :=
    Nat.mul_lt_mul_of_pos_right h unitsPerOne_pos
  unfold distance at hnear hother
  omega

/-- A number between 2^63 and 2^64 is at most half a spacing away from the nearest double. -/
theorem distance_le (hx : x.IsNearest number) (hlower : 2 ^ 63 ≤ number)
    (hupper : number < 2 ^ 64) : x.distance number ≤ 1024 * unitsPerOne := by
  have hsize : binadeSize = 2 ^ 52 := by decide
  -- one of the multiples of the spacing around the number is not farther away
  obtain ⟨count, hcount, hnear⟩ : ∃ count ≤ 2 * binadeSize,
      count * 2048 ≤ number + 1024 ∧ number ≤ count * 2048 + 1024 := by
    rcases Nat.lt_or_ge (number % 2048) 1024 with hlow | hhigh
    · exact ⟨number / 2048, by omega, by omega⟩
    · exact ⟨number / 2048 + 1, by omega, by omega⟩
  obtain ⟨other, hfinite, hunits⟩ := exists_units_eq_mul hcount
  refine (hx.le other hfinite).trans ?_
  have habove : count * 2048 * unitsPerOne ≤ (number + 1024) * unitsPerOne :=
    Nat.mul_le_mul_right _ hnear.1
  have hbelow : number * unitsPerOne ≤ (count * 2048 + 1024) * unitsPerOne :=
    Nat.mul_le_mul_right _ hnear.2
  rw [Nat.add_mul] at habove hbelow
  rw [distance, hunits]
  omega

/-- A number between 2^63 and 2^64 is rounded to a double between them. -/
theorem units_bounds (hx : x.IsNearest number) (hlower : 2 ^ 63 ≤ number)
    (hupper : number < 2 ^ 64) :
    (2 ^ 63 * unitsPerOne : Nat) ≤ x.units ∧ x.units ≤ (2 ^ 64 * unitsPerOne : Nat) := by
  obtain ⟨least, hleast, hleastUnits⟩ := @exists_units_eq_mul binadeSize (by decide)
  obtain ⟨greatest, hgreatest, hgreatestUnits⟩ := @exists_units_eq_mul (2 * binadeSize) le_rfl
  rw [show binadeSize * 2048 = 2 ^ 63 by decide] at hleastUnits
  rw [show 2 * binadeSize * 2048 = 2 ^ 64 by decide] at hgreatestUnits
  have hfromLeast : x.distance number ≤ least.distance number := hx.le least hleast
  have hfromGreatest : x.distance number ≤ greatest.distance number := hx.le greatest hgreatest
  have hscaledLower : 2 ^ 63 * unitsPerOne ≤ number * unitsPerOne :=
    Nat.mul_le_mul_right _ hlower
  have hscaledUpper : number * unitsPerOne ≤ 2 ^ 64 * unitsPerOne :=
    Nat.mul_le_mul_right _ hupper.le
  unfold distance at hfromLeast hfromGreatest
  rw [hleastUnits] at hfromLeast
  rw [hgreatestUnits] at hfromGreatest
  omega

end IsNearest

end Double

/-! ## Narrow words -/

namespace Single

/-- Neither infinite nor outside the numbers. -/
def isFinite (x : Single) : Bool := decide (x.magnitude < infinityMagnitude)

/-- Not a number. -/
def isNaN (x : Single) : Bool := decide (infinityMagnitude < x.magnitude)

/-- The rational number that a finite word stands for. -/
def toRat (x : Single) : ℚ := (if x.isNegative then -(x.units : ℚ) else x.units) / 2 ^ 149

/-- A double is the same number as a narrow word, or is outside the numbers in the same way. -/
structure Widens (x : Single) (y : Double) : Prop where
  finite : y.isFinite = x.isFinite
  infinite : y.magnitude = QueryFilter.infinityMagnitude ↔ x.magnitude = infinityMagnitude
  nan : y.isNaN = x.isNaN
  sign : x.isNaN = false → y.isNegative = x.isNegative
  exact : x.isFinite = true → y.toRat = x.toRat

/-- A finite narrow word has a significand of twenty-four binary digits. -/
theorem units_eq {x : Single} (h : x.isFinite = true) :
    ∃ significand doublings, x.units = significand * 2 ^ doublings ∧
      significand < 2 * binadeSize ∧ doublings < 254 := by
  have hmagnitude : x.magnitude < infinityMagnitude := of_decide_eq_true h
  unfold infinityMagnitude binadeSize at hmagnitude
  unfold units binadeSize
  split
  · exact ⟨x.magnitude, 0, by omega, by omega, by omega⟩
  · refine ⟨_, x.magnitude / 8388608 - 1, Nat.shiftLeft_eq _ _, by omega, by omega⟩

theorem magnitude_lt (x : Single) : x.magnitude < signWeight :=
  Nat.mod_lt _ (by decide)

/-- The absolute value of a finite word, doubled any number of times, is one of a magnitude. -/
theorem exists_unitsOfMagnitude_shiftLeft {x : Single} (h : x.isFinite = true) (shift : Nat) :
    ∃ magnitude, unitsOfMagnitude magnitude = x.units <<< shift ∧
      magnitude ≤ (253 + shift + 2) * QueryFilter.binadeSize := by
  obtain ⟨significand, doublings, hunits, hsignificand, hdoublings⟩ := units_eq h
  have hshort : significand ≤ 2 * QueryFilter.binadeSize := hsignificand.le.trans (by decide)
  obtain ⟨magnitude, hwide, hle⟩ := exists_unitsOfMagnitude_eq hshort (doublings + shift)
  refine ⟨magnitude, ?_, hle.trans (Nat.mul_le_mul_right _ (by omega))⟩
  rw [hwide, hunits, Nat.shiftLeft_eq, pow_add, Nat.mul_assoc]

/-- The magnitude of a finite word is that of the same absolute value in the wide format. -/
theorem wideMagnitude_of_finite {x : Single} (h : x.isFinite = true) :
    unitsOfMagnitude x.wideMagnitude = x.units <<< 925 ∧
      x.wideMagnitude < QueryFilter.infinityMagnitude := by
  obtain ⟨magnitude, hunits, hle⟩ := exists_unitsOfMagnitude_shiftLeft h 925
  have hsame : x.wideMagnitude = magnitude := by
    rw [wideMagnitude, if_pos (of_decide_eq_true h), ← hunits, nearestMagnitude_unitsOfMagnitude]
  rw [hsame]
  exact ⟨hunits, hle.trans_lt (by decide)⟩

/-- A word that is not finite has a magnitude as far above infinity, in the leading bits of the
fraction. -/
theorem wideMagnitude_of_not_finite {x : Single} (h : x.isFinite = false) :
    x.wideMagnitude
        = QueryFilter.infinityMagnitude + (x.magnitude - infinityMagnitude) * 2 ^ 29 ∧
      infinityMagnitude ≤ x.magnitude ∧ x.magnitude - infinityMagnitude < binadeSize := by
  have hge : infinityMagnitude ≤ x.magnitude := Nat.not_lt.1 (of_decide_eq_false h)
  have hlt := x.magnitude_lt
  refine ⟨by rw [wideMagnitude, if_neg (Nat.not_lt.2 hge), Nat.shiftLeft_eq], hge, ?_⟩
  unfold infinityMagnitude binadeSize signWeight at *
  omega

theorem wideMagnitude_lt (x : Single) : x.wideMagnitude < QueryFilter.signWeight := by
  cases h : x.isFinite with
  | true => exact (wideMagnitude_of_finite h).2.trans (by decide)
  | false =>
      obtain ⟨hwide, -, hlt⟩ := wideMagnitude_of_not_finite h
      unfold binadeSize at hlt
      rw [hwide]
      unfold QueryFilter.infinityMagnitude QueryFilter.binadeSize QueryFilter.signWeight
      omega

theorem magnitude_toDouble (x : Single) : x.toDouble.magnitude = x.wideMagnitude :=
  Double.magnitude_ofMagnitude x.wideMagnitude_lt x.isNegative

end Single

theorem Double.isNegative_ofMagnitude {magnitude : Nat} (h : magnitude < signWeight)
    (negative : Bool) : (ofMagnitude negative magnitude).isNegative = negative := by
  cases negative with
  | false => exact isNegative_ofMagnitude_false h
  | true =>
      show decide (signWeight ≤ (signWeight + magnitude) % 2 ^ 64) = true
      unfold signWeight at h ⊢
      exact decide_eq_true (by omega)

namespace Single

theorem isNegative_toDouble (x : Single) : x.toDouble.isNegative = x.isNegative :=
  Double.isNegative_ofMagnitude x.wideMagnitude_lt x.isNegative

theorem toRat_toDouble {x : Single} (h : x.isFinite = true) : x.toDouble.toRat = x.toRat := by
  obtain ⟨hunits, -⟩ := wideMagnitude_of_finite h
  have hone : unitsPerOne = (1 <<< 149) <<< 925 := by decide +kernel
  rw [Double.toRat, Double.units, isNegative_toDouble, magnitude_toDouble, hunits, toRat, hone]
  have hne : (2 ^ 925 : ℚ) ≠ 0 := by positivity
  split
  · rw [Int.cast_neg, Int.cast_natCast, cast_shiftLeft, cast_shiftLeft, cast_shiftLeft, ← neg_mul,
      mul_div_mul_right _ _ hne, Nat.cast_one, one_mul]
  · rw [Int.cast_natCast, cast_shiftLeft, cast_shiftLeft, cast_shiftLeft,
      mul_div_mul_right _ _ hne, Nat.cast_one, one_mul]

/-- Widening keeps the number that a word stands for, and what it is if it stands for none. -/
theorem widens_toDouble (x : Single) : x.Widens x.toDouble := by
  have hmagnitude := magnitude_toDouble x
  cases h : x.isFinite with
  | true =>
      have hlt : x.magnitude < infinityMagnitude := of_decide_eq_true h
      obtain ⟨-, hwide⟩ := wideMagnitude_of_finite h
      exact
        { finite := by
            rw [Double.isFinite, hmagnitude, h]
            exact decide_eq_true hwide
          infinite := by omega
          nan := by
            rw [Double.isNaN, hmagnitude, isNaN, decide_eq_false (by omega),
              decide_eq_false (by omega)]
          sign := fun _ => isNegative_toDouble x
          exact := fun _ => toRat_toDouble h }
  | false =>
      obtain ⟨hwide, hge, -⟩ := wideMagnitude_of_not_finite h
      exact
        { finite := by
            rw [Double.isFinite, hmagnitude, h]
            exact decide_eq_false (by omega)
          infinite := by omega
          nan := by
            rw [Double.isNaN, hmagnitude, isNaN, decide_eq_decide]
            omega
          sign := fun _ => isNegative_toDouble x
          exact := fun hfinite => absurd hfinite (by simp [h]) }

end Single

end QueryFilter
