import Mathlib.Data.Nat.Log
import Mathlib.Tactic.Ring
import QueryFilter.Number.Double

set_option autoImplicit false

/-!
# Rounding and the units of a magnitude

Rounding depends on a quotient only, and not on the numbers that form it
(`nearestMagnitude_mul_mul`). The absolute value that a magnitude stands for is rounded to that
magnitude (`nearestMagnitude_unitsOfMagnitude`), and a word is put together again from its sign bit
and its magnitude (`Double.ofMagnitude_magnitude`).
-/

namespace QueryFilter

/-! ## Quotients -/

/-- Rounding a quotient to a whole number does not depend on how it is written. -/
theorem roundHalfEven_mul_mul {factor : Nat} (h : 0 < factor) (numerator denominator : Nat) :
    roundHalfEven (factor * numerator) (factor * denominator)
      = roundHalfEven numerator denominator := by
  have hquotient : factor * numerator / (factor * denominator) = numerator / denominator :=
    Nat.mul_div_mul_left numerator denominator h
  have hrest : factor * numerator % (factor * denominator) = factor * (numerator % denominator) :=
    Nat.mul_mod_mul_left factor numerator denominator
  have hlow : 2 * (factor * (numerator % denominator)) < factor * denominator
      ↔ 2 * (numerator % denominator) < denominator := by
    rw [Nat.mul_left_comm]
    exact Nat.mul_lt_mul_left h
  have hhigh : factor * denominator < 2 * (factor * (numerator % denominator))
      ↔ denominator < 2 * (numerator % denominator) := by
    rw [Nat.mul_left_comm]
    exact Nat.mul_lt_mul_left h
  simp only [roundHalfEven, hquotient, hrest, hlow, hhigh]

/-- The nearest magnitude of a quotient does not depend on how the quotient is written. -/
theorem nearestMagnitude_mul_mul {factor : Nat} (h : 0 < factor) (numerator denominator : Nat) :
    nearestMagnitude (factor * numerator) (factor * denominator)
      = nearestMagnitude numerator denominator := by
  have hquotient : factor * numerator / (factor * denominator) = numerator / denominator :=
    Nat.mul_div_mul_left numerator denominator h
  simp only [nearestMagnitude, hquotient, Nat.shiftLeft_eq, Nat.mul_assoc]
  rw [roundHalfEven_mul_mul h]

/-! ## Units of a magnitude -/

/-- The absolute value of a magnitude is a significand of at most fifty-three binary digits, doubled
once for every binade above the second. -/
theorem unitsOfMagnitude_eq (magnitude : Nat) :
    ∃ significand, significand < 2 * binadeSize ∧
      unitsOfMagnitude magnitude = significand * 2 ^ (magnitude / binadeSize - 1) ∧
      (magnitude < binadeSize → significand = magnitude) ∧
      (binadeSize ≤ magnitude → significand = binadeSize + magnitude % binadeSize) := by
  have hpos : 0 < binadeSize := by decide
  have hrest := Nat.mod_lt magnitude hpos
  by_cases h : magnitude < binadeSize
  · refine ⟨magnitude, by omega, ?_, fun _ => rfl, fun hle => absurd h (by omega)⟩
    rw [unitsOfMagnitude_of_lt h, Nat.div_eq_of_lt h, Nat.zero_sub, Nat.pow_zero, Nat.mul_one]
  · refine ⟨binadeSize + magnitude % binadeSize, by omega, ?_, fun hlt => absurd hlt h,
      fun _ => rfl⟩
    rw [unitsOfMagnitude, if_neg h, Nat.shiftLeft_eq]

/-- Only the magnitude zero stands for zero. -/
theorem unitsOfMagnitude_pos {magnitude : Nat} (h : 0 < magnitude) :
    0 < unitsOfMagnitude magnitude := by
  obtain ⟨significand, -, hunits, hlow, hhigh⟩ := unitsOfMagnitude_eq magnitude
  have hpos : 0 < binadeSize := by decide
  have hsignificand : 0 < significand := by
    rcases Nat.lt_or_ge magnitude binadeSize with hlt | hge
    · rw [hlow hlt]
      exact h
    · rw [hhigh hge]
      omega
  rw [hunits]
  exact Nat.mul_pos hsignificand (Nat.two_pow_pos _)

/-- Doublings add their number to the binary logarithm of a significand in full. -/
theorem log2_significand {rest : Nat} (h : rest < binadeSize) (doublings : Nat) :
    ((binadeSize + rest) * 2 ^ doublings).log2 = doublings + 52 := by
  have hsize : binadeSize = 2 ^ 52 := by decide
  have hpos : (binadeSize + rest) * 2 ^ doublings ≠ 0 :=
    Nat.mul_ne_zero (by omega) (Nat.two_pow_pos doublings).ne'
  rw [Nat.log2_eq_iff hpos]
  constructor
  · calc 2 ^ (doublings + 52) = 2 ^ 52 * 2 ^ doublings := by rw [Nat.pow_add, Nat.mul_comm]
      _ ≤ (binadeSize + rest) * 2 ^ doublings := Nat.mul_le_mul_right _ (by omega)
  · calc (binadeSize + rest) * 2 ^ doublings < 2 ^ 53 * 2 ^ doublings :=
          Nat.mul_lt_mul_of_pos_right (by omega) (Nat.two_pow_pos doublings)
      _ = 2 ^ (doublings + 52 + 1) := by rw [← Nat.pow_add, Nat.add_comm]

/-- The absolute value that a magnitude stands for is rounded to that magnitude. -/
theorem nearestMagnitude_unitsOfMagnitude (magnitude : Nat) :
    nearestMagnitude (unitsOfMagnitude magnitude) 1 = magnitude := by
  obtain ⟨significand, hlt, hunits, hlow, hhigh⟩ := unitsOfMagnitude_eq magnitude
  rw [nearestMagnitude, Nat.div_one]
  rcases Nat.lt_or_ge magnitude binadeSize with hsubnormal | hnormal
  · -- the spacing is one unit, and a magnitude counts the units
    have hspacing : magnitude.log2 - 52 = 0 := by
      rcases Nat.eq_zero_or_pos magnitude with rfl | hpos
      · rfl
      · have hlog : magnitude.log2 < 52 := (Nat.log2_lt hpos.ne').2 hsubnormal
        omega
    rw [unitsOfMagnitude_of_lt hsubnormal, hspacing, Nat.zero_mul, Nat.zero_add]
    have hround : roundHalfEven (magnitude * 1) 1 = magnitude := roundHalfEven_mul Nat.one_pos
    rwa [Nat.mul_one] at hround
  · -- the spacing is the one of the binade, and the significand a multiple of it
    have hrest := Nat.mod_lt magnitude (show 0 < binadeSize by decide)
    have hbinade : 0 < magnitude / binadeSize := Nat.div_pos hnormal (by decide)
    rw [hunits, hhigh hnormal, log2_significand hrest, Nat.add_sub_cancel, Nat.shiftLeft_eq,
      Nat.one_mul, roundHalfEven_mul (Nat.two_pow_pos _)]
    calc (magnitude / binadeSize - 1) * binadeSize + (binadeSize + magnitude % binadeSize)
        = (magnitude / binadeSize - 1 + 1) * binadeSize + magnitude % binadeSize := by ring
      _ = magnitude := by rw [Nat.sub_add_cancel hbinade, Nat.div_add_mod']

/-! ## Parts of a word -/

/-- A word is made of its sign bit and its magnitude. -/
theorem Double.ofMagnitude_magnitude (x : Double) : ofMagnitude x.isNegative x.magnitude = x := by
  have hlt := x.bits.toNat_lt
  have hsum : (if x.isNegative then signWeight else 0) + x.magnitude = x.bits.toNat := by
    unfold magnitude
    by_cases hsign : signWeight ≤ x.bits.toNat
    · rw [isNegative, if_pos (decide_eq_true hsign)]
      unfold signWeight at hsign ⊢
      omega
    · rw [isNegative, if_neg (by simpa using hsign), Nat.zero_add]
      exact Nat.mod_eq_of_lt (by omega)
  rw [ofMagnitude, hsum, UInt64.ofNat_toNat]

end QueryFilter
