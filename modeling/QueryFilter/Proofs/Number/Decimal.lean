import QueryFilter.Number.Decimal
import QueryFilter.Proofs.Number.Rounding

set_option autoImplicit false

/-!
# Decimals and what they read as

A decimal reads as the same double when zeros are moved between its digits and its exponent
(`Decimal.magnitude?_mul_powerOfTen`), so nothing is lost when they are trimmed
(`Decimal.magnitude?_trim`). Trimmed digits end in no zero, and are not more than what is left of
the digits when some power of ten is taken out of them.
-/

namespace QueryFilter

/-! ## Powers of ten -/

theorem powerOfTen_succ (exponent : Nat) : powerOfTen (exponent + 1) = powerOfTen exponent * 10 :=
  rfl

theorem powerOfTen_add (first second : Nat) :
    powerOfTen (first + second) = powerOfTen first * powerOfTen second :=
  Nat.pow_add 10 first second

theorem powerOfTen_pos (exponent : Nat) : 0 < powerOfTen exponent := Nat.pow_pos (by decide)

theorem powerOfTen_le {first second : Nat} (h : first ≤ second) :
    powerOfTen first ≤ powerOfTen second := Nat.pow_le_pow_right (by decide) h

/-! ## Counting digits -/

theorem digitCount_pos (number : Nat) : 0 < digitCount number := by
  rw [digitCount]
  split
  · exact Nat.one_pos
  · exact Nat.succ_pos _

/-- One more zero is one more digit. -/
theorem digitCount_mul_ten {number : Nat} (h : 0 < number) :
    digitCount (number * 10) = digitCount number + 1 := by
  rw [digitCount, if_neg (by omega), Nat.mul_div_cancel number (by decide)]

theorem digitCount_mul_powerOfTen {number : Nat} (h : 0 < number) (count : Nat) :
    digitCount (number * powerOfTen count) = digitCount number + count := by
  induction count with
  | zero => rw [powerOfTen, Nat.pow_eq, Nat.pow_zero, Nat.mul_one, Nat.add_zero]
  | succ count ih =>
      have hpos : 0 < number * powerOfTen count := Nat.mul_pos h (powerOfTen_pos count)
      rw [powerOfTen_succ, ← Nat.mul_assoc, digitCount_mul_ten hpos, ih, Nat.add_assoc]

/-- A number is below the power of ten that its digits are counted by. -/
theorem lt_powerOfTen_digitCount (number : Nat) : number < powerOfTen (digitCount number) := by
  induction number using Nat.strongRecOn with
  | ind number ih =>
      rw [digitCount]
      split
      · assumption
      · have hquotient := ih (number / 10) (by omega)
        rw [powerOfTen_succ]
        omega

/-- A number below a power of ten has no more digits than that. -/
theorem digitCount_le_of_lt {number count : Nat} (hcount : 0 < count)
    (h : number < powerOfTen count) : digitCount number ≤ count := by
  induction count generalizing number with
  | zero => omega
  | succ count ih =>
      rw [digitCount]
      split
      · omega
      · rename_i hlarge
        have hquotient : number / 10 < powerOfTen count := by
          rw [powerOfTen_succ] at h
          omega
        -- a number of two digits is not below the first power of ten
        have hpos : 0 < count := by
          rcases Nat.eq_zero_or_pos count with rfl | hpos
          · exact absurd h hlarge
          · exact hpos
        exact Nat.succ_le_succ (ih hpos hquotient)

/-- A number that is not below a power of ten has more digits than that. -/
theorem lt_digitCount_of_le {number count : Nat} (h : powerOfTen count ≤ number) :
    count < digitCount number := by
  by_contra hle
  have hlt := lt_powerOfTen_digitCount number
  have hpow : powerOfTen (digitCount number) ≤ powerOfTen count := powerOfTen_le (by omega)
  omega

namespace Decimal

/-! ## Zeros between digits and exponent -/

theorem scale_mul_ten {digits : Nat} (h : 0 < digits) (exponent : Int) :
    scale ⟨digits * 10, exponent⟩ = scale ⟨digits, exponent + 1⟩ := by
  simp only [scale, digitCount_mul_ten h]
  omega

theorem nearest_mul_ten (digits : Nat) (exponent : Int) :
    nearest ⟨digits * 10, exponent⟩ = nearest ⟨digits, exponent + 1⟩ := by
  rcases Int.lt_or_le exponent 0 with hneg | hpos
  · -- the zero is taken out of the quotient
    have hwhole : exponent.toNat = 0 := by omega
    have hwhole' : (exponent + 1).toNat = 0 := by omega
    have hparts : (-exponent).toNat = (-(exponent + 1)).toNat + 1 := by omega
    simp only [nearest, hwhole, hwhole', hparts, powerOfTen_succ]
    rw [← nearestMagnitude_mul_mul (show 0 < 10 by decide) (digits * powerOfTen 0 * unitsPerOne),
      Nat.mul_comm 10 (powerOfTen _)]
    congr 1
    ring
  · have hwhole : (exponent + 1).toNat = exponent.toNat + 1 := by omega
    have hparts : (-exponent).toNat = 0 := by omega
    have hparts' : (-(exponent + 1)).toNat = 0 := by omega
    simp only [nearest, hwhole, hparts, hparts', powerOfTen_succ]
    congr 1
    ring

/-- A zero at the end of the digits counts as one in the exponent. -/
theorem magnitude?_mul_ten (digits : Nat) (exponent : Int) :
    magnitude? ⟨digits * 10, exponent⟩ = magnitude? ⟨digits, exponent + 1⟩ := by
  rcases Nat.eq_zero_or_pos digits with rfl | hpos
  · rw [Nat.zero_mul, magnitude?_zero, magnitude?_zero]
  · have hzero : digits * 10 = 0 ↔ digits = 0 := by omega
    simp only [magnitude?, scale_mul_ten hpos, nearest_mul_ten, hzero]

/-- Any number of zeros may be moved. -/
theorem magnitude?_mul_powerOfTen (digits count : Nat) (exponent : Int) :
    magnitude? ⟨digits * powerOfTen count, exponent⟩ = magnitude? ⟨digits, exponent + count⟩ := by
  induction count generalizing exponent with
  | zero => simp [powerOfTen]
  | succ count ih =>
      rw [powerOfTen_succ, ← Nat.mul_assoc, magnitude?_mul_ten, ih]
      congr 2
      omega

/-! ## Trimming -/

/-- Trimming does not change what a decimal reads as. -/
theorem magnitude?_trim (number : Decimal) : number.trim.magnitude? = number.magnitude? := by
  fun_induction trim number with
  | case1 number h ih =>
      obtain ⟨-, hzero⟩ := h
      have hdigits : number.digits / 10 * 10 = number.digits := Nat.div_mul_cancel (by omega)
      rw [ih, ← magnitude?_mul_ten, hdigits]
  | case2 number h => rfl

/-- Trimmed digits end in no zero. -/
theorem digits_trim_mod (number : Decimal) (h : 0 < number.trim.digits) :
    number.trim.digits % 10 ≠ 0 := by
  fun_induction trim number with
  | case1 number _ ih => exact ih h
  | case2 number hlast => exact fun hzero => hlast ⟨h, hzero⟩

theorem digits_trim_le (number : Decimal) : number.trim.digits ≤ number.digits := by
  fun_induction trim number with
  | case1 number h ih => exact Nat.le_trans ih (Nat.div_le_self _ _)
  | case2 number h => exact Nat.le_refl _

/-- Zeros that are known to stand at the end are all trimmed. -/
theorem digits_trim_mul_le {digits : Nat} (hpos : 0 < digits) (count : Nat) (exponent : Int) :
    (trim ⟨digits * powerOfTen count, exponent⟩).digits ≤ digits := by
  induction count generalizing exponent with
  | zero =>
      rw [powerOfTen, Nat.pow_eq, Nat.pow_zero, Nat.mul_one]
      exact digits_trim_le ⟨digits, exponent⟩
  | succ count ih =>
      have hdigits : 0 < digits * powerOfTen count := Nat.mul_pos hpos (powerOfTen_pos count)
      have htrim : 0 < digits * powerOfTen count * 10 := Nat.mul_pos hdigits (by decide)
      rw [powerOfTen_succ, ← Nat.mul_assoc, trim, if_pos ⟨htrim, Nat.mul_mod_left _ _⟩]
      simpa using ih (exponent + 1)

end Decimal

end QueryFilter
