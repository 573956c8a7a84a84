import Mathlib.Tactic.Ring
import QueryFilter.Text.Digits

set_option autoImplicit false

/-!
# Digits read what they wrote

A run of digits has the value it was written for: decimal digits of any number
(`valueOfDigits_decimalDigits`), and as many hexadecimal digits as hold the number
(`valueOfHex?_paddedDigits`). Zeros in front of a run do not change its value, zeros at its end
multiply it, and a run of digits without a zero at its end keeps all of them when it is trimmed.
-/

namespace QueryFilter

/-! ## Runs of characters -/

/-- A run of characters of a class ends where another character stands. -/
theorem takeWhile_run {p : Char → Bool} {run rest : List Char} (hrun : ∀ c ∈ run, p c = true)
    (hrest : ∀ c ∈ rest.head?, p c = false) : (run ++ rest).takeWhile p = run := by
  rw [List.takeWhile_append_of_pos hrun]
  cases rest with
  | nil => simp
  | cons c rest => simp [hrest c rfl]

/-- Behind a run of characters of a class stands the rest. -/
theorem dropWhile_run {p : Char → Bool} {run rest : List Char} (hrun : ∀ c ∈ run, p c = true)
    (hrest : ∀ c ∈ rest.head?, p c = false) : (run ++ rest).dropWhile p = rest := by
  rw [List.dropWhile_append_of_pos hrun]
  cases rest with
  | nil => rfl
  | cons c rest => simp [hrest c rfl]

/-! ## Single digits -/

theorem isDigit_digitCharacter : ∀ digit < 10, (digitCharacter digit).isDigit = true := by decide

theorem digitValue_digitCharacter : ∀ digit < 10, digitValue (digitCharacter digit) = digit := by
  decide

theorem hexValue?_digitCharacter :
    ∀ digit < 16, hexValue? (digitCharacter digit) = some digit := by decide

theorem digitCharacter_ne_zero : ∀ digit < 10, digit ≠ 0 → digitCharacter digit ≠ '0' := by decide

/-! ## Values of runs -/

theorem valueOfDigits_append_singleton (digits : List Char) (digit : Char) :
    valueOfDigits (digits ++ [digit]) = valueOfDigits digits * 10 + digitValue digit := by
  simp [valueOfDigits]

/-- Zeros in front of a run do not count. -/
theorem valueOfDigits_zeros_append (count : Nat) (digits : List Char) :
    valueOfDigits (List.replicate count '0' ++ digits) = valueOfDigits digits := by
  induction count with
  | zero => rfl
  | succ count ih => exact ih

/-- Each zero behind a run makes it ten times as much. -/
theorem valueOfDigits_append_zeros (digits : List Char) (count : Nat) :
    valueOfDigits (digits ++ List.replicate count '0') = valueOfDigits digits * 10 ^ count := by
  induction count with
  | zero => simp
  | succ count ih =>
      have hzero : digitValue '0' = 0 := rfl
      rw [List.replicate_succ', ← List.append_assoc, valueOfDigits_append_singleton, ih, hzero,
        Nat.pow_succ, Nat.add_zero, Nat.mul_assoc]

/-! ## Decimal digits -/

/-- The last digit is the remainder, and the others are those of the quotient. -/
theorem decimalDigits_eq_append (number : Nat) :
    ∃ leading, decimalDigits number = leading ++ [digitCharacter (number % 10)] ∧
      (number < 10 → leading = []) ∧ (10 ≤ number → leading = decimalDigits (number / 10)) := by
  rw [decimalDigits]
  split
  · exact ⟨[], by rw [Nat.mod_eq_of_lt (by assumption)]; rfl, fun _ => rfl, by omega⟩
  · exact ⟨decimalDigits (number / 10), rfl, by omega, fun _ => rfl⟩

theorem decimalDigits_ne_nil (number : Nat) : decimalDigits number ≠ [] := by
  obtain ⟨leading, hdigits, -⟩ := decimalDigits_eq_append number
  simp [hdigits]

theorem isDigit_of_mem_decimalDigits {number : Nat} {digit : Char}
    (h : digit ∈ decimalDigits number) : digit.isDigit = true := by
  induction number using Nat.strongRecOn with
  | ind number ih =>
      have hlast := isDigit_digitCharacter (number % 10) (Nat.mod_lt number (by decide))
      rw [decimalDigits] at h
      split at h
      · rename_i hlt
        rw [Nat.mod_eq_of_lt hlt] at hlast
        rwa [List.mem_singleton.1 h]
      · rcases List.mem_append.1 h with hleading | hmem
        · exact ih (number / 10) (by omega) hleading
        · rwa [List.mem_singleton.1 hmem]

/-- Decimal digits have the value of the number. -/
theorem valueOfDigits_decimalDigits (number : Nat) :
    valueOfDigits (decimalDigits number) = number := by
  induction number using Nat.strongRecOn with
  | ind number ih =>
      have hlast := digitValue_digitCharacter (number % 10) (Nat.mod_lt number (by decide))
      rw [decimalDigits]
      split
      · rename_i hlt
        rw [Nat.mod_eq_of_lt hlt] at hlast
        simpa [valueOfDigits] using hlast
      · rw [valueOfDigits_append_singleton, ih (number / 10) (by omega), hlast]
        omega

/-- A number other than zero is written without a zero in front. -/
theorem head?_decimalDigits {number : Nat} (h : 0 < number) :
    (decimalDigits number).head? ≠ some '0' := by
  induction number using Nat.strongRecOn with
  | ind number ih =>
      rw [decimalDigits]
      split
      · rename_i hlt
        have hdigit := digitCharacter_ne_zero number hlt (by omega)
        simpa using hdigit
      · rw [List.head?_append, Option.or_of_isSome]
        · exact ih (number / 10) (by omega) (by omega)
        · simpa using decimalDigits_ne_nil (number / 10)

/-- A number that is no multiple of ten is written without a zero at the end. -/
theorem getLast?_decimalDigits {number : Nat} (h : number % 10 ≠ 0) :
    (decimalDigits number).getLast? ≠ some '0' := by
  obtain ⟨leading, hdigits, -⟩ := decimalDigits_eq_append number
  have hdigit := digitCharacter_ne_zero (number % 10) (Nat.mod_lt number (by decide)) h
  rw [hdigits, List.getLast?_append]
  simpa using hdigit

/-! ## Trimming -/

/-- Digits that do not end in a zero are all kept. -/
theorem trimZeros_eq_self {digits : List Char} (h : digits.getLast? ≠ some '0') :
    trimZeros digits = digits := by
  obtain ⟨count, hzeros⟩ := trimZeros_append_zeros digits
  cases count with
  | zero => simpa using hzeros
  | succ count =>
      rw [← hzeros, List.replicate_succ', ← List.append_assoc, List.getLast?_append] at h
      simp at h

/-! ## Hexadecimal digits -/

/-- Hexadecimal digits have the value of the number, as far as they hold it. -/
theorem valueOfHex?_paddedDigits (width number : Nat) :
    valueOfHex? (paddedDigits 16 width number) = some (number % 16 ^ width) := by
  induction width generalizing number with
  | zero => simp [paddedDigits, valueOfHex?, Nat.mod_one]
  | succ width ih =>
      have hlast := hexValue?_digitCharacter (number % 16) (Nat.mod_lt number (by decide))
      have hvalue : number / 16 % 16 ^ width * 16 + number % 16 = number % 16 ^ (width + 1) := by
        rw [Nat.pow_succ', Nat.mod_mul, Nat.add_comm, Nat.mul_comm]
      -- the last digit is read last, so the fold is split in front of it
      unfold valueOfHex? at ih ⊢
      rw [paddedDigits, List.foldlM_append, ih]
      simpa [hlast] using hvalue

end QueryFilter
