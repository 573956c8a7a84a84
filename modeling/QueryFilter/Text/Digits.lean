/-!
# Digits

Numbers as runs of digits: `decimalDigits` writes a natural number without leading zeros,
`paddedDigits` writes a fixed number of places in any base up to sixteen, and `valueOfDigits`
reads a run of decimal digits. Digits above nine are lower-case letters. `trimZeros` drops the
zeros at the end of a run and nothing else.
-/

set_option autoImplicit false

namespace QueryFilter

/-! ## Single digits -/

/-- The character of one digit below sixteen. -/
def digitCharacter (digit : Nat) : Char :=
  if digit < 10 then Char.ofNat (48 + digit) else Char.ofNat (87 + digit)

/-- The value of a decimal digit; anything else counts as zero. -/
def digitValue (character : Char) : Nat :=
  if character.isDigit then character.toNat - 48 else 0

/-- The value of a hexadecimal digit in either case. -/
def hexValue? (character : Char) : Option Nat :=
  let code := character.toNat
  if 48 ≤ code ∧ code ≤ 57 then some (code - 48)
  else if 97 ≤ code ∧ code ≤ 102 then some (code - 87)
  else if 65 ≤ code ∧ code ≤ 70 then some (code - 55)
  else none

/-! ## Runs of digits -/

/-- The decimal digits of a number, most significant first; zero has one digit. -/
def decimalDigits (number : Nat) : List Char :=
  if number < 10 then [digitCharacter number]
  else decimalDigits (number / 10) ++ [digitCharacter (number % 10)]
termination_by number

/-- How many decimal digits a number has; zero has one. -/
def digitCount (number : Nat) : Nat :=
  if number < 10 then 1 else digitCount (number / 10) + 1
termination_by number

/-- The last `width` digits of a number in base `base`, with leading zeros. -/
def paddedDigits (base : Nat) : (width : Nat) → (number : Nat) → List Char
  | 0, _ => []
  | width + 1, number => paddedDigits base width (number / base) ++ [digitCharacter (number % base)]

/-- The number that a run of decimal digits stands for. -/
def valueOfDigits (digits : List Char) : Nat :=
  digits.foldl (fun value digit => value * 10 + digitValue digit) 0

/-- The number that a run of hexadecimal digits stands for, if every character is one. -/
def valueOfHex? (digits : List Char) : Option Nat :=
  digits.foldlM (fun value digit => (hexValue? digit).map (value * 16 + ·)) 0

/-- The digits without the zeros at their end. -/
def trimZeros (digits : List Char) : List Char :=
  digits.foldr (fun digit rest => if rest.isEmpty && digit == '0' then [] else digit :: rest) []

/-- What `trimZeros` drops is a run of zeros. -/
theorem trimZeros_append_zeros (digits : List Char) :
    ∃ count, trimZeros digits ++ List.replicate count '0' = digits := by
  induction digits with
  | nil => exact ⟨0, rfl⟩
  | cons digit rest ih =>
      obtain ⟨count, h⟩ := ih
      have step : trimZeros (digit :: rest) =
          if (trimZeros rest).isEmpty && digit == '0' then [] else digit :: trimZeros rest := rfl
      rw [step]
      split
      · rename_i zero
        obtain ⟨isEmpty, isZero⟩ := Bool.and_eq_true_iff.1 zero
        rw [List.isEmpty_iff.1 isEmpty, List.nil_append] at h
        exact ⟨count + 1, by simp [List.replicate_succ, h, eq_of_beq isZero]⟩
      · exact ⟨count, by simp [h]⟩

/-! ## Lengths -/

theorem length_paddedDigits (base width number : Nat) :
    (paddedDigits base width number).length = width := by
  induction width generalizing number with
  | zero => rfl
  | succ width ih => simp [paddedDigits, ih]

theorem length_decimalDigits (number : Nat) :
    (decimalDigits number).length = digitCount number := by
  induction number using Nat.strongRecOn with
  | ind number ih =>
      rw [decimalDigits, digitCount]
      split
      · rfl
      · simp [ih (number / 10) (by omega)]

/-- The decimal text of an integer, with a minus sign in front of a negative one. -/
def integerText : Int → List Char
  | .ofNat number => decimalDigits number
  | .negSucc number => '-' :: decimalDigits (number + 1)

end QueryFilter
