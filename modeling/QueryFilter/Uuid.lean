import QueryFilter.Text.Digits

/-!
# Identifiers of 128 bits

Pages and users are named by 128-bit numbers, written as thirty-two lower-case hexadecimal digits
in groups of eight, four, four, four and twelve.
-/

set_option autoImplicit false

namespace QueryFilter

/-- An identifier of a page or a user. -/
structure Uuid where
  value : BitVec 128
  deriving DecidableEq

namespace Uuid

/-- The digits of an identifier, leading zeros included. -/
def digits (id : Uuid) : List Char := paddedDigits 16 32 id.value.toNat

/-- The text of an identifier. -/
def text (id : Uuid) : List Char :=
  id.digits.take 8 ++ '-' :: (id.digits.drop 8).take 4 ++ '-' :: (id.digits.drop 12).take 4 ++
    '-' :: (id.digits.drop 16).take 4 ++ '-' :: id.digits.drop 20

theorem length_digits (id : Uuid) : id.digits.length = 32 := length_paddedDigits 16 32 _

theorem length_text (id : Uuid) : id.text.length = 36 := by
  simp [text, length_digits]

end Uuid

end QueryFilter
