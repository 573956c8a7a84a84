/-!
# Blank characters

`isBlank` is the property `White_Space` of the Unicode character database: twenty-five
characters, the controls from tab to carriage return among them, but not the zero-width space
and not the byte order mark.
-/

set_option autoImplicit false

namespace QueryFilter

/-- The ranges of code points that have the property, both ends included. -/
def blankRanges : List (Nat × Nat) :=
  [(0x09, 0x0D), (0x20, 0x20), (0x85, 0x85), (0xA0, 0xA0), (0x1680, 0x1680), (0x2000, 0x200A),
    (0x2028, 0x2029), (0x202F, 0x202F), (0x205F, 0x205F), (0x3000, 0x3000)]

/-- Is this a blank character? -/
def isBlank (character : Char) : Bool :=
  blankRanges.any fun range =>
    decide (range.1 ≤ character.toNat) && decide (character.toNat ≤ range.2)

end QueryFilter
