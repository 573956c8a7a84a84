import QueryFilter.Number.Double

/-!
# Single-precision words

A `Single` is a 32-bit word of the binary32 format. Its finite values are whole numbers of units
of 2^-149, all of which are doubles; `Single.toDouble` is exact on them and keeps the sign.
-/

set_option autoImplicit false

namespace QueryFilter

/-- A word of the binary32 format. -/
structure Single where
  bits : UInt32
  deriving DecidableEq, Inhabited

namespace Single

/-- How many magnitudes share an exponent: 2^23. -/
def binadeSize : Nat := 8388608

/-- What the sign bit adds to a word: 2^31. -/
def signWeight : Nat := 2147483648

/-- The word without its sign bit. -/
def magnitude (x : Single) : Nat := x.bits.toNat % signWeight

/-- Is the sign bit set? -/
def isNegative (x : Single) : Bool := decide (signWeight ≤ x.bits.toNat)

/-- The magnitude of infinity in the narrow format. -/
def infinityMagnitude : Nat := 255 * binadeSize

/-- The absolute value of a finite word, in units of 2^-149. -/
def units (x : Single) : Nat :=
  if x.magnitude < binadeSize then x.magnitude
  else (binadeSize + x.magnitude % binadeSize) <<< (x.magnitude / binadeSize - 1)

/-- The magnitude of the same value in the wide format. A word that is not a number stays one:
its fraction bits lead those of the wide word. -/
def wideMagnitude (x : Single) : Nat :=
  if x.magnitude < infinityMagnitude then nearestMagnitude (x.units <<< 925) 1
  else QueryFilter.infinityMagnitude + (x.magnitude - infinityMagnitude) <<< 29

/-- The double of the same value and sign. -/
def toDouble (x : Single) : Double := Double.ofMagnitude x.isNegative x.wideMagnitude

end Single

end QueryFilter
