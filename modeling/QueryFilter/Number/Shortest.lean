import QueryFilter.Number.Decimal

/-!
# The shortest decimal that reads back

`shortestDecimal` gives, for the magnitude of a finite double, a decimal with the fewest digits
that reads as that magnitude. For one to seventeen digits it tries the two neighbours of the exact
value on the grid of decimals with that many digits; the first grid with a hit decides, of two hits
the nearer, and of two equally near the one with an even last digit.
-/

set_option autoImplicit false

namespace QueryFilter

/-! ## One grid -/

/-- Of a number and its successor the one that hits, and of two hits the first if it is nearer. -/
def pickNeighbour (hits : Nat → Bool) (low : Nat) (lowIsNearer : Bool) : Option Nat :=
  if hits low && (lowIsNearer || !hits (low + 1)) then some low
  else if hits (low + 1) then some (low + 1)
  else none

theorem hits_of_pickNeighbour {hits : Nat → Bool} {low picked : Nat} {lowIsNearer : Bool}
    (h : pickNeighbour hits low lowIsNearer = some picked) : hits picked = true := by
  unfold pickNeighbour at h
  split at h
  · rename_i hlow
    cases h
    exact (Bool.and_eq_true _ _ ▸ hlow).1
  · split at h
    · rename_i hhigh
      cases h
      exact hhigh
    · cases h

/-- Is the rest at most half a step, and less than half if the number below it is odd? -/
def isLowerHalf (low rest step : Nat) : Bool :=
  decide (2 * rest < step) || decide (2 * rest = step) && low % 2 == 0

/-! ## The search -/

/-- The digits of 10^-1074 units in one unit of 2^-1074. -/
@[irreducible] def digitsPerUnit : Nat := Nat.pow 5 1074

/-- The exact value of a magnitude is this number times 10^-1074. -/
def exactDigits (magnitude : Nat) : Nat := unitsOfMagnitude magnitude * digitsPerUnit

/-- The decimal whose last digit has `cut` digits of the exact value behind it. -/
def gridDecimal (cut digits : Nat) : Decimal := ⟨digits, (cut : Int) - 1074⟩

/-- Does the decimal read as the magnitude? -/
def readsAs (magnitude cut digits : Nat) : Bool :=
  (gridDecimal cut digits).magnitude? == some magnitude

/-- The decimal next to the exact value, `cut` digits cut off, that reads back as the magnitude. -/
def onGrid? (magnitude cut : Nat) : Option Decimal :=
  let step := powerOfTen cut
  let low := exactDigits magnitude / step
  let lowIsNearer := isLowerHalf low (exactDigits magnitude % step) step
  (pickNeighbour (readsAs magnitude cut) low lowIsNearer).map (gridDecimal cut)

/-- A decimal with the fewest digits that reads back as the magnitude. Seventeen digits always
suffice; the exact value stands behind the search so that the function is total. -/
def shortestDecimal (magnitude : Nat) : Decimal :=
  let count := digitCount (exactDigits magnitude)
  -- a grid of one digit more is tried only when no coarser one has a hit
  let found := (List.range 17).findSome? fun digits => onGrid? magnitude (count - (digits + 1))
  (found.getD (gridDecimal 0 (exactDigits magnitude))).trim

/-- Whatever a grid yields reads back. -/
theorem magnitude?_of_onGrid? {magnitude cut : Nat} {decimal : Decimal}
    (h : onGrid? magnitude cut = some decimal) : decimal.magnitude? = some magnitude := by
  obtain ⟨digits, hpick, rfl⟩ := Option.map_eq_some_iff.mp h
  exact beq_iff_eq.mp (hits_of_pickNeighbour hpick)

end QueryFilter
