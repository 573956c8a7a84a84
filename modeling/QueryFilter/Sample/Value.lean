import QueryFilter.Sample.Text
import QueryFilter.Value.Conversion

/-!
# Sampled values

Scalars of every kind, and arrays and objects of them, three deep at most. Sampled doubles are
quarters, so that short decimals write them exactly.
-/

set_option autoImplicit false

namespace QueryFilter

/-- The double of a number of quarters. -/
def Double.ofQuarters (number : Int) : Double :=
  ofMagnitude (decide (number < 0)) (nearestMagnitude (number.natAbs * unitsPerOne) 4)

/-- Every month has at least twenty-eight days. -/
theorem le_daysInMonth (year : Int) {month : Nat} (h : 1 ≤ month ∧ month ≤ 12) :
    28 ≤ daysInMonth year month := by
  unfold daysInMonth
  rw [if_pos h]
  split
  · split <;> omega
  · split <;> omega

/-- The date of a month and of a day that every month has; both are counted from zero. -/
def Date.common (year : Int) (month : Fin 12) (day : Fin 28) : Date :=
  ⟨year, month.val + 1, day.val + 1, by omega,
    Nat.le_trans (by omega) (le_daysInMonth year (by omega))⟩

namespace Sampler

/-! ## Scalars -/

/-- Either truth value. -/
def flag : Sampler Bool := elements [false, true]

/-- Any signed word. -/
def word : Sampler Int64 := anything [Int64.minValue, -1, 0, 1, Int64.maxValue]

/-- A quarter below a million in size, or minus a million. -/
def quarters : Sampler Double :=
  (integers (-4000000) 4000000 [-4000000, -1, 0, 1, 2, 3999999] (by decide)).map Double.ofQuarters

/-- Any identifier. -/
def uuid : Sampler Uuid := anything [⟨0⟩, ⟨0x0123456789abcdef0123456789abcdef⟩, ⟨-1⟩]

/-- A date of this century that no month lacks. -/
def date : Sampler Date :=
  (both (integers 2000 2100 [2000, 2004, 2023, 2099] (by decide))
    (both (elements (List.finRange 12)) (elements (List.finRange 28)))).map
    fun (year, month, day) => Date.common year month day

/-- A value that holds no others. -/
def scalarValue : Sampler Value :=
  oneOf [flag.map toValue, word.map toValue, quarters.map toValue, line.map toValue,
    uuid.map toValue, date.map toValue]

/-! ## Containers -/

/-- An array or an object of up to three draws; of draws with the same key the last one stays. -/
def container (item : Sampler Value) : Sampler Value :=
  oneOf [(lists 0 3 item).map toValue,
    (lists 0 3 (both key item)).map fun pairs => toValue (Entries.ofList pairs)]

/-- Any value, with containers nested three deep at most. -/
def filterValue : Sampler Value := nested container scalarValue 3

end Sampler

end QueryFilter
