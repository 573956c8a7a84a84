import QueryFilter.Calendar.Instant
import QueryFilter.Number.Single
import QueryFilter.Uuid
import QueryFilter.Value.Basic

/-!
# Conversions to filter values

`toValue` makes a value of whatever a caller has at hand. Integers stay integers as long as they fit
in 64 signed bits and become the nearest double beyond; identifiers, dates and instants become their
texts. No conversion fails.
-/

set_option autoImplicit false

namespace QueryFilter

/-- Types whose members can stand under a key of a filter object. -/
class ToValue (α : Type) where
  /-- The value of a member. -/
  toValue : α → Value

export ToValue (toValue)

/-- The first natural number above the signed words: 2^63. -/
def signedBound : Nat := 9223372036854775808

namespace Value

/-- The value of an integer: an integer if it fits, else the nearest double. Only integers above
the range are rounded, since unsigned words are the widest in use. -/
def ofNat (number : Nat) : Value :=
  if number < signedBound then .int (Int64.ofNat number) else .float (Double.ofNat number)

end Value

/-! ## Truth values and integers -/

instance : ToValue Value := ⟨id⟩

instance : ToValue Bool := ⟨.bool⟩

instance : ToValue Int8 := ⟨fun number => .int number.toInt64⟩

instance : ToValue Int16 := ⟨fun number => .int number.toInt64⟩

instance : ToValue Int32 := ⟨fun number => .int number.toInt64⟩

instance : ToValue Int64 := ⟨.int⟩

instance : ToValue UInt8 := ⟨fun number => .int (Int64.ofNat number.toNat)⟩

instance : ToValue UInt16 := ⟨fun number => .int (Int64.ofNat number.toNat)⟩

instance : ToValue UInt32 := ⟨fun number => .int (Int64.ofNat number.toNat)⟩

instance : ToValue UInt64 := ⟨fun number => .ofNat number.toNat⟩

/-! ## Doubles -/

instance : ToValue Double := ⟨.float⟩

instance : ToValue Single := ⟨fun number => .float number.toDouble⟩

/-! ## Texts -/

instance : ToValue String := ⟨.text⟩

instance : ToValue Uuid := ⟨fun id => .text (String.ofList id.text)⟩

instance : ToValue Date := ⟨fun date => .text (String.ofList date.text)⟩

instance : ToValue Instant := ⟨fun instant => .text (String.ofList instant.text)⟩

/-! ## Containers -/

instance {α : Type} [ToValue α] : ToValue (List α) := ⟨fun items => .array (items.map toValue)⟩

instance : ToValue Payload := ⟨.object⟩

end QueryFilter
