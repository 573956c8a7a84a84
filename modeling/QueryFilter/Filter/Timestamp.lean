import QueryFilter.Filter.Typed

/-!
# Timestamp filters

A timestamp filter names the time that it looks at under the key `timestamp`, in place of a property
and a type. It offers three operations.
-/

set_option autoImplicit false

namespace QueryFilter

namespace TimestampFilter

variable {ε α : Type}

/-- The filter on a timestamp, without an operation yet. -/
def new (timestamp : String) : TimestampFilter :=
  ⟨Entries.ofList [("timestamp", .text timestamp)]⟩

/-- The filter on the time when a page was created. -/
def createdTime : TimestampFilter := new "created_time"

/-- The filter on the time when a page was last edited. -/
def lastEditedTime : TimestampFilter := new "last_edited_time"

/-- The name of the timestamp. -/
def timestamp (filter : TimestampFilter) : String := filter.payload.textAt "timestamp"

/-! ## Operations -/

/-- The operations that timestamp filters offer. -/
def operations : List Operation := [.equals, .isEmpty, .isNotEmpty]

/-- Sets the value of an operation. -/
def set (filter : TimestampFilter) (operation : Operation) (value : Value) :
    Logged ε TimestampFilter :=
  TimestampFilter.mk <$> filter.payload.setOperation operation value

/-- The time equals a value. -/
def equals [ToValue α] (filter : TimestampFilter) (value : α) : Logged ε TimestampFilter :=
  filter.set .equals (toValue value)

/-- There is no such time. -/
def isEmpty (filter : TimestampFilter) : Logged ε TimestampFilter :=
  filter.set .isEmpty (.bool true)

/-- There is such a time. -/
def isNotEmpty (filter : TimestampFilter) : Logged ε TimestampFilter :=
  filter.set .isNotEmpty (.bool true)

/-- Uses an operation chosen at run time, if it is offered. -/
def use? (filter : TimestampFilter) (value : Value) :
    Operation → Option (Logged ε TimestampFilter)
  | .equals => some (filter.equals value)
  | .isEmpty => some filter.isEmpty
  | .isNotEmpty => some filter.isNotEmpty
  | _ => none

end TimestampFilter

end QueryFilter
