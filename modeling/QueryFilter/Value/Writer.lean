import QueryFilter.FilterError
import QueryFilter.Json.Layout
import QueryFilter.Value.Json

/-!
# Writing filter values

`Value.write` is the JSON text of a value, made directly from the value. It fails on the first
number in document order that is not finite.
-/

set_option autoImplicit false

namespace QueryFilter

/-- The text of a double, if it is finite. -/
def Double.write (number : Double) : Except NonFinite Fragment :=
  if number.isFinite then .ok (.ofList (JsonNumber.floatText number)) else .error number.nonFinite

namespace Value

mutual

/-- The text of a value that stands at a level of nesting. -/
def write (layout : Layout) (level : Nat) : Value → Except NonFinite Fragment
  | .bool flag => .ok (.ofList (Layout.boolText flag))
  | .int number => .ok (.ofList (integerText number.toInt))
  | .float number => number.write
  | .text content => .ok (.ofList (quoted content.toList))
  | .array items => (writeItems layout (level + 1) items).map (layout.arrayText level)
  | .object entries => (writeEntries layout (level + 1) entries).map (layout.objectText level)

/-- The texts of the items of an array. -/
def writeItems (layout : Layout) (level : Nat) : List Value → Except NonFinite (List Fragment)
  | [] => .ok []
  | item :: rest => do
    let first ← write layout level item
    let others ← writeItems layout level rest
    return first :: others

/-- The texts of the entries of an object. -/
def writeEntries (layout : Layout) (level : Nat) :
    List (String × Value) → Except NonFinite (List Fragment)
  | [] => .ok []
  | (key, value) :: rest => do
    let first ← write layout level value
    let others ← writeEntries layout level rest
    return layout.memberText key first :: others

end

end Value

namespace Payload

/-- The text of a filter object. -/
def write (layout : Layout) (level : Nat) (payload : Payload) : Except NonFinite Fragment :=
  Value.write layout level (.object payload)

/-- The members of a filter object as those of a JSON object. -/
def toMembers (payload : Payload) : Except NonFinite (Entries Json) :=
  Value.toJsonEntries [] payload

end Payload

end QueryFilter
