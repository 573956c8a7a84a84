import QueryFilter.FilterError
import QueryFilter.Json.Reader
import QueryFilter.Value.Conversion

/-!
# Filter values and JSON documents

`Value.toJson` makes a document of a value. It fails on a number that is not finite, the first one
in document order. `Value.ofJson` makes a value of a document. It fails on null; an integer above
the signed range becomes the nearest double.
-/

set_option autoImplicit false

namespace QueryFilter

/-- A double as a JSON number, if it is finite. -/
def Double.toJsonNumber (number : Double) : Except NonFinite JsonNumber :=
  if finite : number.isFinite = true then .ok (.float number finite)
  else .error number.nonFinite

namespace Value

/-! ## From values to documents -/

mutual

/-- The document of a value. -/
def toJson : Value → Except NonFinite Json
  | .bool flag => .ok (.bool flag)
  | .int number => .ok (.number (.ofInt64 number))
  | .float number => number.toJsonNumber.map .number
  | .text content => .ok (.string content)
  | .array items => (toJsonItems items).map .array
  | .object entries => (toJsonEntries [] entries).map .object

/-- The documents of the items, in order. -/
def toJsonItems : List Value → Except NonFinite (List Json)
  | [] => .ok []
  | item :: rest => do
    let first ← toJson item
    let others ← toJsonItems rest
    return first :: others

/-- Inserts the documents of the entries, in order, behind those that are already there. -/
def toJsonEntries (members : Entries Json) : List (String × Value) → Except NonFinite (Entries Json)
  | [] => .ok members
  | (key, value) :: rest => do
    let document ← toJson value
    toJsonEntries (members.insert key document) rest

end

/-! ## From documents to values -/

/-- The value of a JSON number. -/
def ofJsonNumber : JsonNumber → Value
  | .integer number _ _ =>
    if number < signedBound then .int (Int64.ofInt number) else .float (Double.ofNat number.toNat)
  | .float number _ => .float number

mutual

/-- The value of a document, which may hold no null. -/
def ofJson : Json → Except ValueFault Value
  | .null => .error .null
  | .bool flag => .ok (.bool flag)
  | .number number => .ok (ofJsonNumber number)
  | .string content => .ok (.text content)
  | .array items => (ofJsonItems items).map .array
  | .object members => (ofJsonMembers [] members).map .object

/-- The values of the items, in order. -/
def ofJsonItems : List Json → Except ValueFault (List Value)
  | [] => .ok []
  | item :: rest => do
    let first ← ofJson item
    let others ← ofJsonItems rest
    return first :: others

/-- Inserts the values of the members, in order, behind those that are already there. -/
def ofJsonMembers (entries : Payload) : List (String × Json) → Except ValueFault Payload
  | [] => .ok entries
  | (key, document) :: rest => do
    let value ← ofJson document
    ofJsonMembers (entries.insert key value) rest

end

end Value

end QueryFilter
