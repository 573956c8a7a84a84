import QueryFilter.Script.Failure
import QueryFilter.Value.Conversion

/-!
# Literals

A `Literal` says how a value is made. Its parts are made in order, depth first, and the first
failure is the outcome.
-/

set_option autoImplicit false

namespace QueryFilter

/-- How a value is made. -/
inductive Literal where
  /-- a value at hand -/
  | given (value : Value)
  /-- the array of some values -/
  | list (items : List Literal)
  /-- the object into which some values are inserted in turn -/
  | entries (pairs : List (String × Literal))
  /-- the value of the document in a text -/
  | json (text : String)

namespace Literal

mutual

/-- The value that is made. -/
def evaluate : Literal → Except Failure Value
  | .given value => .ok value
  | .list items => (evaluateItems items).map toValue
  | .entries pairs => (evaluateEntries pairs).map fun pairs => toValue (Entries.ofList pairs)
  | .json text => do Value.ofDocument (← Json.ofText text)

/-- The values that are made one by one. -/
def evaluateItems : List Literal → Except Failure (List Value)
  | [] => .ok []
  | item :: rest => do
    let first ← evaluate item
    let others ← evaluateItems rest
    return first :: others

/-- The values that are made one by one, with their keys. -/
def evaluateEntries : List (String × Literal) → Except Failure (List (String × Value))
  | [] => .ok []
  | (key, item) :: rest => do
    let first ← evaluate item
    let others ← evaluateEntries rest
    return (key, first) :: others

end

/-- The filter object into which some values are inserted in turn. -/
def payload (pairs : List (String × Literal)) : Except Failure Payload :=
  (evaluateEntries pairs).map Entries.ofList

end Literal

end QueryFilter
