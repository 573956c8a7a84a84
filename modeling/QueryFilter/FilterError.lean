import QueryFilter.Number.Double
import QueryFilter.Vocabulary.PropertyType

/-!
# Filter errors

What can go wrong while a filter is built or written: an operation that the property type does not
support, something that is not a filter value, and a number that JSON cannot hold.
-/

set_option autoImplicit false

namespace QueryFilter

/-- Why something is not a filter value. -/
inductive ValueFault where
  /-- a JSON null -/
  | null
  /-- the name of a property type that does not exist -/
  | name (error : NameError)
  deriving DecidableEq, Repr

/-- The reason that an error on a value gives. -/
def ValueFault.reason : ValueFault → String
  | .null => "null is not a filter value"
  | .name error => error.message

/-- The reason that an error on a non-finite number gives. -/
def NonFinite.reason (number : NonFinite) : String :=
  "non-finite number " ++ number.name ++ " cannot be represented in JSON"

/-- An error while a filter is built or written. -/
inductive FilterError where
  | unsupportedOperation (type : PropertyType) (operation : Operation)
  | invalidValue (fault : ValueFault)
  | serialization (number : NonFinite)
  deriving DecidableEq, Repr

/-- The message of an error. -/
def FilterError.message : FilterError → String
  | .unsupportedOperation type operation =>
    "Unsupported operation '" ++ operation.name ++ "' for property type '" ++ type.name ++ "'"
  | .invalidValue fault => "Invalid filter value: " ++ fault.reason
  | .serialization number => "Serialization failed: " ++ number.reason

end QueryFilter
