import QueryFilter.Filter.Typed

/-!
# Dynamic filters

A dynamic filter is for callers who learn the type of a property at run time. Each operation is
checked against the capability table; one that the type does not support is rejected and leaves the
filter as it is.
-/

set_option autoImplicit false

namespace QueryFilter

namespace DynamicFilter

/-- The filter on a property of a type, without an operation yet. -/
def new (property : String) (type : PropertyType) : DynamicFilter :=
  ⟨type, Payload.ofProperty property type⟩

/-- The filter on a property whose type is given by name. -/
def ofTypeName (property typeName : String) : Except FilterError DynamicFilter :=
  match PropertyType.parse typeName with
  | .ok type => .ok (new property type)
  | .error error => .error (.invalidValue (.name error))

/-- Sets the value of an operation if the type supports it. Operations that take no value store
true, whatever value is given. -/
def apply (filter : DynamicFilter) (operation : Operation) (value : Value) :
    Logged FilterError DynamicFilter :=
  if filter.type.supports operation then do
    let stored := if operation.isUnary then .bool true else value
    let payload ← filter.payload.setOperation operation stored
    return ⟨filter.type, payload⟩
  -- a rejection is reported before it becomes the error
  else do
    Logged.report (.operationRejected filter.type operation)
    Logged.fail (.unsupportedOperation filter.type operation)

/-- The property is empty. -/
def applyEmpty (filter : DynamicFilter) : Logged FilterError DynamicFilter :=
  filter.apply .isEmpty (.bool true)

/-- The property is not empty. -/
def applyNotEmpty (filter : DynamicFilter) : Logged FilterError DynamicFilter :=
  filter.apply .isNotEmpty (.bool true)

/-! ## Attempts -/

/-- Applies an operation; the filter stays as it is if the operation is rejected. -/
def attempt (filter : DynamicFilter) (operation : Operation) (value : Value) : DynamicFilter :=
  match (filter.apply operation value).result with
  | .ok applied => applied
  | .error _ => filter

/-- Attempts operations one after the other. -/
def attemptAll (filter : DynamicFilter) (attempts : List (Operation × Value)) : DynamicFilter :=
  attempts.foldl (fun filter (operation, value) => filter.attempt operation value) filter

end DynamicFilter

end QueryFilter
