import QueryFilter.Filter.Basic
import QueryFilter.Json.Reader

/-!
# Expectations

What can be expected of a filter or of the outcome of an operation, as decidable questions.
-/

set_option autoImplicit false

namespace QueryFilter

namespace Filter

/-- Is this the text of the filter on one line? -/
def rendersAs (filter : Filter) (expected : String) : Bool :=
  match filter.toText.result with
  | .ok text => text == expected
  | .error _ => false

/-- Are these the keys of the filter object, in order? -/
def hasKeys (filter : Filter) (expected : List String) : Bool := filter.payload.keys == expected

/-- Does the text of the filter read back as its JSON mapping? -/
def roundTrips (filter : Filter) : Bool :=
  match filter.toText.result, filter.toDict.result with
  | .ok text, .ok members => Json.ofText? text == some (.object members)
  | _, _ => false

/-- Is there no text of the filter, because a number in it is not finite? -/
def failsToRender (filter : Filter) : Bool :=
  match filter.toText.result with
  | .error (.serialization _) => true
  | _ => false

end Filter

/-- Is this the rejection of an operation by a property type? -/
def isRejection {α : Type} (type : PropertyType) (operation : Operation) :
    Except FilterError α → Bool
  | .error error => error == .unsupportedOperation type operation
  | .ok _ => false

end QueryFilter
