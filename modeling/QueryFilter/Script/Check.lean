import QueryFilter.Filter.Expectation
import QueryFilter.Script.Recipe

/-!
# Checks

A `Check` is an expectation of a script on a filter that it makes. Whether a check holds is a truth
value; a filter, a value or a name that cannot be made is a failure.
-/

set_option autoImplicit false

namespace QueryFilter

/-- An expectation of a script. -/
inductive Check where
  | rendersAs (text : String)
  | hasKeys (keys : List String)
  | roundTrips
  | failsToRender
  /-- an operation on a dynamic filter is rejected, which cannot be asked of any other filter; all
  names may be spelled loosely -/
  | rejects (operation : String) (literal : Literal) (expectedType expectedOperation : String)

namespace Check

/-- Does the check hold of a filter? -/
def holds (filter : Filter) : Check → Except Failure Bool
  | .rendersAs text => .ok (filter.rendersAs text)
  | .hasKeys keys => .ok (filter.hasKeys keys)
  | .roundTrips => .ok filter.roundTrips
  | .failsToRender => .ok filter.failsToRender
  | .rejects operation literal expectedType expectedOperation =>
    match filter with
    | .property (.dynamic filter) => do
      -- as in a call, the value is made before the operation is looked up
      let value ← literal.evaluate
      let operation ← (Operation.parse operation).mapError .name
      let expectedType ← (PropertyType.parse expectedType).mapError .name
      let expectedOperation ← (Operation.parse expectedOperation).mapError .name
      return isRejection expectedType expectedOperation (filter.apply operation value).result
    | _ => .error .notCallable

/-- Does the check hold of the filter that a recipe makes? -/
def holdsOf (recipe : Recipe) (check : Check) : Except Failure Bool := do
  check.holds (← (recipe.build []).result)

end Check

end QueryFilter
