import QueryFilter.Filter.Dynamic
import QueryFilter.Filter.Timestamp
import QueryFilter.Script.Literal

/-!
# Operations by name

A `Call` is an operation that a script uses on a filter. Its value is made before the operation is
looked up. Typed and timestamp filters know their own operations by exact name, dynamic filters know
every operation by any spelling, and other filters have no operations.
-/

set_option autoImplicit false

namespace QueryFilter

/-- The value that an operation is used with: one without a value of its own needs none. -/
def Operation.argument? (operation : Operation) (argument : Option Value) : Option Value :=
  if operation.isUnary then some (.bool true) else argument

/-- Uses the operation that has exactly this name, if the builder offers it. -/
def TypedFilter.call {builder : Builder} (filter : TypedFilter builder) (name : String)
    (argument : Option Value) : Logged Failure (TypedFilter builder) :=
  match Operation.all.find? (·.name == name) with
  | none => .fail .notCallable
  | some operation =>
    match operation.argument? argument with
    | none => .fail .notCallable
    | some value =>
      if offered : builder.offers operation = true then filter.use value operation offered
      else .fail .notCallable

/-- Uses the operation that has exactly this name, if timestamp filters offer it. -/
def TimestampFilter.call (filter : TimestampFilter) (name : String) (argument : Option Value) :
    Logged Failure TimestampFilter :=
  match TimestampFilter.operations.find? (·.name == name) with
  | none => .fail .notCallable
  | some operation =>
    match (operation.argument? argument).bind (filter.use? · operation) with
    | none => .fail .notCallable
    | some used => used

/-- Uses an operation by any spelling of its name, or one of the two shorthands, which take no
value. A value that is left out is true. -/
def DynamicFilter.call (filter : DynamicFilter) (name : String) (argument : Option Value) :
    Logged Failure DynamicFilter :=
  match name, argument with
  | "apply_empty", none => filter.applyEmpty.mapError .filter
  | "apply_not_empty", none => filter.applyNotEmpty.mapError .filter
  | _, _ => do
    let operation ← Logged.ofExcept ((Operation.parse name).mapError .name)
    (filter.apply operation (argument.getD (.bool true))).mapError .filter

/-- Uses an operation by name. Filters that only hold other filters have none. -/
def Filter.call (filter : Filter) (name : String) (argument : Option Value) :
    Logged Failure Filter :=
  match filter with
  | .property (.typed builder filter) =>
    (.property <| .typed builder ·) <$> filter.call name argument
  | .property (.dynamic filter) => (.property <| .dynamic ·) <$> filter.call name argument
  | .timestamp filter => .timestamp <$> filter.call name argument
  | .property (.formula _) | .property (.rollup _) | .compound _ | .object _ => .fail .notCallable

/-- An operation that is to be used on a filter: its name, and how its value is made. -/
structure Call where
  name : String
  argument : Option Literal

namespace Call

/-- Makes the value, then uses the operation. -/
def perform (call : Call) (filter : Filter) : Logged Failure Filter :=
  match call.argument with
  | none => filter.call call.name none
  | some literal => do
    let value ← Logged.ofExcept literal.evaluate
    filter.call call.name (some value)

/-- Performs calls one after the other. -/
def performAll : List Call → Filter → Logged Failure Filter
  | [], filter => pure filter
  | call :: rest, filter => do performAll rest (← call.perform filter)

end Call

end QueryFilter
