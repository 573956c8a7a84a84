import QueryFilter.Filter.Compound
import QueryFilter.Filter.Wrapped
import QueryFilter.Script.Call

/-!
# Recipes

A `Recipe` says how a filter is made: how it is begun, what it holds, and which operations are used
on it. Recipes are carried out depth first and in order, inner filters and members before the filter
that holds them, and the first failure is the outcome.
-/

set_option autoImplicit false

namespace QueryFilter

/-! ## Beginnings -/

/-- How a formula filter is begun. -/
inductive FormulaForm where
  | named (typeName : String)
  | string
  | number
  | checkbox
  | date

/-- Wraps an inner filter in a formula, if the form takes one of its kind. -/
def FormulaForm.wrap? (property : String) : FormulaForm → PropertyFilter → Option FormulaFilter
  | .named typeName, inner => some (.new property typeName inner)
  | .string, .typed .richText inner => some (.string property inner)
  | .number, .typed .number inner => some (.number property inner)
  | .checkbox, .typed .checkbox inner => some (.checkbox property inner)
  | .date, .typed .date inner => some (.date property inner)
  | _, _ => none

/-- How a rollup filter is begun. -/
inductive RollupForm where
  | named (aggregation : String)
  | any
  | every
  | none

/-- Wraps an inner filter in a rollup. -/
def RollupForm.wrap (property typeName : String) (inner : PropertyFilter) :
    RollupForm → RollupFilter
  | .named aggregation => .new property aggregation typeName inner
  | .any => .any property typeName inner
  | .every => .every property typeName inner
  | .none => .none property typeName inner

/-- How a timestamp filter is begun. -/
inductive TimestampForm where
  | named (timestamp : String)
  | createdTime
  | lastEditedTime

/-- The timestamp filter without an operation. -/
def TimestampForm.filter : TimestampForm → TimestampFilter
  | .named timestamp => .new timestamp
  | .createdTime => .createdTime
  | .lastEditedTime => .lastEditedTime

/-- How a compound filter is composed. -/
inductive CompoundForm where
  | named (operator : String)
  | all
  | any

/-- Composes members. -/
def CompoundForm.compose {ε : Type} (members : List Filter) :
    CompoundForm → Logged ε CompoundFilter
  | .named operator => CompoundFilter.compose operator members
  | .all => CompoundFilter.all members
  | .any => CompoundFilter.any members

/-- The filter as one that can be wrapped in a formula or a rollup. -/
def Filter.asProperty? : Filter → Option PropertyFilter
  | .property filter => some filter
  | _ => none

/-! ## Recipes -/

/-- How a filter is made. -/
inductive Recipe where
  | typed (builder : Builder) (property : String)
  /-- a dynamic filter on a type whose name is looked up first -/
  | dynamic (property typeName : String)
  /-- a dynamic filter that looks up the name of its type -/
  | namedDynamic (property typeName : String)
  | formula (property : String) (form : FormulaForm) (inner : Recipe)
  | rollup (property typeName : String) (form : RollupForm) (inner : Recipe)
  | timestamp (form : TimestampForm)
  | compound (form : CompoundForm) (members : List Recipe)
  /-- a bare filter object -/
  | object (pairs : List (String × Literal))
  /-- a copy of the filter in a slot -/
  | slot (name : String)
  /-- a filter on which operations are used in order -/
  | called (base : Recipe) (calls : List Call)

namespace Recipe

mutual

/-- Makes a filter. The slots are those that a recipe can copy from. -/
def build (slots : Entries Filter) : Recipe → Logged Failure Filter
  | .typed builder property => pure (.property (.typed builder (.new builder property)))
  | .dynamic property typeName => do
    let type ← Logged.ofExcept ((PropertyType.parse typeName).mapError .name)
    return .property (.dynamic (.new property type))
  | .namedDynamic property typeName => do
    let filter ← Logged.ofExcept ((DynamicFilter.ofTypeName property typeName).mapError .filter)
    return .property (.dynamic filter)
  | .formula property form inner => do
    let inner ← build slots inner
    match inner.asProperty?.bind (form.wrap? property) with
    | none => .fail .notCallable
    | some filter => return .property (.formula filter)
  | .rollup property typeName form inner => do
    let inner ← build slots inner
    match inner.asProperty? with
    | none => .fail .notCallable
    | some inner => return .property (.rollup (form.wrap property typeName inner))
  | .timestamp form => pure (.timestamp form.filter)
  | .compound form members => do
    let members ← buildAll slots members
    return .compound (← form.compose members)
  | .object pairs => .object <$> Logged.ofExcept (Literal.payload pairs)
  | .slot name =>
    match slots.get? name with
    | none => .fail (.emptySlot name)
    | some filter => pure filter
  | .called base calls => do Call.performAll calls (← build slots base)

/-- Makes filters one by one. -/
def buildAll (slots : Entries Filter) : List Recipe → Logged Failure (List Filter)
  | [] => pure []
  | recipe :: rest => do
    let first ← build slots recipe
    let others ← buildAll slots rest
    return first :: others

end

end Recipe

end QueryFilter
