import QueryFilter.Filter.Compound
import QueryFilter.Filter.Dynamic
import QueryFilter.Filter.Timestamp
import QueryFilter.Filter.Wrapped
import QueryFilter.Sample.Value

/-!
# Sampled filters

Filters of every kind with operations that their types support, and compounds of them, four deep at
most.
-/

set_option autoImplicit false

namespace QueryFilter

/-- The types whose properties have operations of their own. -/
def PropertyType.operable : List PropertyType :=
  [.checkbox, .date, .files, .multiSelect, .number, .people, .relation, .richText, .select,
    .status, .uniqueId]

namespace Sampler

/-! ## Names -/

/-- A type whose properties have operations. -/
def operableType : Sampler PropertyType := elements PropertyType.operable

/-- Any operation. -/
def operation : Sampler Operation := elements Operation.all

/-- An operation of a type; there is none if the type has no operations. -/
def operationOf (type : PropertyType) : Sampler Operation := elements type.operations

/-! ## Filters without members -/

/-- A dynamic filter with one to four operations of its type. -/
def dynamicFilter : Sampler DynamicFilter :=
  (both propertyName (dependent operableType fun type =>
    (lists 1 4 (both (operationOf type) filterValue)).map fun attempts => (type, attempts))).map
    fun (name, type, attempts) => (DynamicFilter.new name type).attemptAll attempts

/-- A number filter with a lower and an upper bound, and perhaps a third operation. -/
def numberFilter : Sampler (TypedFilter .number) :=
  (both propertyName (both word (both word flag))).map fun (name, lower, upper, present) =>
    Logged.value do
      let bounded ← (TypedFilter.new .number name).greaterThan lower
      let bounded ← bounded.lessThanOrEqualTo upper
      if present then bounded.isNotEmpty else return bounded

/-- A timestamp filter that compares with a scalar. -/
def timestampFilter : Sampler TimestampFilter :=
  (both (elements ["created_time", "last_edited_time"]) scalarValue).map
    fun (timestamp, value) => ((TimestampFilter.new timestamp).equals value).value

/-- A formula or a rollup around a dynamic filter. -/
def wrappedFilter : Sampler Filter :=
  (both propertyName (both typeName (both dynamicFilter
    (combined (elements ["any", "every", "none"]) flag)))).map
    fun (name, typeName, inner, aggregation, isFormula) =>
      .property <|
        if isFormula then .formula (.new name typeName (.dynamic inner))
        else .rollup (.new name aggregation typeName (.dynamic inner))

/-- Any filter that is not a compound. -/
def leafFilter : Sampler Filter :=
  oneOf [dynamicFilter.map (.property <| .dynamic ·),
    numberFilter.map (.property <| .typed .number ·), timestampFilter.map .timestamp, wrappedFilter]

/-! ## Compounds -/

/-- A compound of up to three draws. -/
def compoundFilter (member : Sampler Filter) : Sampler Filter :=
  (both (elements BoolOperator.all) (lists 0 3 member)).map fun (operator, members) =>
    .compound (CompoundFilter.compose operator.name members).value

/-- Any filter, with compounds nested four deep at most. -/
def anyFilter : Sampler Filter := nested compoundFilter leafFilter 4

end Sampler

end QueryFilter
