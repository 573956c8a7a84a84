import Mathlib.Tactic.Common
import QueryFilter.Filter.Compound
import QueryFilter.Filter.Dynamic
import QueryFilter.Filter.Timestamp
import QueryFilter.Filter.Wrapped

set_option autoImplicit false

/-!
# What operations do to filter objects

One equation for each way to change a filter: the events that are reported and the filter object
that results. Whether an operation succeeds never depends on the value that it is given.
-/

namespace QueryFilter

/-- The value that an operation stores when it is given a value. -/
def Operation.stored (operation : Operation) (value : Value) : Value :=
  if operation.isUnary then .bool true else value

/-- What an operation stores it stores again when it is given it. -/
theorem Operation.stored_stored (operation : Operation) (value : Value) :
    operation.stored (operation.stored value) = operation.stored value := by
  unfold Operation.stored
  split
  · rfl
  · rfl

theorem TypedFilter.use_eq {ε : Type} {builder : Builder} (filter : TypedFilter builder)
    (value : Value) (operation : Operation) (offered : builder.offers operation = true) :
    (filter.use value operation offered : Logged ε (TypedFilter builder))
      = ⟨[.operationSet operation],
          .ok ⟨filter.payload.insert operation.name (operation.stored value)⟩⟩ := by
  cases operation <;> rfl

theorem TimestampFilter.use?_eq {ε : Type} (filter : TimestampFilter) (value : Value)
    (operation : Operation) :
    (filter.use? value operation : Option (Logged ε TimestampFilter))
      = if operation ∈ TimestampFilter.operations then
          some ⟨[.operationSet operation],
            .ok ⟨filter.payload.insert operation.name (operation.stored value)⟩⟩
        else none := by
  cases operation <;> rfl

theorem DynamicFilter.apply_eq (filter : DynamicFilter) (operation : Operation) (value : Value) :
    filter.apply operation value
      = if filter.type.supports operation then
          ⟨[.operationSet operation],
            .ok ⟨filter.type, filter.payload.insert operation.name (operation.stored value)⟩⟩
        else
          ⟨[.operationRejected filter.type operation],
            .error (.unsupportedOperation filter.type operation)⟩ := by
  rw [DynamicFilter.apply]
  split
  · rfl
  · rfl

theorem DynamicFilter.result_apply (filter : DynamicFilter) (operation : Operation)
    (value : Value) :
    (filter.apply operation value).result
      = if filter.type.supports operation then
          .ok ⟨filter.type, filter.payload.insert operation.name (operation.stored value)⟩
        else .error (.unsupportedOperation filter.type operation) := by
  rw [apply_eq, apply_ite Logged.result]

theorem CompoundFilter.compose_eq {ε : Type} (operator : String) (members : List Filter) :
    (CompoundFilter.compose operator members : Logged ε CompoundFilter)
      = ⟨[.compoundComposed operator members.length],
          .ok ⟨operator, [(operator, .array (members.map memberValue))]⟩⟩ := rfl

/-- A compound that finds its list stores it under its operator. -/
theorem CompoundFilter.get?_of_stored? {filter : CompoundFilter} {items : List Value}
    (h : filter.stored? = some items) :
    filter.payload.get? filter.operator = some (.array items) := by
  rw [stored?, Option.bind_eq_some_iff] at h
  obtain ⟨value, hget, harray⟩ := h
  cases value with
  | array found => cases harray; exact hget
  | _ => cases harray

end QueryFilter
