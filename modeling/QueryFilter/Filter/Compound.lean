import QueryFilter.Filter.Basic
import QueryFilter.Vocabulary.BoolOperator

/-!
# Compound filters

A compound filter has one entry: the list of its members' objects under its operator. Members are
copied in when they are added and keep their order. Any text may serve as an operator; `all` and
`any` use the two that are in the vocabulary.
-/

set_option autoImplicit false

namespace QueryFilter

namespace CompoundFilter

variable {ε : Type}

/-- The value that a member is stored as. -/
def memberValue (member : Filter) : Value := .object member.payload

/-- Joins filters by an operator, and reports it. -/
def compose (operator : String) (members : List Filter) : Logged ε CompoundFilter := do
  Logged.report (.compoundComposed operator members.length)
  return ⟨operator, Entries.ofList [(operator, .array (members.map memberValue))]⟩

/-- All of the members have to match. -/
def all (members : List Filter) : Logged ε CompoundFilter :=
  compose BoolOperator.and.name members

/-- At least one of the members has to match. -/
def any (members : List Filter) : Logged ε CompoundFilter :=
  compose BoolOperator.or.name members

/-- Wraps a filter as the only member of a compound, and that in the next one, for each operator. -/
def nest : List String → Filter → Logged ε Filter
  | [], filter => pure filter
  | operator :: rest, filter => do
    let outer ← compose operator [filter]
    nest rest (.compound outer)

/-! ## Members -/

/-- What stands under the operator, if it is a list. -/
def stored? (filter : CompoundFilter) : Option (List Value) :=
  (filter.payload.get? filter.operator).bind Value.asArray?

/-- Appends a member. -/
def push (filter : CompoundFilter) (member : Filter) : CompoundFilter :=
  match filter.stored? with
  | some members =>
    let extended := Value.array (members ++ [memberValue member])
    ⟨filter.operator, filter.payload.insert filter.operator extended⟩
  | none => filter

/-- The objects of the members, in order. -/
def members (filter : CompoundFilter) : List Payload :=
  (filter.stored?.getD []).filterMap Value.asObject?

/-- The number of members. -/
def length (filter : CompoundFilter) : Nat := filter.members.length

/-- Are there no members? -/
def isEmpty (filter : CompoundFilter) : Bool := filter.length == 0

end CompoundFilter

end QueryFilter
