import QueryFilter.Proofs.Filter.Built

set_option autoImplicit false

/-!
# Compound filters and their members

A compound filter that is built has a single entry, under its operator, and the entry is a list of
objects. So `push` always finds the list, and `members` leaves nothing out. Main statement: after
any run of pushes a compound holds the members that it was composed of and behind them those that
were pushed, and it does not matter how they were wrapped (`CompoundFilter.keeps_members`).
-/

namespace QueryFilter

namespace CompoundFilter

/-- The compound of an operator and the objects of its members. -/
def ofMembers (operator : String) (members : List Payload) : CompoundFilter :=
  ⟨operator, [(operator, .array (members.map Value.object))]⟩

theorem stored?_ofMembers (operator : String) (payloads : List Payload) :
    (ofMembers operator payloads).stored? = some (payloads.map Value.object) := by
  simp [stored?, ofMembers, Entries.get?, Value.asArray?]

theorem members_ofMembers (operator : String) (payloads : List Payload) :
    (ofMembers operator payloads).members = payloads := by
  rw [members, stored?_ofMembers, Option.getD_some, List.filterMap_map]
  exact List.filterMap_some

theorem push_ofMembers (operator : String) (payloads : List Payload) (member : Filter) :
    (ofMembers operator payloads).push member
      = ofMembers operator (payloads ++ [member.payload]) := by
  rw [push, stored?_ofMembers]
  simp [ofMembers, Entries.insert, memberValue]

end CompoundFilter

/-- The filter is of another kind, or a compound that holds objects under its operator and nothing
else. -/
def Filter.IsShaped : Filter → Prop
  | .compound filter => ∃ payloads, filter = .ofMembers filter.operator payloads
  | _ => True

theorem Filter.Built.isShaped : ∀ {filter : Filter}, filter.Built → filter.IsShaped
  | _, .compose operator hmembers => ⟨List.map Filter.payload _, by
      rw [CompoundFilter.compose_eq, Logged.value, CompoundFilter.ofMembers, List.map_map]
      rfl⟩
  | _, .push hfilter hmember => by
      obtain ⟨payloads, h⟩ := hfilter.isShaped
      rw [h, CompoundFilter.push_ofMembers]
      exact ⟨_, rfl⟩
  | _, .typed _ _ => trivial
  | _, .use _ _ _ _ => trivial
  | _, .dynamic _ _ => trivial
  | _, .apply _ _ _ => trivial
  | _, .formula _ _ _ => trivial
  | _, .rollup _ _ _ _ => trivial
  | _, .timestamp _ => trivial
  | _, .useTimestamp _ _ _ => trivial
  | _, .object _ => trivial

namespace CompoundFilter

/-! ## Runs of pushes -/

/-- Pushes members in turn. -/
def pushAll (filter : CompoundFilter) (members : List Filter) : CompoundFilter :=
  members.foldl push filter

theorem value_compose (operator : String) (members : List Filter) :
    (compose operator members).value = ofMembers operator (members.map Filter.payload) := by
  rw [compose_eq, Logged.value, ofMembers, List.map_map]
  rfl

theorem pushAll_ofMembers (operator : String) (payloads : List Payload) (members : List Filter) :
    (ofMembers operator payloads).pushAll members
      = ofMembers operator (payloads ++ members.map Filter.payload) := by
  induction members generalizing payloads with
  | nil => rw [List.map_nil, List.append_nil, pushAll, List.foldl_nil]
  | cons member rest ih =>
      show ((ofMembers operator payloads).push member).pushAll rest = _
      rw [push_ofMembers, ih, List.append_assoc]
      rfl

/-- Composing first and pushing later comes to composing at once. -/
theorem pushAll_compose (operator : String) (initial pushed : List Filter) :
    (compose operator initial).value.pushAll pushed
      = (compose operator (initial ++ pushed)).value := by
  rw [value_compose, pushAll_ofMembers, value_compose, List.map_append]

/-! ## What a compound holds -/

/-- The compound has taken these members under this operator, and nothing else. -/
structure Holds (filter : CompoundFilter) (operator : String) (members : List Filter) : Prop where
  operator_eq : filter.operator = operator
  /-- the only entry is an array of objects -/
  payload_eq : filter.payload
    = [(operator, .array (members.map fun member => .object member.payload))]
  members_eq : filter.members = members.map Filter.payload
  length_eq : filter.length = members.length
  isEmpty_iff : filter.isEmpty = true ↔ members = []
  /-- there is a list for `push` to extend, and `members` gives all of it -/
  stored?_eq : filter.stored? = some (filter.members.map .object)
  composed_eq : (compose operator members).value = filter
  /-- the compound can be composed of what it shows -/
  rebuilt_eq : (compose filter.operator (filter.members.map .object)).value = filter

theorem holds_compose (operator : String) (members : List Filter) :
    (compose operator members).value.Holds operator members := by
  have hform := value_compose operator members
  have hmembers : (compose operator members).value.members = members.map Filter.payload := by
    rw [hform, members_ofMembers]
  have hlength : (compose operator members).value.length = members.length := by
    rw [length, hmembers, List.length_map]
  refine ⟨rfl, rfl, hmembers, hlength, ?_, ?_, rfl, ?_⟩
  · rw [isEmpty, hlength, beq_iff_eq, List.length_eq_zero_iff]
  · rw [hmembers, hform, stored?_ofMembers]
  · -- the objects of the members make the same compound as the members
    have hobjects : (members.map Filter.payload).map (Filter.payload ∘ Filter.object)
        = members.map Filter.payload := List.map_id _
    rw [hmembers, value_compose, List.map_map, hobjects, hform]
    rfl

end CompoundFilter

/-! ## Wrapping -/

/-- What can be a member of a compound: it has a filter object, and keeps it when it is taken as any
filter. -/
class Composable (α : Type) where
  /-- the filter object -/
  payload : α → Payload
  /-- the same as any filter -/
  toFilter : α → Filter
  payload_toFilter : ∀ member, (toFilter member).payload = payload member

instance {builder : Builder} : Composable (TypedFilter builder) :=
  ⟨TypedFilter.payload, fun filter => .property (.typed builder filter), fun _ => rfl⟩

instance : Composable FormulaFilter :=
  ⟨FormulaFilter.payload, fun filter => .property (.formula filter), fun _ => rfl⟩

instance : Composable RollupFilter :=
  ⟨RollupFilter.payload, fun filter => .property (.rollup filter), fun _ => rfl⟩

instance : Composable DynamicFilter :=
  ⟨DynamicFilter.payload, fun filter => .property (.dynamic filter), fun _ => rfl⟩

instance : Composable TimestampFilter := ⟨TimestampFilter.payload, .timestamp, fun _ => rfl⟩

instance : Composable CompoundFilter := ⟨CompoundFilter.payload, .compound, fun _ => rfl⟩

instance : Composable Payload := ⟨id, .object, fun _ => rfl⟩

instance : Composable Filter := ⟨Filter.payload, id, fun _ => rfl⟩

/-- What can be done with a member before it is handed over. -/
inductive Wrapping where
  | bare
  | anyFilter
  | filterObject

/-- The member as the compound gets to see it. -/
def Wrapping.apply {α : Type} [Composable α] (wrapping : Wrapping) (member : α) : Filter :=
  match wrapping with
  | .bare => Composable.toFilter member
  | .anyFilter => Composable.toFilter (Composable.toFilter member)
  | .filterObject => Composable.toFilter (Composable.payload member)

/-- However a member is wrapped, its filter object is the same. -/
theorem Wrapping.payload_apply {α : Type} [Composable α] (wrapping : Wrapping) (member : α) :
    (wrapping.apply member).payload = Composable.payload member := by
  cases wrapping with
  | bare => exact Composable.payload_toFilter member
  | anyFilter => exact Composable.payload_toFilter member
  | filterObject => rfl

/-- A compound does not show how its members were wrapped. -/
theorem CompoundFilter.value_compose_apply {α : Type} [Composable α] (operator : String)
    (members : List (Wrapping × α)) :
    (compose operator (members.map fun member => member.1.apply member.2)).value
      = (compose operator (members.map fun member => Composable.toFilter member.2)).value := by
  rw [value_compose, value_compose, List.map_map, List.map_map]
  congr 1
  refine List.map_congr_left fun member _ => ?_
  exact (member.1.payload_apply member.2).trans (Composable.payload_toFilter member.2).symm

/-! ## Main statement -/

/-- After any run of pushes a compound holds the members that it was composed of and behind them
those that were pushed, as if it had been composed of all of them; and members of any kind may be
wrapped as any filter, or as their filter objects, each in its own way. -/
theorem CompoundFilter.keeps_members (operator : String) :
    (∀ initial pushed : List Filter,
      ((compose operator initial).value.pushAll pushed).Holds operator (initial ++ pushed)) ∧
    ∀ (α : Type) [Composable α] (initial pushed : List (Wrapping × α)),
      (compose operator (initial.map fun member => member.1.apply member.2)).value.pushAll
          (pushed.map fun member => member.1.apply member.2)
        = (compose operator (initial.map fun member => Composable.toFilter member.2)).value.pushAll
            (pushed.map fun member => Composable.toFilter member.2) := by
  constructor
  · intro initial pushed
    rw [pushAll_compose]
    exact holds_compose operator (initial ++ pushed)
  · intro α _ initial pushed
    rw [pushAll_compose, pushAll_compose, ← List.map_append, ← List.map_append]
    exact value_compose_apply operator (initial ++ pushed)

/-- A raw object and a compound whose own keys are the operator, and the operator is empty. -/
example :
    ((CompoundFilter.compose "" [.object [("", .array [.int 1])]]).value.push
      (.compound (CompoundFilter.compose "" []).value)).members
        = [[("", .array [.int 1])], [("", .array [])]] := rfl

end QueryFilter
