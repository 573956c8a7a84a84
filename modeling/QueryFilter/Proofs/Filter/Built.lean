import QueryFilter.Proofs.Filter.Operations
import QueryFilter.Proofs.OrderedMap.Runs
import QueryFilter.Proofs.Value.Document

set_option autoImplicit false

/-!
# What callers can build

`Value.Built`, `Payload.Built` and `Filter.Built` are closed under everything that a caller can do:
making values and converting documents to them, editing filter objects, taking values and objects
apart again, beginning filters of every kind, using operations on them, wrapping them in each other
and adding members. Main statement: no object in anything that is built repeats a key
(`Filter.Built.distinctKeys`), so that a filter object is an insertion-ordered map at every depth.
-/

namespace QueryFilter

/-! ## Closure under what callers do -/

mutual

/-- The values that callers can make. -/
inductive Value.Built : Value → Prop where
  | bool (flag : Bool) : Value.Built (.bool flag)
  | int (number : Int64) : Value.Built (.int number)
  /-- any double, also one that cannot be written as JSON -/
  | float (number : Double) : Value.Built (.float number)
  | text (content : String) : Value.Built (.text content)
  | array {items : List Value} (hitems : ∀ item ∈ items, Value.Built item) :
      Value.Built (.array items)
  | object {payload : Payload} (hpayload : Payload.Built payload) :
      Value.Built (.object payload)
  /-- converted from a document, which may repeat keys -/
  | ofJson {document : Json} {value : Value} (hvalue : Value.ofJson document = .ok value) :
      Value.Built value
  /-- an item of an array, taken out -/
  | item {items : List Value} {item : Value} (harray : Value.Built (.array items))
      (hmem : item ∈ items) : Value.Built item
  /-- the value of a key, looked up -/
  | entry {payload : Payload} {key : String} {value : Value} (hpayload : Payload.Built payload)
      (hget : payload.get? key = some value) : Value.Built value

/-- The filter objects that callers can make. -/
inductive Payload.Built : Payload → Prop where
  | empty : Payload.Built []
  | ofList {pairs : List (String × Value)} (hpairs : ∀ pair ∈ pairs, Value.Built pair.2) :
      Payload.Built (Entries.ofList pairs)
  | edit {payload : Payload} (edit : Entries.Edit Value) (hpayload : Payload.Built payload)
      (hvalue : Value.Built edit.value) : Payload.Built (edit.apply payload)
  /-- the entries of an object, taken out -/
  | entries {payload : Payload} (hobject : Value.Built (.object payload)) : Payload.Built payload
  /-- the object of a filter -/
  | ofFilter {filter : Filter} (hfilter : Filter.Built filter) : Payload.Built filter.payload
  /-- the object of a member of a compound -/
  | member {filter : CompoundFilter} {payload : Payload}
      (hfilter : Filter.Built (.compound filter)) (hmem : payload ∈ filter.members) :
      Payload.Built payload

/-- The filters that callers can make. -/
inductive Filter.Built : Filter → Prop where
  | typed (builder : Builder) (property : String) :
      Filter.Built (.property (.typed builder (.new builder property)))
  | use {builder : Builder} {filter : TypedFilter builder} {value : Value} (operation : Operation)
      (offered : builder.offers operation = true)
      (hfilter : Filter.Built (.property (.typed builder filter))) (hvalue : Value.Built value) :
      Filter.Built (.property (.typed builder (filter.use value operation offered).value))
  | dynamic (property : String) (type : PropertyType) :
      Filter.Built (.property (.dynamic (.new property type)))
  | apply {filter applied : DynamicFilter} {operation : Operation} {value : Value}
      (hfilter : Filter.Built (.property (.dynamic filter))) (hvalue : Value.Built value)
      (happly : (filter.apply operation value).result = .ok applied) :
      Filter.Built (.property (.dynamic applied))
  | formula (property typeName : String) {inner : PropertyFilter}
      (hinner : Filter.Built (.property inner)) :
      Filter.Built (.property (.formula (.new property typeName inner)))
  | rollup (property aggregation typeName : String) {inner : PropertyFilter}
      (hinner : Filter.Built (.property inner)) :
      Filter.Built (.property (.rollup (.new property aggregation typeName inner)))
  | timestamp (name : String) : Filter.Built (.timestamp (.new name))
  | useTimestamp {filter : TimestampFilter} {used : Logged Empty TimestampFilter}
      {operation : Operation} {value : Value} (hfilter : Filter.Built (.timestamp filter))
      (hvalue : Value.Built value) (hused : filter.use? value operation = some used) :
      Filter.Built (.timestamp used.value)
  | compose (operator : String) {members : List Filter}
      (hmembers : ∀ member ∈ members, Filter.Built member) :
      Filter.Built (.compound (CompoundFilter.compose operator members).value)
  | push {filter : CompoundFilter} {member : Filter} (hfilter : Filter.Built (.compound filter))
      (hmember : Filter.Built member) : Filter.Built (.compound (filter.push member))
  | object {payload : Payload} (hpayload : Payload.Built payload) : Filter.Built (.object payload)

end

/-! ## Distinct keys -/

theorem Value.DistinctKeys.edit {payload : Payload} (edit : Entries.Edit Value)
    (h : DistinctKeys (.object payload)) (hvalue : edit.value.DistinctKeys) :
    DistinctKeys (.object (edit.apply payload)) := by
  rw [Entries.Edit.apply_eq]
  split
  · exact h
  · exact h.insert edit.key hvalue

theorem Operation.stored_distinctKeys (operation : Operation) {value : Value}
    (h : value.DistinctKeys) : (operation.stored value).DistinctKeys := by
  rw [Operation.stored]
  split
  · exact .bool true
  · exact h

theorem Payload.ofProperty_distinctKeys (property : String) (type : PropertyType) :
    Value.DistinctKeys (.object (Payload.ofProperty property type)) :=
  Value.DistinctKeys.empty.insertAll _ (by simp [Value.DistinctKeys.text])

/-- A member that is pushed keeps the keys of a compound distinct. -/
theorem CompoundFilter.push_distinctKeys {filter : CompoundFilter} {member : Filter}
    (hfilter : Value.DistinctKeys (.object filter.payload))
    (hmember : Value.DistinctKeys (.object member.payload)) :
    Value.DistinctKeys (.object (filter.push member).payload) := by
  rw [push]
  split
  · rename_i items hstored
    have harray : Value.DistinctKeys (.array items) :=
      hfilter.of_mem_entries (Entries.mem_of_get?_eq_some (get?_of_stored? hstored))
    refine hfilter.insert _ (.array fun item hitem => ?_)
    rcases List.mem_append.1 hitem with hold | hnew
    · exact harray.of_mem_items hold
    · rw [List.mem_singleton.1 hnew]
      exact hmember
  · exact hfilter

theorem CompoundFilter.members_distinctKeys {filter : CompoundFilter} {payload : Payload}
    (hfilter : Value.DistinctKeys (.object filter.payload)) (hmem : payload ∈ filter.members) :
    Value.DistinctKeys (.object payload) := by
  rw [members, List.mem_filterMap] at hmem
  obtain ⟨item, hitem, hobject⟩ := hmem
  cases hstored : filter.stored? with
  | none => simp [hstored] at hitem
  | some items =>
      rw [hstored, Option.getD_some] at hitem
      have harray : Value.DistinctKeys (.array items) :=
        hfilter.of_mem_entries (Entries.mem_of_get?_eq_some (get?_of_stored? hstored))
      cases item with
      | object entries => cases hobject; exact harray.of_mem_items hitem
      | _ => cases hobject

mutual

/-- Nothing that callers build repeats a key, at any depth. -/
theorem Value.Built.distinctKeys : ∀ {value : Value}, value.Built → value.DistinctKeys
  | _, .bool flag => .bool flag
  | _, .int number => .int number
  | _, .float number => .float number
  | _, .text content => .text content
  | _, .array hitems => .array fun item hitem => (hitems item hitem).distinctKeys
  | _, .object hpayload => hpayload.distinctKeys
  | _, .ofJson hvalue => Value.distinctKeys_of_ofJson hvalue
  | _, .item harray hmem => harray.distinctKeys.of_mem_items hmem
  | _, .entry hpayload hget =>
    hpayload.distinctKeys.of_mem_entries (Entries.mem_of_get?_eq_some hget)

theorem Payload.Built.distinctKeys :
    ∀ {payload : Payload}, payload.Built → Value.DistinctKeys (.object payload)
  | _, .empty => .empty
  | _, .ofList hpairs =>
    Value.DistinctKeys.empty.insertAll _ fun pair hpair => (hpairs pair hpair).distinctKeys
  | _, .edit edit hpayload hvalue => hpayload.distinctKeys.edit edit hvalue.distinctKeys
  | _, .entries hobject => hobject.distinctKeys
  | _, .ofFilter hfilter => hfilter.distinctKeys
  | _, .member hfilter hmem => CompoundFilter.members_distinctKeys hfilter.distinctKeys hmem

theorem Filter.Built.distinctKeys :
    ∀ {filter : Filter}, filter.Built → Value.DistinctKeys (.object filter.payload)
  | _, .typed builder property => Payload.ofProperty_distinctKeys property builder.type
  | _, .use operation offered hfilter hvalue => by
      rw [TypedFilter.use_eq]
      exact hfilter.distinctKeys.insert _ (operation.stored_distinctKeys hvalue.distinctKeys)
  | _, .dynamic property type => Payload.ofProperty_distinctKeys property type
  | _, .apply hfilter hvalue happly => by
      rw [DynamicFilter.result_apply] at happly
      split at happly
      · cases happly
        exact hfilter.distinctKeys.insert _ (Operation.stored_distinctKeys _ hvalue.distinctKeys)
      · cases happly
  | _, .formula property typeName hinner =>
    (Payload.ofProperty_distinctKeys property .formula).insert typeName hinner.distinctKeys
  | _, .rollup property aggregation typeName hinner =>
    (Payload.ofProperty_distinctKeys property .rollup).insert aggregation
      (Value.DistinctKeys.empty.insert typeName hinner.distinctKeys)
  | _, .timestamp name => Value.DistinctKeys.empty.insert "timestamp" (.text name)
  | _, .useTimestamp hfilter hvalue hused => by
      rw [TimestampFilter.use?_eq] at hused
      split at hused
      · cases hused
        exact hfilter.distinctKeys.insert _ (Operation.stored_distinctKeys _ hvalue.distinctKeys)
      · cases hused
  | _, .compose operator hmembers => by
      refine Value.DistinctKeys.empty.insert operator (.array ?_)
      intro item hitem
      obtain ⟨member, hmember, rfl⟩ := List.mem_map.1 hitem
      exact (hmembers member hmember).distinctKeys
  | _, .push hfilter hmember =>
    CompoundFilter.push_distinctKeys hfilter.distinctKeys hmember.distinctKeys
  | _, .object hpayload => hpayload.distinctKeys

end

/-- A filter object is an insertion-ordered map: after any run of edits, begun with any collected
pairs, it reflects its history. And no object in a value that callers can make repeats a key. -/
theorem Payload.reflects_history :
    (∀ (pairs : List (String × Value)) (edits : List (Entries.Edit Value)),
      Entries.Reflects (pairs.map Entries.Edit.ofPair ++ edits)
        (Entries.run edits (Entries.ofList pairs))) ∧
    ∀ value : Value, value.Built → value.DistinctKeys :=
  ⟨Entries.reflects_run, fun _ built => built.distinctKeys⟩

/-- A collected key that is overwritten keeps its place, and an assignment to a key that was never
inserted is lost. -/
theorem Payload.reflects_history_overwritten :
    (Entries.run [⟨.exchange, "b", Value.int 2⟩, ⟨.insert, "a", .int 3⟩, ⟨.assign, "c", .int 4⟩]
        (Entries.ofList [("a", .bool true)])).keys = ["a", "b"] ∧
      (Value.array [.object [("a", .object [])]]).DistinctKeys := by
  refine ⟨(Payload.reflects_history.1 [("a", .bool true)]
    [⟨.exchange, "b", .int 2⟩, ⟨.insert, "a", .int 3⟩, ⟨.assign, "c", .int 4⟩]).keys_eq.trans
    (by decide), ?_⟩
  have hpairs : ∀ pair ∈ [("a", Value.object [])], pair.2.Built := by
    simp [Value.Built.object .empty]
  have hobject : (Value.object [("a", .object [])]).Built := .object (.ofList hpairs)
  exact Payload.reflects_history.2 _ (.array (by simp [hobject]))

end QueryFilter
