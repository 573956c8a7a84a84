import QueryFilter.Proofs.Filter.Uses
import QueryFilter.Proofs.OrderedMap.Runs
import QueryFilter.Proofs.Vocabulary.Names

set_option autoImplicit false

/-!
# The normal form of a filter object

However often and in whatever order operations are used on a filter, its object has a simple form:
the entries that it began with, then one entry for each operation, in the order of their first uses,
with the value of the last use (`Operation.settled`). An operation that is rejected leaves no trace.
Main statement: `Filter.normal_form`.
-/

namespace QueryFilter

/-! ## What uses leave -/

namespace Operation

/-- The value that an operation is given at its last use. An operation that is not used has none and
counts as given true. -/
def lastValue (operation : Operation) (uses : List (Operation × Value)) : Value :=
  (uses.reverse.lookup operation).getD (.bool true)

/-- What uses leave in a filter object: an entry for each operation, in the order of the first uses,
with what the operation stores of the value at its last use. -/
def settled (uses : List (Operation × Value)) : Payload :=
  (uses.map Prod.fst).eraseDups.map fun operation =>
    (operation.name, operation.stored (operation.lastValue uses))

theorem lastValue_append_singleton (operation : Operation) (uses : List (Operation × Value))
    (use : Operation × Value) :
    operation.lastValue (uses ++ [use])
      = if operation = use.1 then use.2 else operation.lastValue uses := by
  rw [lastValue, List.reverse_append, List.reverse_singleton, List.singleton_append,
    List.lookup_cons]
  by_cases h : operation = use.1
  · simp [h]
  · have hother : (operation == use.1) = false := beq_false_of_ne h
    rw [if_neg h, hother, lastValue]

theorem keys_settled (uses : List (Operation × Value)) :
    (settled uses).keys = (uses.map Prod.fst).eraseDups.map name := by
  rw [settled, Entries.keys, List.map_map]
  rfl

theorem nodup_keys_settled (uses : List (Operation × Value)) : (settled uses).keys.Nodup := by
  rw [keys_settled]
  exact (Entries.nodup_eraseDups _).map name_injective

theorem name_mem_keys_settled {operation : Operation} {uses : List (Operation × Value)} :
    operation.name ∈ (settled uses).keys ↔ operation ∈ uses.map Prod.fst := by
  rw [keys_settled, List.mem_map_of_injective name_injective, List.mem_eraseDups]

/-- A map that holds a value for each of some operations, under their names, finds these values. -/
theorem get?_map_name (value : Operation → Value) (operations : List Operation)
    (operation : Operation) :
    Entries.get? operation.name (operations.map fun operation => (operation.name, value operation))
      = if operation ∈ operations then some (value operation) else none := by
  induction operations with
  | nil => rfl
  | cons first rest ih =>
      rw [List.map_cons, Entries.get?, ih]
      by_cases h : first = operation
      · subst h
        simp
      · have hname : ¬ first.name = operation.name := fun e => h (name_injective e)
        simp [hname, Ne.symm h]

theorem get?_settled (operation : Operation) (uses : List (Operation × Value)) :
    (settled uses).get? operation.name
      = if operation ∈ uses.map Prod.fst then some (operation.stored (operation.lastValue uses))
        else none := by
  rw [settled, get?_map_name]
  simp only [List.mem_eraseDups]

/-- One more use sets the value of its operation in what the earlier uses leave. -/
theorem settled_append_singleton (uses : List (Operation × Value)) (use : Operation × Value) :
    settled (uses ++ [use]) = (settled uses).insert use.1.name (use.1.stored use.2) := by
  have hkeys : (settled (uses ++ [use])).keys
      = ((settled uses).insert use.1.name (use.1.stored use.2)).keys := by
    rw [keys_settled, Entries.keys_insert, List.map_append, List.map_singleton,
      Entries.eraseDups_append_singleton]
    by_cases h : use.1 ∈ uses.map Prod.fst
    · rw [if_pos h, if_pos (name_mem_keys_settled.2 h), keys_settled]
    · rw [if_neg h, if_neg fun hmem => h (name_mem_keys_settled.1 hmem), keys_settled,
        List.map_append, List.map_singleton]
  refine Entries.eq_of_keys_of_get? hkeys (nodup_keys_settled _) fun key hkey => ?_
  -- every key is the name of an operation, and only the one that is used gets another value
  rw [keys_settled] at hkey
  obtain ⟨operation, hmem, rfl⟩ := List.mem_map.1 hkey
  have hused : operation ∈ (uses ++ [use]).map Prod.fst := List.mem_eraseDups.1 hmem
  rw [get?_settled, if_pos hused, lastValue_append_singleton, Entries.get?_insert, get?_settled]
  by_cases h : operation = use.1
  · subst h
    rw [if_pos rfl, if_pos rfl]
  · have hname : ¬ use.1.name = operation.name := fun e => h (name_injective e).symm
    have hearlier : operation ∈ uses.map Prod.fst := by
      rw [List.map_append, List.mem_append] at hused
      exact hused.resolve_right fun hlast => h (List.mem_singleton.1 hlast)
    rw [if_neg h, if_neg hname, if_pos hearlier]

end Operation

/-- A run of uses leaves the entries in front alone, if no operation has one of their keys. -/
theorem Payload.setAll_eq {head : Payload}
    (hhead : ∀ operation : Operation, operation.name ∉ head.keys)
    (uses : List (Operation × Value)) :
    head.setAll uses = head ++ Operation.settled uses := by
  induction uses using List.reverseRecOn with
  | nil => exact (List.append_nil head).symm
  | append_singleton uses use ih =>
      rw [setAll_append_singleton, ih, Entries.insert_append_of_not_mem _ (hhead use.1),
        Operation.settled_append_singleton]

/-- An operation that is used again keeps its place, and one that takes no value holds true. -/
example :
    Payload.setAll [("property", .text "n")]
        [(.equals, .int 1), (.isEmpty, .text "n"), (.equals, .int 2)]
      = [("property", .text "n"), ("equals", .int 2), ("is_empty", .bool true)] := rfl

theorem Operation.name_not_mem_keys_ofProperty (operation : Operation) (property : String)
    (type : PropertyType) : operation.name ∉ (Payload.ofProperty property type).keys := by
  have hkeys : (Payload.ofProperty property type).keys = ["property", "type"] := rfl
  intro hmem
  rw [hkeys] at hmem
  exact operation.name_not_mem_begun (List.mem_append_left ["timestamp"] hmem)

theorem Operation.name_not_mem_keys_timestamp (operation : Operation) (name : String) :
    operation.name ∉ (TimestampFilter.new name).payload.keys := by
  have hkeys : (TimestampFilter.new name).payload.keys = ["timestamp"] := rfl
  intro hmem
  rw [hkeys] at hmem
  exact operation.name_not_mem_begun (List.mem_append_right ["property", "type"] hmem)

/-! ## Filters in normal form -/

theorem TypedFilter.result_useAll_new {ε : Type} {builder : Builder} (property : String)
    (uses : List (OfferedUse builder.operations)) :
    ((TypedFilter.new builder property).useAll uses : Logged ε (TypedFilter builder)).result
      = .ok ⟨[("property", .text property), ("type", .text builder.type.name)]
          ++ Operation.settled (uses.map OfferedUse.pair)⟩ := by
  rw [useAll_eq]
  exact congrArg (fun payload => Except.ok (TypedFilter.mk payload)) (Payload.setAll_eq
    (fun operation => operation.name_not_mem_keys_ofProperty property builder.type) _)

theorem TimestampFilter.result_useAll_new {ε : Type} (name : String)
    (uses : List (OfferedUse TimestampFilter.operations)) :
    ((TimestampFilter.new name).useAll uses : Logged ε TimestampFilter).result
      = .ok ⟨[("timestamp", .text name)]
          ++ Operation.settled (uses.map OfferedUse.pair)⟩ := by
  rw [useAll_eq]
  exact congrArg (fun payload => Except.ok (TimestampFilter.mk payload)) (Payload.setAll_eq
    (fun operation => operation.name_not_mem_keys_timestamp name) _)

/-- What a dynamic filter on a property is like after attempts, and what it does with the next
one. -/
structure DynamicFilter.Shows (property : String) (type : PropertyType)
    (attempts : List (Operation × Value)) (filter : DynamicFilter) : Prop where
  type_eq : filter.type = type
  payload_eq : filter.payload = [("property", .text property), ("type", .text type.name)]
    ++ Operation.settled (type.accepted attempts)
  /-- without the attempts that fail, the rest succeed and come to the same filter -/
  applyAll_accepted :
    ((DynamicFilter.new property type).applyAll (type.accepted attempts)).result = .ok filter
  /-- an attempt fails for one reason only -/
  apply_eq_error_iff : ∀ operation value error,
    (filter.apply operation value).result = .error error
      ↔ type.supports operation = false ∧ error = .unsupportedOperation type operation

theorem DynamicFilter.shows_attemptAll (property : String) (type : PropertyType)
    (attempts : List (Operation × Value)) :
    Shows property type attempts ((new property type).attemptAll attempts) := by
  have hnew : (new property type).type = type := rfl
  have hsupported : ∀ use ∈ type.accepted attempts, (new property type).type.supports use.1 = true :=
    fun use hmem => PropertyType.supports_of_mem_accepted hmem
  rw [attemptAll_eq, hnew]
  refine ⟨rfl, ?_, congrArg Logged.result (applyAll_eq (new property type) hsupported), ?_⟩
  · exact Payload.setAll_eq
      (fun operation => operation.name_not_mem_keys_ofProperty property type) _
  · intro operation value error
    rw [result_apply]
    cases hsupports : type.supports operation with
    | true => simp
    | false => simp [eq_comm]

/-! ## Main statement -/

/-- The object of a filter is in normal form after any run of uses, and still tells the name that the
filter was begun with; on a dynamic filter, also after any run of attempts. -/
theorem Filter.normal_form :
    (∀ (builder : Builder) (property : String) (uses : List (OfferedUse builder.operations)),
      ∃ filter : TypedFilter builder,
        ((TypedFilter.new builder property).useAll uses
          : Logged FilterError (TypedFilter builder)).result = .ok filter ∧
        filter.payload = [("property", .text property), ("type", .text builder.type.name)]
          ++ Operation.settled (uses.map OfferedUse.pair) ∧
        filter.property = property) ∧
    (∀ (property : String) (type : PropertyType) (attempts : List (Operation × Value)),
      DynamicFilter.Shows property type attempts
        ((DynamicFilter.new property type).attemptAll attempts)) ∧
    ∀ (name : String) (uses : List (OfferedUse TimestampFilter.operations)),
      ∃ filter : TimestampFilter,
        ((TimestampFilter.new name).useAll uses : Logged FilterError TimestampFilter).result
          = .ok filter ∧
        filter.payload = [("timestamp", .text name)]
          ++ Operation.settled (uses.map OfferedUse.pair) ∧
        filter.timestamp = name :=
  ⟨fun _ property uses => ⟨_, TypedFilter.result_useAll_new property uses, rfl, rfl⟩,
    DynamicFilter.shows_attemptAll,
    fun name uses => ⟨_, TimestampFilter.result_useAll_new name uses, rfl, rfl⟩⟩

end QueryFilter
