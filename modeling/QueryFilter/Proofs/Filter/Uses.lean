import QueryFilter.Proofs.Filter.Operations

set_option autoImplicit false

/-!
# Runs of operations

A typed filter takes the operations of its builder, a timestamp filter takes three, and a dynamic
filter is given any operation and rejects those that its type does not support. Each kind of filter
goes through a list of uses one after the other, and a run does the same to the filter object in all
of them: it sets the values in turn (`Payload.setAll`). Main statement: a builder and a dynamic
filter of its type cannot be told apart by any run (`Builder.typed_agrees_with_dynamic`).
-/

namespace QueryFilter

variable {ε : Type}

/-! ## Uses -/

/-- A use of one of the operations on offer, with the value that it is given. -/
structure OfferedUse (offer : List Operation) where
  operation : Operation
  offered : operation ∈ offer
  value : Value

/-- The operation and the value, without the offer. -/
def OfferedUse.pair {offer : List Operation} (use : OfferedUse offer) : Operation × Value :=
  (use.operation, use.value)

/-- Sets the values of operations in turn. -/
def Payload.setAll (payload : Payload) (uses : List (Operation × Value)) : Payload :=
  uses.foldl (fun payload use => payload.insert use.1.name (use.1.stored use.2)) payload

theorem Payload.setAll_append_singleton (payload : Payload) (uses : List (Operation × Value))
    (use : Operation × Value) :
    payload.setAll (uses ++ [use])
      = (payload.setAll uses).insert use.1.name (use.1.stored use.2) := List.foldl_append

/-- If each step sets a value in the filter object and reports it, so does a run of steps. -/
theorem Logged.foldlM_setOperation {σ β : Type} (step : σ → β → Logged ε σ) (wrap : Payload → σ)
    (pair : β → Operation × Value) {items : List β}
    (hstep : ∀ item ∈ items, ∀ payload, step (wrap payload) item
      = ⟨[.operationSet (pair item).1],
          .ok (wrap (payload.insert (pair item).1.name ((pair item).1.stored (pair item).2)))⟩)
    (payload : Payload) :
    items.foldlM step (wrap payload)
      = ⟨items.map fun item => .operationSet (pair item).1,
          .ok (wrap (payload.setAll (items.map pair)))⟩ := by
  induction items generalizing payload with
  | nil => rfl
  | cons item rest ih =>
      obtain ⟨hitem, hrest⟩ := List.forall_mem_cons.1 hstep
      rw [List.foldlM_cons, hitem, Logged.bind_of_ok rfl, ih hrest]
      rfl

/-! ## Typed filters -/

theorem Builder.offers_iff {builder : Builder} {operation : Operation} :
    builder.offers operation = true ↔ operation ∈ builder.operations := List.contains_iff_mem

/-- A property type supports what the builder of such filters offers. -/
theorem Builder.supports_type_iff {builder : Builder} {operation : Operation} :
    builder.type.supports operation = true ↔ operation ∈ builder.operations := by
  rw [PropertyType.supports, builder.operations_type]
  exact List.contains_iff_mem

/-- Uses operations of the builder in turn. -/
def TypedFilter.useAll {builder : Builder} (filter : TypedFilter builder)
    (uses : List (OfferedUse builder.operations)) : Logged ε (TypedFilter builder) :=
  uses.foldlM (fun filter use =>
    filter.use use.value use.operation (Builder.offers_iff.2 use.offered)) filter

theorem TypedFilter.useAll_eq {builder : Builder} (filter : TypedFilter builder)
    (uses : List (OfferedUse builder.operations)) :
    (filter.useAll uses : Logged ε (TypedFilter builder))
      = ⟨uses.map fun use => .operationSet use.operation,
          .ok ⟨filter.payload.setAll (uses.map OfferedUse.pair)⟩⟩ := by
  refine Logged.foldlM_setOperation _ TypedFilter.mk OfferedUse.pair ?_ filter.payload
  intro use _ payload
  exact TypedFilter.use_eq _ use.value use.operation _

/-! ## Timestamp filters -/

theorem TimestampFilter.isSome_use? (filter : TimestampFilter)
    (use : OfferedUse TimestampFilter.operations) :
    (filter.use? use.value use.operation : Option (Logged ε TimestampFilter)).isSome = true := by
  rw [TimestampFilter.use?_eq, if_pos use.offered]
  rfl

/-- Uses operations that timestamp filters offer in turn. -/
def TimestampFilter.useAll (filter : TimestampFilter)
    (uses : List (OfferedUse TimestampFilter.operations)) : Logged ε TimestampFilter :=
  uses.foldlM (fun filter use =>
    (filter.use? use.value use.operation).get (filter.isSome_use? use)) filter

theorem TimestampFilter.useAll_eq (filter : TimestampFilter)
    (uses : List (OfferedUse TimestampFilter.operations)) :
    (filter.useAll uses : Logged ε TimestampFilter)
      = ⟨uses.map fun use => .operationSet use.operation,
          .ok ⟨filter.payload.setAll (uses.map OfferedUse.pair)⟩⟩ := by
  refine Logged.foldlM_setOperation _ TimestampFilter.mk OfferedUse.pair ?_ filter.payload
  intro use _ payload
  simp only [TimestampFilter.use?_eq, if_pos use.offered, Option.get_some]
  rfl

/-! ## Dynamic filters -/

/-- The attempts whose operations a property type supports. -/
def PropertyType.accepted (type : PropertyType) (attempts : List (Operation × Value)) :
    List (Operation × Value) :=
  attempts.filter fun attempt => type.supports attempt.1

theorem PropertyType.accepted_cons (type : PropertyType) (attempt : Operation × Value)
    (rest : List (Operation × Value)) :
    type.accepted (attempt :: rest)
      = if type.supports attempt.1 then attempt :: type.accepted rest else type.accepted rest :=
  List.filter_cons

theorem PropertyType.supports_of_mem_accepted {type : PropertyType}
    {attempts : List (Operation × Value)} {attempt : Operation × Value}
    (h : attempt ∈ type.accepted attempts) : type.supports attempt.1 = true :=
  (List.mem_filter.1 h).2

namespace DynamicFilter

/-- Applies operations in turn. -/
def applyAll (filter : DynamicFilter) (uses : List (Operation × Value)) :
    Logged FilterError DynamicFilter :=
  uses.foldlM (fun filter use => filter.apply use.1 use.2) filter

theorem applyAll_eq (filter : DynamicFilter) {uses : List (Operation × Value)}
    (hsupported : ∀ use ∈ uses, filter.type.supports use.1 = true) :
    filter.applyAll uses
      = ⟨uses.map fun use => .operationSet use.1,
          .ok ⟨filter.type, filter.payload.setAll uses⟩⟩ := by
  have hstep : ∀ use ∈ uses, ∀ payload, (DynamicFilter.mk filter.type payload).apply use.1 use.2
      = ⟨[.operationSet use.1],
          .ok ⟨filter.type, payload.insert use.1.name (use.1.stored use.2)⟩⟩ := by
    intro use hmem payload
    rw [apply_eq, if_pos (hsupported use hmem)]
  have hrun := Logged.foldlM_setOperation (fun filter use => filter.apply use.1 use.2)
    (DynamicFilter.mk filter.type) id hstep filter.payload
  rwa [List.map_id] at hrun

theorem attempt_eq (filter : DynamicFilter) (operation : Operation) (value : Value) :
    filter.attempt operation value
      = if filter.type.supports operation then
          ⟨filter.type, filter.payload.insert operation.name (operation.stored value)⟩
        else filter := by
  rw [attempt, result_apply]
  split
  · rename_i applied happly
    split at happly
    · rename_i hsupported
      rw [if_pos hsupported]
      exact (Except.ok.inj happly).symm
    · cases happly
  · rename_i error happly
    split at happly
    · cases happly
    · rename_i hsupported
      rw [if_neg hsupported]

/-- Attempts that are rejected leave no trace. -/
theorem attemptAll_eq (filter : DynamicFilter) (attempts : List (Operation × Value)) :
    filter.attemptAll attempts
      = ⟨filter.type, filter.payload.setAll (filter.type.accepted attempts)⟩ := by
  induction attempts generalizing filter with
  | nil => rfl
  | cons attempt rest ih =>
      have hfirst : filter.attemptAll (attempt :: rest)
          = (filter.attempt attempt.1 attempt.2).attemptAll rest := rfl
      rw [hfirst, ih, attempt_eq, PropertyType.accepted_cons]
      split
      · rfl
      · rfl

theorem type_attemptAll (filter : DynamicFilter) (attempts : List (Operation × Value)) :
    (filter.attemptAll attempts).type = filter.type := by
  rw [attemptAll_eq]

end DynamicFilter

/-! ## Main statement -/

/-- Whatever a builder offers, a dynamic filter of its type takes, in any order and any number of
times, with the same events, to the same filter object, and so to the same mapping and texts. What
the builder does not offer the dynamic filter rejects, whatever has been attempted before. -/
theorem Builder.typed_agrees_with_dynamic (builder : Builder) (property : String) :
    (∀ uses : List (OfferedUse builder.operations),
      ∃ (events : List Event) (typed : TypedFilter builder) (dynamic : DynamicFilter),
        ((TypedFilter.new builder property).useAll uses : Logged FilterError (TypedFilter builder))
          = ⟨events, .ok typed⟩ ∧
        (DynamicFilter.new property builder.type).applyAll (uses.map OfferedUse.pair)
          = ⟨events, .ok dynamic⟩ ∧
        dynamic.type = builder.type ∧ dynamic.payload = typed.payload ∧
        (Filter.property (.dynamic dynamic)).toDict
          = (Filter.property (.typed builder typed)).toDict ∧
        (Filter.property (.dynamic dynamic)).toText
          = (Filter.property (.typed builder typed)).toText ∧
        ∀ options, (Filter.property (.dynamic dynamic)).toTextWith options
          = (Filter.property (.typed builder typed)).toTextWith options) ∧
    ∀ (attempts : List (Operation × Value)) (operation : Operation) (value : Value),
      (((DynamicFilter.new property builder.type).attemptAll attempts).apply operation value).result
        = .error (.unsupportedOperation builder.type operation)
          ↔ operation ∉ builder.operations := by
  constructor
  · intro uses
    have hoffered : ∀ use ∈ uses.map OfferedUse.pair, builder.type.supports use.1 = true := by
      intro pair hpair
      obtain ⟨use, -, rfl⟩ := List.mem_map.1 hpair
      exact Builder.supports_type_iff.2 use.offered
    have happly := DynamicFilter.applyAll_eq (DynamicFilter.new property builder.type) hoffered
    rw [List.map_map] at happly
    exact ⟨_, _, _, TypedFilter.useAll_eq _ uses, happly, rfl, rfl, rfl, rfl, fun _ => rfl⟩
  · intro attempts operation value
    rw [DynamicFilter.result_apply, DynamicFilter.type_attemptAll]
    by_cases hmem : operation ∈ builder.operations
    · have hsupported := Builder.supports_type_iff.2 hmem
      simp [DynamicFilter.new, hsupported, hmem]
    · have hrejected : ¬ builder.type.supports operation = true :=
        fun h => hmem (Builder.supports_type_iff.1 h)
      simp [DynamicFilter.new, hrejected, hmem]

end QueryFilter
