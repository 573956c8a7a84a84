import QueryFilter.Proofs.Filter.Operations
import QueryFilter.Script.Recipe

set_option autoImplicit false

/-!
# Making filters never fails on a number

A recipe may fail for many reasons: a name that is no name, a document with null in it, an operation
that a type does not support. A number that is not finite is never among them
(`Recipe.noNumberFailure_build`). Such a number shows only when a filter is written.
-/

namespace QueryFilter

variable {α β : Type}

/-- The computation does not fail because of a number that JSON cannot hold. -/
def NoNumberFailure (outcome : Except Failure α) : Prop :=
  ∀ number, outcome ≠ .error (.filter (.serialization number))

namespace NoNumberFailure

theorem of_ok (result : α) : NoNumberFailure (.ok result) := by
  intro number heq
  cases heq

theorem map {outcome : Except Failure α} (h : NoNumberFailure outcome) (f : α → β) :
    NoNumberFailure (outcome.map f) := by
  intro number heq
  cases outcome with
  | ok result => cases heq
  | error failure =>
      cases heq
      exact h number rfl

theorem bind {outcome : Except Failure α} {next : α → Except Failure β}
    (h : NoNumberFailure outcome) (hnext : ∀ result, NoNumberFailure (next result)) :
    NoNumberFailure (outcome >>= next) := by
  cases outcome with
  | ok result => exact hnext result
  | error failure =>
      intro number heq
      cases heq
      exact h number rfl

/-- An error that is told in other terms is about a number only if these terms are. -/
theorem mapError {ε : Type} {f : ε → Failure} (outcome : Except ε α)
    (h : ∀ error number, f error ≠ .filter (.serialization number)) :
    NoNumberFailure (outcome.mapError f) := by
  intro number heq
  cases outcome with
  | ok result => cases heq
  | error error => exact h error number (Except.error.inj heq)

theorem bindLogged {logged : Logged Failure α} {next : α → Logged Failure β}
    (h : NoNumberFailure logged.result) (hnext : ∀ result, NoNumberFailure (next result).result) :
    NoNumberFailure (logged >>= next).result := by
  cases hresult : logged.result with
  | ok result =>
      rw [Logged.bind_of_ok hresult]
      exact hnext result
  | error failure =>
      rw [Logged.bind_of_error hresult]
      intro number heq
      cases heq
      exact h number hresult

theorem mapLogged {logged : Logged Failure α} (h : NoNumberFailure logged.result) (f : α → β) :
    NoNumberFailure (f <$> logged).result :=
  h.bindLogged fun result => of_ok (f result)

end NoNumberFailure

/-! ## Literals -/

theorem noNumberFailure_ofDocument (document : Json) :
    NoNumberFailure (Value.ofDocument document) := by
  refine .mapError _ fun error number heq => ?_
  cases heq

theorem noNumberFailure_ofText (text : String) : NoNumberFailure (Json.ofText text) := by
  rw [Json.ofText]
  split
  · exact .of_ok _
  · intro number heq
    cases heq

mutual

theorem Literal.noNumberFailure_evaluate : ∀ literal : Literal, NoNumberFailure literal.evaluate
  | .given value => .of_ok value
  | .list items => (noNumberFailure_evaluateItems items).map _
  | .entries pairs => (noNumberFailure_evaluateEntries pairs).map _
  | .json text => (noNumberFailure_ofText text).bind noNumberFailure_ofDocument

theorem Literal.noNumberFailure_evaluateItems :
    ∀ items : List Literal, NoNumberFailure (evaluateItems items)
  | [] => .of_ok []
  | item :: rest =>
    (noNumberFailure_evaluate item).bind fun _ =>
      (noNumberFailure_evaluateItems rest).bind fun _ => .of_ok _

theorem Literal.noNumberFailure_evaluateEntries :
    ∀ pairs : List (String × Literal), NoNumberFailure (evaluateEntries pairs)
  | [] => .of_ok []
  | (_, item) :: rest =>
    (noNumberFailure_evaluate item).bind fun _ =>
      (noNumberFailure_evaluateEntries rest).bind fun _ => .of_ok _

end

/-! ## Operations by name -/

theorem TypedFilter.noNumberFailure_call {builder : Builder} (filter : TypedFilter builder)
    (name : String) (argument : Option Value) :
    NoNumberFailure (filter.call name argument).result := by
  unfold TypedFilter.call
  split
  · intro number heq
    cases heq
  split
  · intro number heq
    cases heq
  split
  · rw [TypedFilter.use_eq]
    exact .of_ok _
  · intro number heq
    cases heq

theorem TimestampFilter.noNumberFailure_call (filter : TimestampFilter) (name : String)
    (argument : Option Value) : NoNumberFailure (filter.call name argument).result := by
  unfold TimestampFilter.call
  split
  · intro number heq
    cases heq
  split
  · intro number heq
    cases heq
  · rename_i used hused
    obtain ⟨value, -, huse⟩ := Option.bind_eq_some_iff.1 hused
    rw [TimestampFilter.use?_eq] at huse
    split at huse
    · cases huse
      exact .of_ok _
    · cases huse

/-- A dynamic filter rejects an operation because of its type. -/
theorem DynamicFilter.noNumberFailure_apply (filter : DynamicFilter) (operation : Operation)
    (value : Value) :
    NoNumberFailure ((filter.apply operation value).mapError Failure.filter).result := by
  rw [DynamicFilter.apply]
  split
  · exact .of_ok _
  · intro number heq
    cases heq

/-- A dynamic filter is not begun if its type has no such name. -/
theorem DynamicFilter.noNumberFailure_ofTypeName (property typeName : String) :
    NoNumberFailure ((DynamicFilter.ofTypeName property typeName).mapError Failure.filter) := by
  unfold DynamicFilter.ofTypeName
  split
  · exact .of_ok _
  · intro number heq
    cases heq

theorem DynamicFilter.noNumberFailure_call (filter : DynamicFilter) (name : String)
    (argument : Option Value) : NoNumberFailure (filter.call name argument).result := by
  unfold DynamicFilter.call
  split
  · exact filter.noNumberFailure_apply .isEmpty _
  · exact filter.noNumberFailure_apply .isNotEmpty _
  · refine .bindLogged (.mapError _ fun error number heq => ?_) fun operation =>
      filter.noNumberFailure_apply operation _
    cases heq

theorem Filter.noNumberFailure_call (filter : Filter) (name : String) (argument : Option Value) :
    NoNumberFailure (filter.call name argument).result := by
  unfold Filter.call
  split
  · exact (TypedFilter.noNumberFailure_call _ name argument).mapLogged _
  · exact (DynamicFilter.noNumberFailure_call _ name argument).mapLogged _
  · exact (TimestampFilter.noNumberFailure_call _ name argument).mapLogged _
  all_goals
    intro number heq
    cases heq

theorem Call.noNumberFailure_performAll (calls : List Call) (filter : Filter) :
    NoNumberFailure (performAll calls filter).result := by
  induction calls generalizing filter with
  | nil => exact .of_ok _
  | cons call rest ih =>
      refine NoNumberFailure.bindLogged ?_ ih
      rw [Call.perform]
      split
      · exact filter.noNumberFailure_call _ _
      · rename_i literal _
        exact .bindLogged literal.noNumberFailure_evaluate fun value =>
          filter.noNumberFailure_call _ _

/-! ## Recipes -/

mutual

/-- Whatever a recipe says, and whatever numbers it uses, making the filter never fails on one. -/
theorem Recipe.noNumberFailure_build (slots : Entries Filter) :
    ∀ recipe : Recipe, NoNumberFailure (recipe.build slots).result
  | .typed _ _ => .of_ok _
  | .dynamic _ _ => .bindLogged (.mapError _ fun _ _ heq => by cases heq) fun _ => .of_ok _
  | .namedDynamic property typeName =>
    .bindLogged (DynamicFilter.noNumberFailure_ofTypeName property typeName) fun _ => .of_ok _
  | .formula property form inner =>
    (noNumberFailure_build slots inner).bindLogged fun filter => by
      split
      · intro number heq
        cases heq
      · exact .of_ok _
  | .rollup property typeName form inner =>
    (noNumberFailure_build slots inner).bindLogged fun filter => by
      split
      · intro number heq
        cases heq
      · exact .of_ok _
  | .timestamp _ => .of_ok _
  | .compound form members =>
    (noNumberFailure_buildAll slots members).bindLogged fun filters =>
      .bindLogged (by cases form <;> exact .of_ok _) fun _ => .of_ok _
  | .object pairs => .mapLogged ((Literal.noNumberFailure_evaluateEntries pairs).map _) _
  | .slot name => by
      rw [build]
      split
      · intro number heq
        cases heq
      · exact .of_ok _
  | .called base calls =>
    (noNumberFailure_build slots base).bindLogged (Call.noNumberFailure_performAll calls)

theorem Recipe.noNumberFailure_buildAll (slots : Entries Filter) :
    ∀ recipes : List Recipe, NoNumberFailure (buildAll slots recipes).result
  | [] => .of_ok _
  | recipe :: rest =>
    (noNumberFailure_build slots recipe).bindLogged fun _ =>
      (noNumberFailure_buildAll slots rest).bindLogged fun _ => .of_ok _

end

end QueryFilter
