import Mathlib.Data.List.Basic
import QueryFilter.Proofs.Log.Invocation

set_option autoImplicit false

/-!
# Programs and their logs

A `Program` makes calls one after the other, each of which may depend on what the ones before it
gave. Its log is determined by the calls that it makes, call by call. Main statement: the log
consists of the lines of the calls in their order, and the trace in it is the list of the operations
that took effect (`Program.log_of_calls`).
-/

namespace QueryFilter

/-! ## Operations that take effect -/

/-- An operation that is to be used on a filter with some object, and the value it is given. -/
structure Usage where
  payload : Payload
  operation : Operation
  value : Value

/-- The filter object once the operation has taken effect. -/
def Usage.applied (usage : Usage) : Payload :=
  usage.payload.insert usage.operation.name (usage.operation.stored usage.value)

namespace Invocation

/-- The operation that a call uses on a filter, if it uses one. -/
def usage? : {α : Type} → Invocation α → Option Usage
  | _, @use _ _ _ filter operation content _ =>
    some ⟨filter.payload, operation, toValue content⟩
  | _, @useTimestamp _ _ filter operation content _ =>
    some ⟨filter.payload, operation, toValue content⟩
  | _, @apply _ _ filter operation content => some ⟨filter.payload, operation, toValue content⟩
  | _, .applyEmpty filter => some ⟨filter.payload, .isEmpty, .bool true⟩
  | _, .applyNotEmpty filter => some ⟨filter.payload, .isNotEmpty, .bool true⟩
  | _, _ => none

/-- The object of the dynamic filter that a use gives, unless it is rejected. -/
def accepted? : Except FilterError DynamicFilter → Option Payload
  | .ok filter => some filter.payload
  | .error _ => none

/-- The object of the filter that a call gives when it uses an operation. -/
def changed? : {α : Type} → Invocation α → α → Option Payload
  | _, @use _ _ _ _ _ _ _, filter => some filter.payload
  | _, @useTimestamp _ _ _ _ _ _, filter => some filter.payload
  | _, @apply _ _ _ _ _, outcome => accepted? outcome
  | _, .applyEmpty _, outcome => accepted? outcome
  | _, .applyNotEmpty _, outcome => accepted? outcome
  | _, _, _ => none

/-- The operation that a call uses, if it gives a changed filter. -/
def effect? {α : Type} (invocation : Invocation α) (outcome : α) : Option Operation :=
  (invocation.changed? outcome).bind fun _ => invocation.usage?.map Usage.operation

theorem applied_of_accepted? {filter : DynamicFilter} {operation : Operation} {value : Value}
    {changed : Payload} (h : accepted? (filter.apply operation value).result = some changed) :
    changed = (Usage.mk filter.payload operation value).applied := by
  rw [DynamicFilter.result_apply] at h
  split at h
  · cases h
    rfl
  · cases h

/-- Where a call gives a changed filter, what it was to use has taken effect, and nothing else has
changed. -/
theorem applied_of_changed? {α : Type} {invocation : Invocation α} {usage : Usage}
    {changed : Payload} (husage : invocation.usage? = some usage)
    (hchanged : invocation.changed? invocation.outcome = some changed) :
    changed = usage.applied := by
  cases invocation with
  | use filter operation content offered =>
      cases husage
      rw [outcome, perform, TypedFilter.use_eq] at hchanged
      cases hchanged
      rfl
  | useTimestamp filter operation content offered =>
      cases husage
      simp only [outcome, perform, TimestampFilter.use?_eq, if_pos offered,
        Option.get_some] at hchanged
      cases hchanged
      rfl
  | apply filter operation content =>
      cases husage
      exact applied_of_accepted? hchanged
  | applyEmpty filter =>
      cases husage
      exact applied_of_accepted? hchanged
  | applyNotEmpty filter =>
      cases husage
      exact applied_of_accepted? hchanged
  -- no other call uses an operation
  | _ => cases husage

theorem trace_failureLines {α : Type} {line : FilterError → LogLine}
    (hline : ∀ error, (line error).isTrace = false) (outcome : Except FilterError α) :
    (failureLines line outcome).filter LogLine.isTrace = [] := by
  cases outcome with
  | ok result => rfl
  | error error => rw [failureLines, List.filter_cons_of_neg (by simp [hline]), List.filter_nil]

theorem trace_renderingLines (layout : Layout) (outcome : Except RenderFailure String) :
    (renderingLines layout outcome).filter LogLine.isTrace = [] := by
  rcases outcome with (error | _) | text
  · rfl
  · rfl
  · rfl

theorem trace_applyLines (filter : DynamicFilter) (operation : Operation)
    (outcome : Except FilterError DynamicFilter) :
    (applyLines filter operation outcome).filter LogLine.isTrace
      = (((accepted? outcome).bind fun _ => some operation).toList).map .set := by
  cases outcome with
  | ok changed => rfl
  | error error => rfl

/-- A call logs a trace of the operation that takes effect in it, and of nothing else. -/
theorem trace_lines {α : Type} (invocation : Invocation α) (outcome : α) :
    (invocation.lines outcome).filter LogLine.isTrace
      = (invocation.effect? outcome).toList.map .set := by
  cases invocation with
  | plain call => rfl
  | use filter operation content offered => rfl
  | useTimestamp filter operation content offered => rfl
  | apply filter operation content => exact trace_applyLines filter operation outcome
  | applyEmpty filter => exact trace_applyLines filter .isEmpty outcome
  | applyNotEmpty filter => exact trace_applyLines filter .isNotEmpty outcome
  | compose form members => rfl
  | toDict filter => exact trace_failureLines (fun _ => rfl) outcome
  | toDocument filter => exact trace_failureLines (fun _ => rfl) outcome
  | toText filter => exact trace_failureLines (fun _ => rfl) outcome
  | toTextWith filter options => exact trace_renderingLines options.layout outcome
  | objectToDict payload => exact trace_failureLines (fun _ => rfl) outcome
  | objectToDocument payload => exact trace_failureLines (fun _ => rfl) outcome
  | render options content => exact trace_renderingLines options.layout outcome

end Invocation

/-! ## Programs -/

/-- A sequence of calls that ends with a result. What is called next may depend on what has been
given so far. -/
inductive Program (α : Type) : Type 1 where
  | done (result : α)
  | call {β : Type} (invocation : Invocation β) (next : β → Program α)

/-- A call that has been made. -/
structure MadeCall : Type 1 where
  {type : Type}
  invocation : Invocation type

namespace MadeCall

/-- The lines that are due to the call. -/
def lines (made : MadeCall) : List LogLine := made.invocation.lines made.invocation.outcome

/-- The operation that takes effect in the call, if one does. -/
def effect? (made : MadeCall) : Option Operation :=
  made.invocation.effect? made.invocation.outcome

/-- An operation takes effect in the call: the filter that the call gives is the one it was made on,
with what the operation stores under the name of the operation. -/
def TakesEffect (made : MadeCall) (operation : Operation) : Prop :=
  ∃ usage, made.invocation.usage? = some usage ∧ usage.operation = operation ∧
    made.invocation.changed? made.invocation.outcome = some usage.applied

theorem effect?_eq_some_iff {made : MadeCall} {operation : Operation} :
    made.effect? = some operation ↔ made.TakesEffect operation := by
  rw [effect?, Invocation.effect?, Option.bind_eq_some_iff]
  constructor
  · rintro ⟨changed, hchanged, hoperation⟩
    obtain ⟨usage, husage, rfl⟩ := Option.map_eq_some_iff.1 hoperation
    have happlied : changed = usage.applied := Invocation.applied_of_changed? husage hchanged
    exact ⟨usage, husage, rfl, happlied ▸ hchanged⟩
  · rintro ⟨usage, husage, rfl, hchanged⟩
    exact ⟨usage.applied, hchanged, Option.map_eq_some_iff.2 ⟨usage, husage, rfl⟩⟩

end MadeCall

namespace Program

variable {α : Type}

/-- Makes the calls one after the other. -/
def run : Program α → Logged Empty α
  | .done result => pure result
  | .call invocation next => do run (next (← invocation.perform))

/-- The calls that are made, in order. -/
def made : Program α → List MadeCall
  | .done _ => []
  | .call invocation next => ⟨invocation⟩ :: made (next invocation.outcome)

theorem result_perform {β : Type} (invocation : Invocation β) :
    invocation.perform.result = .ok invocation.outcome := by
  rw [Invocation.outcome, Logged.value]
  split
  assumption

/-- A program logs the lines of the first call, and then what the rest of it logs. -/
theorem events_call {β : Type} (invocation : Invocation β) (next : β → Program α) :
    (call invocation next).run.events
      = invocation.perform.events ++ (next invocation.outcome).run.events := by
  rw [run, Logged.bind_of_ok (result_perform invocation)]

theorem lines_run (program : Program α) :
    program.run.events.map Event.line = program.made.flatMap MadeCall.lines := by
  induction program with
  | done result => rfl
  | call invocation next ih =>
      -- the rest of the program is the one that goes on with what the first call gives
      rw [events_call, List.map_append, Invocation.lines_perform, ih]
      rfl

example :
    (call (.apply (DynamicFilter.new "Done" .checkbox) .contains "x") fun _ =>
      call (.apply (DynamicFilter.new "Done" .checkbox) .equals true) fun _ =>
      call (.compose .all []) fun filter => done filter.length).run.events
      = [.operationRejected .checkbox .contains, .operationSet .equals,
        .compoundComposed "and" 0] := rfl

/-- The log of a program has the lines of its calls in order, and no others. The trace lines in it
list exactly the operations that take effect, in order. -/
theorem log_of_calls (program : Program α) :
    program.run.events.map Event.line = program.made.flatMap MadeCall.lines ∧
    (program.run.events.map Event.line).filter LogLine.isTrace
      = (program.made.filterMap MadeCall.effect?).map .set ∧
    ∀ (made : MadeCall) (operation : Operation),
      made.effect? = some operation ↔ made.TakesEffect operation := by
  have hlines : program.run.events.map Event.line = program.made.flatMap MadeCall.lines :=
    lines_run program
  refine ⟨hlines, ?_, fun _ _ => MadeCall.effect?_eq_some_iff⟩
  -- the trace in the log is the trace in the lines of each call, one call after the other
  rw [hlines, List.filter_flatMap, List.filterMap_eq_flatMap_toList, List.map_flatMap]
  exact congrArg (program.made.flatMap ·) (funext fun made => Invocation.trace_lines _ _)

end Program

end QueryFilter
