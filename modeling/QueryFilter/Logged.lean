import QueryFilter.FilterError
import QueryFilter.Json.Layout

/-!
# The event log

Building and writing filters reports events. An `Event` is what happened; its level, message and
fields are the form in which it reaches a log. A computation that reports events is a `Logged`
value: the events in order, and the result or the error. Events that were reported before an error
are kept.
-/

set_option autoImplicit false

namespace QueryFilter

/-! ## Events -/

/-- What is reported while filters are built and written. -/
inductive Event where
  | operationSet (operation : Operation)
  | operationRejected (type : PropertyType) (operation : Operation)
  | compoundComposed (operator : String) (members : Nat)
  | renderingFailed (error : FilterError) (layout : Layout)
  | conversionFailed (number : NonFinite)
  deriving DecidableEq

namespace Event

/-- The level of an event. -/
def level : Event → String
  | .operationSet _ => "TRACE"
  | .operationRejected _ _ | .compoundComposed _ _ => "DEBUG"
  | .renderingFailed _ _ | .conversionFailed _ => "WARN"

/-- The message of an event. -/
def message : Event → String
  | .operationSet _ => "Setting filter operation"
  | .operationRejected _ _ => "Rejected unsupported filter operation"
  | .compoundComposed _ _ => "Composed compound filter"
  | .renderingFailed _ _ => "Filter could not be rendered as JSON"
  | .conversionFailed _ => "Filter object could not be converted to JSON"

/-- The named fields of an event, in order. -/
def fields : Event → List (String × String)
  | .operationSet operation => [("operation", operation.name)]
  | .operationRejected type operation =>
    [("property_type", type.name), ("operation", operation.name)]
  | .compoundComposed operator members =>
    [("operator", operator), ("members", String.ofList (decimalDigits members))]
  | .renderingFailed error layout =>
    [("error", error.message), ("format", layout.description)]
  | .conversionFailed number => [("error", number.reason)]

end Event

/-! ## Computations with a log -/

/-- A result or an error together with the events that were reported on the way. -/
structure Logged (ε α : Type) where
  events : List Event
  result : Except ε α

namespace Logged

variable {ε ε' α β : Type}

/-- Goes on with the result, if there is one; the events come one after the other. -/
def andThen (first : Logged ε α) (next : α → Logged ε β) : Logged ε β :=
  match first.result with
  | .ok value => ⟨first.events ++ (next value).events, (next value).result⟩
  | .error error => ⟨first.events, .error error⟩

instance : Monad (Logged ε) where
  pure value := ⟨[], .ok value⟩
  bind := andThen

/-- Reports an event. -/
def report (event : Event) : Logged ε Unit := ⟨[event], .ok ()⟩

/-- Stops with an error. -/
def fail (error : ε) : Logged ε α := ⟨[], .error error⟩

/-- A result or an error without events. -/
def ofExcept (result : Except ε α) : Logged ε α := ⟨[], result⟩

/-- The same computation with its error told in other terms. -/
def mapError (f : ε → ε') (logged : Logged ε α) : Logged ε' α :=
  ⟨logged.events, logged.result.mapError f⟩

/-- Keeps what has been reported, and goes on with the result or the error as a value. -/
def attempt (logged : Logged ε α) : Logged ε' (Except ε α) := ⟨logged.events, .ok logged.result⟩

/-- The result of a computation that has no way to fail. -/
def value (logged : Logged Empty α) : α :=
  match logged.result with
  | .ok value => value

/-- Reports an event about the error, if there is one. -/
def reportError (event : ε → Event) (logged : Logged ε α) : Logged ε α :=
  match logged.result with
  | .ok _ => logged
  | .error error => ⟨logged.events ++ [event error], logged.result⟩

theorem bind_of_ok {first : Logged ε α} {value : α} (h : first.result = .ok value)
    (next : α → Logged ε β) :
    first >>= next = ⟨first.events ++ (next value).events, (next value).result⟩ := by
  show andThen first next = _
  rw [andThen, h]

theorem bind_of_error {first : Logged ε α} {error : ε} (h : first.result = .error error)
    (next : α → Logged ε β) : first >>= next = ⟨first.events, .error error⟩ := by
  show andThen first next = _
  rw [andThen, h]

/-- Events that are reported in sequence do not depend on how the sequence is bracketed. -/
instance : LawfulMonad (Logged ε) := LawfulMonad.mk' (Logged ε)
  (fun logged => by
    obtain ⟨events, _ | value⟩ := logged
    · rfl
    · exact congrArg (Logged.mk · (.ok value)) (List.append_nil events))
  (fun _ _ => rfl)
  (fun logged next last => by
    obtain ⟨events, _ | value⟩ := logged
    · rfl
    -- the second step decides whether the last one runs
    show andThen ⟨events ++ (next value).events, (next value).result⟩ last
      = ⟨events ++ (andThen (next value) last).events, (andThen (next value) last).result⟩
    generalize next value = second
    obtain ⟨events', _ | value'⟩ := second
    · rfl
    · exact congrArg (Logged.mk · _) (List.append_assoc events events' _))

end Logged

end QueryFilter
