import QueryFilter.Proofs.Filter.Rendering
import QueryFilter.Proofs.Filter.Uses
import QueryFilter.Script.Recipe

set_option autoImplicit false

/-!
# Calls and the lines they log

An `Invocation` is a call that a program can make, with its arguments; its type says what the call
gives. Most calls are functions of their arguments and nothing else (`PlainCall`). The others report
events, and which lines of a log these become is said here once more, by the call and what it gave
alone (`Invocation.lines`). Main statement: a call logs exactly these lines
(`Invocation.lines_perform`).
-/

namespace QueryFilter

/-! ## Plain calls -/

/-- A call that reports nothing. -/
inductive PlainCall : Type → Type 1 where
  -- filters that are begun, wrapped and extended
  | typedFilter (builder : Builder) (property : String) : PlainCall (TypedFilter builder)
  | dynamicFilter (property : String) (type : PropertyType) : PlainCall DynamicFilter
  | namedDynamicFilter (property typeName : String) : PlainCall (Except FilterError DynamicFilter)
  | timestampFilter (form : TimestampForm) : PlainCall TimestampFilter
  | formula (property : String) (form : FormulaForm) (inner : PropertyFilter) :
      PlainCall (Option FormulaFilter)
  | rollup (property typeName : String) (form : RollupForm) (inner : PropertyFilter) :
      PlainCall RollupFilter
  | anyProperty (filter : PropertyFilter) : PlainCall Filter
  | anyTimestamp (filter : TimestampFilter) : PlainCall Filter
  | anyCompound (filter : CompoundFilter) : PlainCall Filter
  | anyObject (payload : Payload) : PlainCall Filter
  | push (filter : CompoundFilter) (member : Filter) : PlainCall CompoundFilter
  -- questions about filters
  | payloadOf (filter : Filter) : PlainCall Payload
  | propertyOf {builder : Builder} (filter : TypedFilter builder) : PlainCall String
  | timestampOf (filter : TimestampFilter) : PlainCall String
  | typeOf (filter : DynamicFilter) : PlainCall PropertyType
  | operatorOf (filter : CompoundFilter) : PlainCall String
  | membersOf (filter : CompoundFilter) : PlainCall (List Payload)
  | memberCount (filter : CompoundFilter) : PlainCall Nat
  | hasNoMembers (filter : CompoundFilter) : PlainCall Bool
  | agrees (left right : Filter) : PlainCall Bool
  -- values and their conversions
  | valueOf {α : Type} [ToValue α] (content : α) : PlainCall Value
  | valueOfDocument (document : Json) : PlainCall (Except ValueFault Value)
  | documentOfValue (value : Value) : PlainCall (Except NonFinite Json)
  | emptyObject : PlainCall Value
  | asText (value : Value) : PlainCall (Option String)
  | asBool (value : Value) : PlainCall (Option Bool)
  | asObject (value : Value) : PlainCall (Option Payload)
  | valuesAgree (left right : Value) : PlainCall Bool
  -- filter objects
  | objectOf (pairs : List (String × Value)) : PlainCall Payload
  | insert {α : Type} [ToValue α] (payload : Payload) (key : String) (content : α) :
      PlainCall (Option Value × Payload)
  | extend {α : Type} [ToValue α] (payload : Payload) (key : String) (content : α) :
      PlainCall Payload
  | get (payload : Payload) (key : String) : PlainCall (Option Value)
  | assign (payload : Payload) (key : String) (value : Value) : PlainCall (Option Payload)
  | hasKey (payload : Payload) (key : String) : PlainCall Bool
  | keysOf (payload : Payload) : PlainCall (List String)
  | entryCount (payload : Payload) : PlainCall Nat
  | hasNoEntries (payload : Payload) : PlainCall Bool
  | entriesOf (payload : Payload) : PlainCall (List (String × Value))
  -- names, wire forms, options and messages
  | nameOfType (type : PropertyType) : PlainCall String
  | nameOfOperation (operation : Operation) : PlainCall String
  | nameOfOperator (operator : BoolOperator) : PlainCall String
  | parseType (text : String) : PlainCall (Except NameError PropertyType)
  | parseOperation (text : String) : PlainCall (Except NameError Operation)
  | parseOperator (text : String) : PlainCall (Except NameError BoolOperator)
  | operationsOf (type : PropertyType) : PlainCall (List Operation)
  | supports (type : PropertyType) (operation : Operation) : PlainCall Bool
  | isUnary (operation : Operation) : PlainCall Bool
  | wireForm (kind : WireKind) (document : Json) : PlainCall (Option Json)
  | compact : PlainCall RenderOptions
  | pretty (indent : UInt64) : PlainCall RenderOptions
  | messageOf (error : FilterError) : PlainCall String

/-- What a plain call gives. -/
def PlainCall.outcome : {α : Type} → PlainCall α → α
  | _, .typedFilter builder property => .new builder property
  | _, .dynamicFilter property type => .new property type
  | _, .namedDynamicFilter property typeName => DynamicFilter.ofTypeName property typeName
  | _, .timestampFilter form => form.filter
  | _, .formula property form inner => form.wrap? property inner
  | _, .rollup property typeName form inner => form.wrap property typeName inner
  | _, .anyProperty filter => .property filter
  | _, .anyTimestamp filter => .timestamp filter
  | _, .anyCompound filter => .compound filter
  | _, .anyObject payload => .object payload
  | _, .push filter member => filter.push member
  | _, .payloadOf filter => filter.payload
  | _, .propertyOf filter => filter.property
  | _, .timestampOf filter => filter.timestamp
  | _, .typeOf filter => filter.type
  | _, .operatorOf filter => filter.operator
  | _, .membersOf filter => filter.members
  | _, .memberCount filter => filter.length
  | _, .hasNoMembers filter => filter.isEmpty
  | _, .agrees left right => left.agrees right
  | _, @valueOf _ _ content => toValue content
  | _, .valueOfDocument document => Value.ofJson document
  | _, .documentOfValue value => value.toJson
  | _, .emptyObject => Value.emptyObject
  | _, .asText value => value.asText?
  | _, .asBool value => value.asBool?
  | _, .asObject value => value.asObject?
  | _, .valuesAgree left right => left.agrees right
  | _, .objectOf pairs => Entries.ofList pairs
  | _, @insert _ _ payload key content => payload.exchange key (toValue content)
  | _, @extend _ _ payload key content => Entries.insert key (toValue content) payload
  | _, .get payload key => payload.get? key
  | _, .assign payload key value => payload.assign? key value
  | _, .hasKey payload key => payload.hasKey key
  | _, .keysOf payload => payload.keys
  | _, .entryCount payload => payload.length
  | _, .hasNoEntries payload => payload.isEmpty
  | _, .entriesOf payload => payload
  | _, .nameOfType type => type.name
  | _, .nameOfOperation operation => operation.name
  | _, .nameOfOperator operator => operator.name
  | _, .parseType text => PropertyType.parse text
  | _, .parseOperation text => Operation.parse text
  | _, .parseOperator text => BoolOperator.parse text
  | _, .operationsOf type => type.operations
  | _, .supports type operation => type.supports operation
  | _, .isUnary operation => operation.isUnary
  | _, .wireForm kind document => kind.canonical? document
  | _, .compact => RenderOptions.compact
  | _, .pretty indent => RenderOptions.pretty indent
  | _, .messageOf error => error.message

/-! ## All calls -/

/-- A call that a program can make. Operations of typed and timestamp filters can only be called
if they are on offer. A call that may fail gives its error as a value, and a panic is given in the
same way; a program that does not catch it ends there. -/
inductive Invocation : Type → Type 1 where
  | plain {α : Type} (call : PlainCall α) : Invocation α
  | use {builder : Builder} {α : Type} [ToValue α] (filter : TypedFilter builder)
      (operation : Operation) (content : α) (offered : builder.offers operation = true) :
      Invocation (TypedFilter builder)
  | useTimestamp {α : Type} [ToValue α] (filter : TimestampFilter) (operation : Operation)
      (content : α) (offered : operation ∈ TimestampFilter.operations) :
      Invocation TimestampFilter
  | apply {α : Type} [ToValue α] (filter : DynamicFilter) (operation : Operation) (content : α) :
      Invocation (Except FilterError DynamicFilter)
  | applyEmpty (filter : DynamicFilter) : Invocation (Except FilterError DynamicFilter)
  | applyNotEmpty (filter : DynamicFilter) : Invocation (Except FilterError DynamicFilter)
  | compose (form : CompoundForm) (members : List Filter) : Invocation CompoundFilter
  | toDict (filter : Filter) : Invocation (Except FilterError (Entries Json))
  | toDocument (filter : Filter) : Invocation (Except FilterError Json)
  | toText (filter : Filter) : Invocation (Except FilterError String)
  | toTextWith (filter : Filter) (options : RenderOptions) :
      Invocation (Except RenderFailure String)
  | objectToDict (payload : Payload) : Invocation (Except FilterError (Entries Json))
  | objectToDocument (payload : Payload) : Invocation (Except FilterError Json)
  | render {α : Type} [Writable α] (options : RenderOptions) (content : α) :
      Invocation (Except RenderFailure String)

/-- The operator of a compound filter that is composed in this way. -/
def CompoundForm.operator : CompoundForm → String
  | .named operator => operator
  | .all => "and"
  | .any => "or"

/-- What an error says, without the kind of error that it is. -/
def FilterError.reason : FilterError → String
  | .unsupportedOperation type operation => message (.unsupportedOperation type operation)
  | .invalidValue fault => fault.reason
  | .serialization number => number.reason

namespace Invocation

/-- Makes the call. -/
def perform : {α : Type} → Invocation α → Logged Empty α
  | _, .plain call => pure call.outcome
  | _, @use _ _ _ filter operation content offered =>
    filter.use (toValue content) operation offered
  | _, @useTimestamp _ _ filter operation content offered =>
    (filter.use? (toValue content) operation).get
      (filter.isSome_use? ⟨operation, offered, toValue content⟩)
  | _, @apply _ _ filter operation content => (filter.apply operation (toValue content)).attempt
  | _, .applyEmpty filter => filter.applyEmpty.attempt
  | _, .applyNotEmpty filter => filter.applyNotEmpty.attempt
  | _, .compose form members => form.compose members
  | _, .toDict filter => filter.toDict.attempt
  | _, .toDocument filter => filter.toDocument.attempt
  | _, .toText filter => filter.toText.attempt
  | _, .toTextWith filter options => (filter.toTextWith options).attempt
  | _, .objectToDict payload => payload.toDict.attempt
  | _, .objectToDocument payload => payload.toDocument.attempt
  | _, @render _ _ options content => (options.render content).attempt

/-- What the call gives. -/
def outcome {α : Type} (invocation : Invocation α) : α := invocation.perform.value

end Invocation

/-! ## Lines -/

/-- A line of a log: the level, the message and the named fields of an event. -/
structure LogLine where
  level : String
  message : String
  fields : List (String × String)
  deriving DecidableEq

/-- The line that an event becomes. -/
def Event.line (event : Event) : LogLine := ⟨event.level, event.message, event.fields⟩

namespace LogLine

/-- Is the line one of the trace? -/
def isTrace (line : LogLine) : Bool := line.level == "TRACE"

/-- An operation has been set. -/
def set (operation : Operation) : LogLine :=
  ⟨"TRACE", "Setting filter operation", [("operation", operation.name)]⟩

/-- An operation has been rejected. -/
def rejected (type : PropertyType) (operation : Operation) : LogLine :=
  ⟨"DEBUG", "Rejected unsupported filter operation",
    [("property_type", type.name), ("operation", operation.name)]⟩

/-- So many members have been joined. -/
def composed (operator : String) (members : Nat) : LogLine :=
  ⟨"DEBUG", "Composed compound filter",
    [("operator", operator), ("members", String.ofList (decimalDigits members))]⟩

/-- Something could not be rendered. -/
def renderingFailed (layout : Layout) (error : FilterError) : LogLine :=
  ⟨"WARN", "Filter could not be rendered as JSON",
    [("error", error.message), ("format", layout.description)]⟩

/-- A filter object could not be converted. -/
def conversionFailed (error : FilterError) : LogLine :=
  ⟨"WARN", "Filter object could not be converted to JSON", [("error", error.reason)]⟩

end LogLine

namespace Invocation

/-- One line for an error and none for a result. -/
def failureLines {α : Type} (line : FilterError → LogLine) : Except FilterError α → List LogLine
  | .ok _ => []
  | .error error => [line error]

/-- One line for an error that rendering returns, and none for a text or a panic. -/
def renderingLines (layout : Layout) : Except RenderFailure String → List LogLine
  | .ok _ | .error .panicked => []
  | .error (.returned error) => [.renderingFailed layout error]

/-- One line for an operation on a dynamic filter, whether it is accepted or rejected. -/
def applyLines (filter : DynamicFilter) (operation : Operation) :
    Except FilterError DynamicFilter → List LogLine
  | .ok _ => [.set operation]
  | .error _ => [.rejected filter.type operation]

/-- The lines that are due to a call, when this is what it gives. -/
def lines : {α : Type} → Invocation α → α → List LogLine
  | _, .plain _, _ => []
  | _, @use _ _ _ _ operation _ _, _ => [.set operation]
  | _, @useTimestamp _ _ _ operation _ _, _ => [.set operation]
  | _, @apply _ _ filter operation _, outcome => applyLines filter operation outcome
  | _, .applyEmpty filter, outcome => applyLines filter .isEmpty outcome
  | _, .applyNotEmpty filter, outcome => applyLines filter .isNotEmpty outcome
  | _, .compose form members, _ => [.composed form.operator members.length]
  | _, .toDict _, outcome => failureLines .conversionFailed outcome
  | _, .toDocument _, outcome => failureLines .conversionFailed outcome
  | _, .toText _, outcome => failureLines (.renderingFailed .compact) outcome
  | _, .toTextWith _ options, outcome => renderingLines options.layout outcome
  | _, .objectToDict _, outcome => failureLines .conversionFailed outcome
  | _, .objectToDocument _, outcome => failureLines .conversionFailed outcome
  | _, @render _ _ options _, outcome => renderingLines options.layout outcome

/-! ## What calls log -/

theorem lines_apply (filter : DynamicFilter) (operation : Operation) (value : Value) :
    (filter.apply operation value).events.map Event.line
      = applyLines filter operation (filter.apply operation value).result := by
  rw [DynamicFilter.apply_eq]
  split
  · rfl
  · rfl

theorem lines_toDict (payload : Payload) :
    payload.toDict.events.map Event.line
      = failureLines .conversionFailed payload.toDict.result := by
  rw [Payload.toDict]
  cases payload.toMembers with
  | ok members => rfl
  | error number => rfl

theorem lines_toDocument (payload : Payload) :
    payload.toDocument.events.map Event.line
      = failureLines .conversionFailed payload.toDocument.result := by
  rw [Payload.toDocument, Payload.toDict]
  cases payload.toMembers with
  | ok members => rfl
  | error number => rfl

section Rendering

variable {α : Type} [Writable α]

theorem lines_layoutRender (layout : Layout) (content : α) :
    (layout.render content).events.map Event.line
      = failureLines (.renderingFailed layout) (layout.render content).result := by
  rw [Layout.render]
  cases writeText layout content with
  | ok text => rfl
  | error number => rfl

theorem lines_render (options : RenderOptions) (content : α) :
    (options.render content).events.map Event.line
      = renderingLines options.layout (options.render content).result := by
  by_cases hfits : options.layout.Fits
  · rw [RenderOptions.render_of_fits hfits]
    refine (lines_layoutRender options.layout content).trans ?_
    rw [Logged.mapError]
    cases (options.layout.render content).result with
    | ok text => rfl
    | error error => rfl
  · rw [RenderOptions.render_of_not_fits hfits]
    rfl

end Rendering

/-- A call logs the lines that are due to it. -/
theorem lines_perform {α : Type} (invocation : Invocation α) :
    invocation.perform.events.map Event.line = invocation.lines invocation.outcome := by
  cases invocation with
  | plain call => rfl
  | use filter operation content offered =>
      rw [perform, TypedFilter.use_eq]
      rfl
  | useTimestamp filter operation content offered =>
      simp only [perform, TimestampFilter.use?_eq, if_pos offered, Option.get_some]
      rfl
  | apply filter operation content => exact lines_apply filter operation _
  | applyEmpty filter => exact lines_apply filter .isEmpty _
  | applyNotEmpty filter => exact lines_apply filter .isNotEmpty _
  | compose form members =>
      -- the two forms with an operator of their own leave the report to the general one
      cases form with
      | named operator => rfl
      | all => rfl
      | any => rfl
  | toDict filter => exact lines_toDict filter.payload
  | toDocument filter => exact lines_toDocument filter.payload
  | toText filter => exact lines_layoutRender .compact filter.payload
  | toTextWith filter options => exact lines_render options filter.payload
  | objectToDict payload => exact lines_toDict payload
  | objectToDocument payload => exact lines_toDocument payload
  | render options content => exact lines_render options content

end Invocation

end QueryFilter
