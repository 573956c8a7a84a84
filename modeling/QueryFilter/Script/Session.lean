import QueryFilter.Cycle
import QueryFilter.Filter.Report
import QueryFilter.Script.Recipe

/-!
# Sessions

A `Session` keeps filters in named slots. A `Step` does something with the filter in a slot and
gives an `Answer`. A step that fails changes nothing, and the session goes on with the next one.
What a step reports are the events of its own action; the text that shows a slot after a change is
made without a report.
-/

set_option autoImplicit false

namespace QueryFilter

/-! ## Renderings -/

/-- What a filter is rendered from and how. -/
inductive Rendering where
  /-- the filter itself, in a layout -/
  | text (choice : LayoutChoice)
  /-- its JSON mapping, on one line -/
  | dict
  /-- its JSON document, on one line -/
  | document

/-- The text of a filter in one of its renderings. -/
def Filter.rendered (filter : Filter) : Rendering → Logged Failure String
  | .text choice => do
    let options ← Logged.ofExcept choice.options
    (filter.toTextWith options).mapError .ofRendering
  | .dict => do
    let members ← filter.toDict.mapError .filter
    return Json.toText .compact (.object members)
  | .document => do
    let document ← filter.toDocument.mapError .filter
    return Json.toText .compact document

/-! ## Steps -/

/-- What a step does with the filter in its slot. -/
inductive Action where
  /-- puts a filter into the slot -/
  | set (recipe : Recipe)
  /-- uses an operation -/
  | call (call : Call)
  /-- appends a member to a compound -/
  | push (recipe : Recipe)
  /-- wraps the filter in compounds, so many times, with the operators in turn -/
  | nest (times : Nat) (operators : List String)
  /-- keeps only the filter object -/
  | toObject
  /-- inserts into a bare object -/
  | insert (key : String) (literal : Literal)
  /-- assigns to a key of a bare object, if it is present -/
  | assign (key : String) (literal : Literal)
  /-- looks up a key of the filter object -/
  | get (key : String)
  /-- compares the filter with the one in another slot -/
  | compare (other : String)
  | report
  /-- shows the filter object -/
  | payload
  | render (rendering : Rendering)

/-- A step of a session. -/
structure Step where
  slot : String
  action : Action

/-- What a step answers. -/
inductive Answer where
  /-- the text of the changed filter -/
  | state (text : Except FilterError String)
  /-- the value that an insertion replaced -/
  | previous (value : Option Value)
  /-- whether an assignment found its key -/
  | found (present : Bool)
  /-- the value under a key -/
  | entry (value : Option Value)
  | agreement (agree : Bool)
  | report (report : Report)
  | payload (payload : Payload)
  | text (text : String)

/-! ## Slots -/

/-- The filters in the slots that are not empty. -/
abbrev Session : Type := Entries Filter

namespace Session

/-- The filter in a slot. -/
def filterIn (session : Session) (slot : String) : Logged Failure Filter :=
  match session.get? slot with
  | some filter => pure filter
  | none => .fail (.emptySlot slot)

/-- The bare object in a slot. -/
def objectIn (session : Session) (slot : String) : Logged Failure Payload := do
  match ← session.filterIn slot with
  | .object payload => return payload
  | _ => .fail .notCallable

/-- Puts a filter into a slot and answers its text. -/
def keep (session : Session) (slot : String) (filter : Filter) : Session × Answer :=
  (session.insert slot filter, .state filter.toText.result)

/-! ## Running steps -/

/-- Performs a step: the session after it, and the answer. -/
def perform (session : Session) (step : Step) : Logged Failure (Session × Answer) :=
  match step.action with
  | .set recipe => session.keep step.slot <$> recipe.build session
  | .call call => do
    let filter ← session.filterIn step.slot
    session.keep step.slot <$> call.perform filter
  -- the member is made before the slot is looked at, and its failure comes first
  | .push recipe => do
    let member ← recipe.build session
    match ← session.filterIn step.slot with
    | .compound filter => return session.keep step.slot (.compound (filter.push member))
    | _ => .fail .notCallable
  | .nest times operators => do
    let filter ← session.filterIn step.slot
    session.keep step.slot <$> CompoundFilter.nest (cycled times operators) filter
  | .toObject => do
    let filter ← session.filterIn step.slot
    return session.keep step.slot (.object filter.payload)
  | .insert key literal => do
    let value ← Logged.ofExcept literal.evaluate
    let payload ← session.objectIn step.slot
    let (previous, changed) := payload.exchange key value
    return (session.insert step.slot (.object changed), .previous previous)
  | .assign key literal => do
    let value ← Logged.ofExcept literal.evaluate
    let payload ← session.objectIn step.slot
    match payload.assign? key value with
    | some changed => return (session.insert step.slot (.object changed), .found true)
    | none => return (session, .found false)
  | .get key => do
    let filter ← session.filterIn step.slot
    return (session, .entry (filter.payload.get? key))
  | .compare other => do
    let left ← session.filterIn step.slot
    let right ← session.filterIn other
    return (session, .agreement (left.agrees right))
  | .report => do
    let filter ← session.filterIn step.slot
    return (session, .report (← filter.report))
  | .payload => do
    let filter ← session.filterIn step.slot
    return (session, .payload filter.payload)
  | .render rendering => do
    let filter ← session.filterIn step.slot
    return (session, .text (← filter.rendered rendering))

/-- The session after a step, and what the step reported and answered. -/
def step (session : Session) (step : Step) : Session × Logged Failure Answer :=
  let performed := session.perform step
  match performed.result with
  | .ok (changed, answer) => (changed, ⟨performed.events, .ok answer⟩)
  | .error failure => (session, ⟨performed.events, .error failure⟩)

/-- What the steps of a session report and answer, one by one. -/
def run (session : Session) : List Step → List (Logged Failure Answer)
  | [] => []
  | first :: rest =>
    let (changed, outcome) := session.step first
    outcome :: run changed rest

end Session

end QueryFilter
