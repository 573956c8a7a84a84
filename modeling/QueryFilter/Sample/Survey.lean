import QueryFilter.Sample.Observation
import QueryFilter.Script.Failure

/-!
# Surveys

A `Survey` asks which values the features of a sampler's draws can take. It looks at the cover of
the sampler, which takes every choice, and collects for each feature the distinct values in
ascending order.
-/

set_option autoImplicit false

namespace QueryFilter

/-! ## Collections of observations -/

/-- Inserts a text into an ascending list, unless it is there. -/
def insertText (text : String) : List String → List String
  | [] => [text]
  | first :: rest =>
    if text = first then first :: rest
    else if text < first then text :: first :: rest
    else first :: insertText text rest

/-- The values of each feature: distinct ones, in ascending order of their characters. -/
def collect (observations : List Observation) : Entries (List String) :=
  observations.foldl (fun seen (feature, value) =>
    seen.insert feature (insertText value ((seen.get? feature).getD []))) []

/-- What is observed on the cover of a sampler. -/
def Sampler.seen {α : Type} (sampler : Sampler α) (observe : α → List Observation) :
    Entries (List String) := collect (sampler.cover.flatMap observe)

/-! ## Surveys by subject -/

/-- What is drawn in a survey. -/
inductive Survey where
  | propertyName
  | operableType
  | operation
  /-- an operation of a type that is given by name -/
  | operationOf (typeName : String)
  | scalarValue
  | filterValue
  | dynamicFilter
  | numberFilter
  | timestampFilter
  | wrappedFilter
  | leafFilter
  | anyFilter

open Observation in
/-- The outcome of a survey. Nothing can be drawn from the operations of a type without any. -/
def Survey.run : Survey → Except Failure (Entries (List String))
  | .propertyName => .ok (Sampler.propertyName.seen ofName)
  | .operableType => .ok (Sampler.operableType.seen fun type => [("types", type.name)])
  | .operation => .ok (Sampler.operation.seen fun operation => [("operations", operation.name)])
  | .operationOf typeName => do
    let type ← (PropertyType.parse typeName).mapError .name
    if type.operations.isEmpty then throw .noChoice
    return (Sampler.operationOf type).seen fun operation => [("operations", operation.name)]
  | .scalarValue => .ok (Sampler.scalarValue.seen fun value => ofValue 0 value ++ ofDateParts value)
  | .filterValue => .ok (Sampler.filterValue.seen (ofValue 0))
  | .dynamicFilter => .ok (Sampler.dynamicFilter.seen fun filter => ofOperations filter.payload)
  | .numberFilter =>
    .ok (Sampler.numberFilter.seen fun filter => ofKeys filter.payload :: ofName filter.property)
  | .timestampFilter =>
    .ok (Sampler.timestampFilter.seen fun filter =>
      ("timestamps", filter.timestamp) :: ofKeys filter.payload ::
        ((filter.payload.get? Operation.equals.name).map (ofValue 0)).getD [])
  | .wrappedFilter =>
    .ok (Sampler.wrappedFilter.seen fun filter =>
      ofKind filter :: ofRoundTrip filter :: ofWrapped filter.payload)
  | .leafFilter => .ok (Sampler.leafFilter.seen fun filter => [ofKind filter, ofRoundTrip filter])
  | .anyFilter =>
    .ok (Sampler.anyFilter.seen fun filter =>
      ofRoundTrip filter :: ofTree 0 (.object filter.payload))

end QueryFilter
