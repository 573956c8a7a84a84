import QueryFilter.Fixtures
import QueryFilter.Sample.Survey
import QueryFilter.Script.Check
import QueryFilter.Script.Session
import QueryFilter.Proofs.OrderedMap.Runs
import QueryFilter.Proofs.Json.Structure
import QueryFilter.Proofs.Value.Structure
import QueryFilter.Proofs.Filter.Built
import QueryFilter.Proofs.Value.Text
import QueryFilter.Proofs.Filter.Rendering
import QueryFilter.Proofs.Filter.Compound
import QueryFilter.Proofs.Filter.Failure
import QueryFilter.Proofs.Json.Number
import QueryFilter.Proofs.Json.Quoted
import QueryFilter.Proofs.Json.Reading
import QueryFilter.Proofs.Filter.RoundTrip
import QueryFilter.Proofs.Filter.Decoding
import QueryFilter.Proofs.Filter.Uses
import QueryFilter.Proofs.Vocabulary.Names
import QueryFilter.Proofs.Filter.NormalForm
import QueryFilter.Proofs.Filter.Rebuilding
import QueryFilter.Proofs.Json.Unambiguous
import QueryFilter.Proofs.Value.Agreement
import QueryFilter.Proofs.Filter.Equality
import QueryFilter.Proofs.Json.Place
import QueryFilter.Proofs.Json.Spacing
import QueryFilter.Proofs.Filter.Formatting
import QueryFilter.Proofs.Value.Line
import QueryFilter.Proofs.Filter.Composition
import QueryFilter.Proofs.Filter.Wrapped
import QueryFilter.Proofs.Number.Nearest
import QueryFilter.Proofs.Value.Narrowing
import QueryFilter.Proofs.Log.Program
import QueryFilter.Proofs.Sample.Bounds
import QueryFilter.Proofs.Sample.Soundness
import QueryFilter.Proofs.Vocabulary.Spelling
import QueryFilter.Proofs.Filter.Nesting
import QueryFilter.Proofs.Json.Accepted
import QueryFilter.Proofs.Json.Respacing
import QueryFilter.Proofs.Filter.Canonical
import QueryFilter.Proofs.Json.Brackets
import QueryFilter.Proofs.Value.Container
import QueryFilter.Proofs.Value.Outline
import QueryFilter.Proofs.Value.Placement
import QueryFilter.Proofs.Filter.Pretty
import QueryFilter.Proofs.Value.Conversion
import QueryFilter.Proofs.Calendar.Date
import QueryFilter.Proofs.Calendar.Instant
import QueryFilter.Proofs.Uuid
import QueryFilter.Proofs.WireForm
