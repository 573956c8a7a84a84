import QueryFilter.Number.Double
import QueryFilter.OrderedMap

/-!
# Filter values

A `Value` is what can stand under a key of a filter object: JSON without null, with integers of 64
signed bits. Any double is a value; that some cannot be written as JSON shows only when they are
written. A `Payload` is a filter object, an insertion-ordered map of values.
-/

set_option autoImplicit false

namespace QueryFilter

/-- A value under a key of a filter object. -/
inductive Value where
  | bool (flag : Bool)
  | int (number : Int64)
  | float (number : Double)
  | text (content : String)
  | array (items : List Value)
  | object (entries : List (String × Value))
  deriving Inhabited

/-- A filter object. -/
abbrev Payload : Type := Entries Value

namespace Value

/-! ## Parts of a value -/

/-- The object without entries, which stands for a relative date. -/
def emptyObject : Value := .object []

/-- The content of a text. -/
def asText? : Value → Option String
  | .text content => some content
  | _ => none

/-- The truth value. -/
def asBool? : Value → Option Bool
  | .bool flag => some flag
  | _ => none

/-- The entries of an object. -/
def asObject? : Value → Option Payload
  | .object entries => some entries
  | _ => none

/-- The items of an array. -/
def asArray? : Value → Option (List Value)
  | .array items => some items
  | _ => none

/-! ## Agreement -/

mutual

/-- Do two values agree? They have to be of the same kind, objects with their keys in the same
order; doubles are compared as numbers. -/
def agrees : Value → Value → Bool
  | .bool x, .bool y => x == y
  | .int x, .int y => x == y
  | .float x, .float y => x.numericallyEqual y
  | .text x, .text y => x == y
  | .array xs, .array ys => agreesItems xs ys
  | .object xs, .object ys => agreesEntries xs ys
  | _, _ => false

/-- Do the items agree one by one? -/
def agreesItems : List Value → List Value → Bool
  | [], [] => true
  | x :: xs, y :: ys => agrees x y && agreesItems xs ys
  | _, _ => false

/-- Do the entries agree one by one? -/
def agreesEntries : List (String × Value) → List (String × Value) → Bool
  | [], [] => true
  | (k, x) :: xs, (l, y) :: ys => k == l && agrees x y && agreesEntries xs ys
  | _, _ => false

end

end Value

namespace Payload

/-- Do two filter objects agree entry by entry? -/
def agrees (left right : Payload) : Bool := Value.agreesEntries left right

/-- The text under a key; empty if there is none. -/
def textAt (key : String) (payload : Payload) : String :=
  ((payload.get? key).bind Value.asText?).getD ""

end Payload

end QueryFilter
