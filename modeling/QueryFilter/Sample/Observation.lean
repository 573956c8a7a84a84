import QueryFilter.Filter.Expectation
import QueryFilter.Sample.Filter

/-!
# Observations on draws

An `Observation` is a feature of a draw and the value that the feature has, both as texts. Numbers
are shown with two digits, so that they sort like texts. Some features only ask whether a draw keeps
within its bounds.
-/

set_option autoImplicit false

namespace QueryFilter

/-- A feature, and the value that it has. -/
abbrev Observation : Type := String × String

namespace Observation

/-- A number that is observed. -/
def count (feature : String) (number : Nat) : Observation :=
  (feature, String.ofList (paddedDigits 10 2 number))

/-- A truth that is observed. -/
def truth (feature : String) (holds : Bool) : Observation :=
  (feature, String.ofList (Layout.boolText holds))

/-! ## Names -/

/-- How long the name of a property is, how it begins and how it goes on. -/
def ofName (name : String) : List Observation :=
  let characters := name.toList
  count "name_lengths" characters.length ::
    (characters.take 1).map (fun first => ("name_first", first.toString)) ++
    (characters.drop 1).map (fun other => ("name_rest", other.toString))

/-! ## Texts -/

/-- Does a text have this shape? A hash mark stands for any character of a class, and every other
mark for itself. -/
def hasShape (inClass : Char → Bool) : (shape text : List Char) → Bool
  | [], [] => true
  | mark :: shape, character :: text =>
    (if mark == '#' then inClass character else character == mark) && hasShape inClass shape text
  | _, _ => false

/-- Is it a decimal digit? -/
def isDecimal (character : Char) : Bool := decimalCharacters.contains character

/-- Is it a lower-case hexadecimal digit? -/
def isHexadecimal (character : Char) : Bool :=
  isDecimal character || "abcdef".toList.contains character

/-- Does a text look like an identifier? -/
def looksLikeUuid (text : List Char) : Bool :=
  hasShape isHexadecimal "########-####-####-####-############".toList text

/-- Does a text look like a date? -/
def looksLikeDate (text : List Char) : Bool := hasShape isDecimal "####-##-##".toList text

/-- What a text looks like, and the length of one that looks like nothing special. -/
def ofText (text : List Char) : List Observation :=
  if looksLikeUuid text then [("texts", "uuid")]
  else if looksLikeDate text then [("texts", "date")]
  else [("texts", "other"), truth "text_within_24" (decide (text.length ≤ 24))]

/-- The month and the day of a value that looks like a date. -/
def ofDateParts (value : Value) : List Observation :=
  match value.asText? with
  | none => []
  | some content =>
    let text := content.toList
    if looksLikeDate text then
      [("months", String.ofList ((text.drop 5).take 2)), ("days", String.ofList (text.drop 8))]
    else []

/-! ## Values -/

/-- Is a double a quarter of an integer, and a million at most in size? -/
def isQuarter (number : Double) : Bool :=
  let units := unitsOfMagnitude number.magnitude
  number.isFinite && units * 4 % unitsPerOne == 0 && decide (units ≤ 1000000 * unitsPerOne)

/-- Is it a key that can be drawn? -/
def isKey (key : String) : Bool :=
  let characters := key.toList
  decide (1 ≤ characters.length ∧ characters.length ≤ 8) && characters.all keyCharacters.contains

mutual

/-- The kind of a value and of all values in it; the depth is the number of containers around. -/
def ofValue (depth : Nat) (value : Value) : List Observation :=
  truth "depth_within_3" (decide (depth ≤ 3)) ::
    match value with
    | .bool flag => [("variants", if flag then "Bool true" else "Bool false")]
    | .int _ => [("variants", "Int")]
    | .float number => [("variants", "Float"), truth "float_quarters" (isQuarter number)]
    | .text content => ofText content.toList
    | .array items =>
      ("variants", "Array") :: count "array_lengths" items.length :: ofItems (depth + 1) items
    | .object entries =>
      ("variants", "Object") :: count "object_lengths" entries.length ::
        ofEntries (depth + 1) entries

/-- What is observed on the items of an array. -/
def ofItems (depth : Nat) : List Value → List Observation
  | [] => []
  | item :: rest => ofValue depth item ++ ofItems depth rest

/-- What is observed on the entries of an object. -/
def ofEntries (depth : Nat) : List (String × Value) → List Observation
  | [] => []
  | (key, value) :: rest =>
    truth "object_key_ok" (isKey key) :: ofValue depth value ++ ofEntries depth rest

end

/-! ## Filters -/

/-- The keys of a filter object. -/
def ofKeys (payload : Payload) : Observation := ("keys", String.intercalate "," payload.keys)

/-- The value of an operation that takes none. -/
def ofUnary (key : String) (value : Value) : List Observation :=
  if (Operation.all.filter Operation.isUnary).any (·.name == key) then
    [truth "unary_values" (value.agrees (.bool true))]
  else []

/-- The first two keys of a filter on a property, and its operations. -/
def ofOperations (payload : Payload) : List Observation :=
  let operations := payload.drop 2
  ("head", String.intercalate "," (payload.keys.take 2)) ::
    count "operation_counts" operations.length ::
    operations.flatMap fun (key, value) =>
      ("operations", payload.textAt "type" ++ " " ++ key) :: ofUnary key value

/-- The kind of a filter. -/
def ofKind (filter : Filter) : Observation := ("variants", filter.kind)

/-- Whether the text of a filter reads back. -/
def ofRoundTrip (filter : Filter) : Observation := truth "round_trip" filter.roundTrips

/-- The name of the type inside a formula or a rollup. -/
def ofTypeName (name : String) : List Observation :=
  [count "type_name_lengths" name.length,
    truth "type_name_ok" (name.toList.all smallLetters.contains)]

/-- The only entry of an object, if it is an object as well. -/
def onlyObject? (entries : List (String × Value)) : Option (String × Payload) :=
  match entries with
  | [(key, .object payload)] => some (key, payload)
  | _ => none

/-- The names that wrap the inner filter of a formula or a rollup, and what it holds. -/
def ofWrapped (payload : Payload) : List Observation :=
  match onlyObject? (payload.drop 2) with
  | none => []
  | some (key, inner) =>
    match payload.textAt "type", onlyObject? inner with
    | "rollup", some (typeName, innermost) =>
      ("operators", key) :: ofTypeName typeName ++ ofOperations innermost
    | _, _ => ofTypeName key ++ ofOperations inner

/-! ## Trees of compounds -/

/-- What a filter that is not a compound looks at. -/
def ofLeaf (payload : Payload) : Observation :=
  ("kinds", if payload.hasKey "timestamp" then "timestamp" else payload.textAt "type")

mutual

/-- The operators and the leaves of a tree of compounds; the depth is the number of compounds
around. -/
def ofTree (depth : Nat) : Value → List Observation
  | .object [(operator, .array members)] =>
    ("kinds", operator) :: count "member_counts" members.length ::
      truth "compound_depth_within_4" (decide (depth + 1 ≤ 4)) :: ofTrees (depth + 1) members
  | .object payload => [ofLeaf payload]
  | _ => []

/-- What is observed on the members of a compound. -/
def ofTrees (depth : Nat) : List Value → List Observation
  | [] => []
  | member :: rest => ofTree depth member ++ ofTrees depth rest

end

end Observation

end QueryFilter
