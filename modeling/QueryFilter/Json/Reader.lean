import QueryFilter.Json.Token

/-!
# Reading JSON

A document is read token by token. A `Reader` says what may come next and holds the containers that
are open around it, the innermost first; `step` takes one token. Strict JSON is accepted and nothing
else, containers are nested at most `nestingLimit` deep, and a repeated key of an object keeps its
first position and takes its last value.
-/

set_option autoImplicit false

namespace QueryFilter

namespace Json

/-- How many arrays and objects may be nested in each other. -/
def nestingLimit : Nat := 127

/-! ## States -/

/-- A container around the value that is being read: the items of an array so far, latest first,
or the members of an object so far and the key of the value. -/
inductive Frame where
  | item (items : List Json)
  | member (members : Entries Json) (key : String)

/-- What a reader waits for. -/
inductive Reader where
  /-- a value -/
  | value (around : List Frame)
  /-- the first item of an array, or its end -/
  | firstItem (around : List Frame)
  /-- the first key of an object, or its end -/
  | firstKey (around : List Frame)
  /-- another key of an object -/
  | key (members : Entries Json) (around : List Frame)
  /-- the colon behind a key -/
  | colon (members : Entries Json) (key : String) (around : List Frame)
  /-- a comma or the end of an array -/
  | afterItem (items : List Json) (around : List Frame)
  /-- a comma or the end of an object -/
  | afterMember (members : Entries Json) (around : List Frame)
  /-- nothing: the document is complete -/
  | finished (document : Json)

namespace Reader

/-! ## Steps -/

/-- Hands a complete value to the container around it. -/
def deliver (document : Json) : List Frame → Reader
  | [] => .finished document
  | .item items :: around => .afterItem (document :: items) around
  | .member members name :: around => .afterMember (members.insert name document) around

/-- Takes the first token of a value. -/
def start (around : List Frame) : JsonToken → Option Reader
  | .null => some (deliver .null around)
  | .bool flag => some (deliver (.bool flag) around)
  | .number amount => some (deliver (.number amount) around)
  | .string content => some (deliver (.string content) around)
  | .openArray => if around.length < nestingLimit then some (.firstItem around) else none
  | .openObject => if around.length < nestingLimit then some (.firstKey around) else none
  | .closeArray | .closeObject | .colon | .comma => none

/-- Takes one token; `none` if it may not stand here. -/
def step : Reader → JsonToken → Option Reader
  | .value around, token => start around token
  | .firstItem around, .closeArray => some (deliver (.array []) around)
  -- anything but the end begins the first item
  | .firstItem around, token => start (.item [] :: around) token
  | .firstKey around, .closeObject => some (deliver (.object []) around)
  | .firstKey around, .string name => some (.colon [] name around)
  | .key members around, .string name => some (.colon members name around)
  | .colon members name around, .colon => some (.value (.member members name :: around))
  | .afterItem items around, .comma => some (.value (.item items :: around))
  | .afterItem items around, .closeArray => some (deliver (.array items.reverse) around)
  -- a comma promises another key, so the object cannot end here
  | .afterMember members around, .comma => some (.key members around)
  | .afterMember members around, .closeObject => some (deliver (.object members) around)
  | _, _ => none

/-- The document, once it is complete. -/
def document? : Reader → Option Json
  | .finished document => some document
  | _ => none

end Reader

/-! ## Documents -/

/-- The document that tokens spell. -/
def ofTokens? (tokens : List JsonToken) : Option Json :=
  (tokens.foldlM Reader.step (.value [])).bind Reader.document?

/-- The document of a text, if it is well-formed JSON within the nesting limit. -/
def ofText? (text : String) : Option Json :=
  (JsonToken.tokensOf? text.toList).bind ofTokens?

/-- Tokens that begin with the first token of a value go on from where it leads. -/
theorem foldlM_step_cons (reader : Reader) (token : JsonToken) (tokens : List JsonToken) :
    (token :: tokens).foldlM Reader.step reader
      = (reader.step token).bind fun next => tokens.foldlM Reader.step next := rfl

end Json

end QueryFilter
