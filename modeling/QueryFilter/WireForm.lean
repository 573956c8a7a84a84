import QueryFilter.RenderOptions
import QueryFilter.Vocabulary.BoolOperator

/-!
# Wire forms

The JSON documents that stand for members of the vocabularies and for render options. A member is
the string of its name, which is made from its identifier, or an object whose only member has that
key and a null:

    "multi_select"     {"multi_select": null}

Names are exact here; loose spellings are for people. A layout is `"compact"` or the indentation
under `"pretty"`, and render options hold a layout under `"format"`. A `toDocument` and the reader
`ofDocument?` stand side by side.
-/

set_option autoImplicit false

namespace QueryFilter

/-! ## Names -/

/-- The name that a document holds: a string, or the only key of an object over a null. -/
def Json.name? : Json → Option String
  | .string name => some name
  | .object [(name, .null)] => some name
  | _ => none

/-- The candidate whose exact name a document holds. -/
def ofWireName? {α : Type} (name : α → String) (candidates : List α) (document : Json) : Option α :=
  document.name?.bind fun text => candidates.find? (name · == text)

/-- The document of a property type. -/
def PropertyType.toDocument (type : PropertyType) : Json := .string type.wireName

/-- The property type that a document holds. -/
def PropertyType.ofDocument? : Json → Option PropertyType := ofWireName? wireName all

/-- The document of an operation. -/
def Operation.toDocument (operation : Operation) : Json := .string operation.wireName

/-- The operation that a document holds. -/
def Operation.ofDocument? : Json → Option Operation := ofWireName? wireName all

/-- The document of a boolean operator. -/
def BoolOperator.toDocument (operator : BoolOperator) : Json := .string operator.wireName

/-- The boolean operator that a document holds. -/
def BoolOperator.ofDocument? : Json → Option BoolOperator := ofWireName? wireName all

/-! ## Layouts -/

namespace Layout

/-- The document of a layout. -/
def toDocument : Layout → Json
  | .compact => .string "compact"
  | .pretty indent => .object [("pretty", .object [("indent", .number (.ofUInt64 indent))])]

/-- The indentation among the members of an object; the other members do not matter. -/
def indentOfMembers? (members : Entries Json) : Option UInt64 :=
  match members.get? "indent" with
  | some (.number number) => number.toUInt64?
  | _ => none

/-- The layout that a document holds. -/
def ofDocument? (document : Json) : Option Layout :=
  match document with
  | .object [("pretty", .object members)] => (indentOfMembers? members).map .pretty
  | _ => if document.name? = some "compact" then some .compact else none

end Layout

/-! ## Render options -/

namespace RenderOptions

/-- The document of render options. -/
def toDocument (options : RenderOptions) : Json :=
  .object [("format", options.layout.toDocument)]

/-- The render options that a document holds: the layout is a member, and the others do not matter,
or the only item of an array. -/
def ofDocument? : Json → Option RenderOptions
  | .object members =>
    ((Entries.get? "format" members).bind Layout.ofDocument?).map RenderOptions.mk
  | .array [item] => (Layout.ofDocument? item).map RenderOptions.mk
  | _ => none

end RenderOptions

end QueryFilter
