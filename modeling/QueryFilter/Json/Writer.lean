import QueryFilter.Json.Basic
import QueryFilter.Json.Layout

/-!
# Writing JSON

`Json.write` is the text of a document in a layout. A document can always be written.
-/

set_option autoImplicit false

namespace QueryFilter

namespace Json

mutual

/-- The text of a document that stands at a level of nesting. -/
def write (layout : Layout) (level : Nat) : Json → Fragment
  | .null => .ofList Layout.nullText
  | .bool value => .ofList (Layout.boolText value)
  | .number value => .ofList value.text
  | .string value => .ofList (quoted value.toList)
  | .array items => layout.arrayText level (writeItems layout (level + 1) items)
  | .object members => layout.objectText level (writeMembers layout (level + 1) members)

/-- The texts of the items of an array. -/
def writeItems (layout : Layout) (level : Nat) : List Json → List Fragment
  | [] => []
  | item :: rest => write layout level item :: writeItems layout level rest

/-- The texts of the members of an object. -/
def writeMembers (layout : Layout) (level : Nat) : List (String × Json) → List Fragment
  | [] => []
  | (key, value) :: rest =>
    layout.memberText key (write layout level value) :: writeMembers layout level rest

end

/-- The text of a document. -/
def toText (layout : Layout) (document : Json) : String :=
  String.ofList (document.write layout 0).toList

end Json

end QueryFilter
