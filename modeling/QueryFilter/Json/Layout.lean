import QueryFilter.Json.Number
import QueryFilter.Json.Quoted
import QueryFilter.Text.Fragment

/-!
# Layouts of JSON text

A `Layout` says where white space stands in a JSON text: nowhere, or every item of a container on a
line of its own, indented by a number of spaces for each open container. The functions here put
together texts that are already written; they are shared by everything that is written as JSON.
-/

set_option autoImplicit false

namespace QueryFilter

/-- The layout of a JSON text. -/
inductive Layout where
  /-- one line without white space -/
  | compact
  /-- one item a line, each level indented by so many spaces -/
  | pretty (indent : UInt64)
  deriving DecidableEq, Inhabited

namespace Layout

/-- How a layout is described in the log. -/
def description : Layout → String
  | .compact => "Compact"
  | .pretty indent =>
    "Pretty \x7b indent: " ++ String.ofList (decimalDigits indent.toNat) ++ " \x7d"

/-! ## Indentation -/

/-- The greatest number of bytes that a text can have. -/
def greatestLength : Nat := 9223372036854775807

/-- Is there a text that indents by one level? Whether there is enough memory for it, and for the
whole of what is laid out, is another question. -/
def Fits : Layout → Prop
  | .compact => True
  | .pretty indent => indent.toNat ≤ greatestLength

instance (layout : Layout) : Decidable layout.Fits :=
  match layout with
  | .compact => isTrue trivial
  | .pretty indent => inferInstanceAs (Decidable (indent.toNat ≤ greatestLength))

/-- What stands in front of an item or a closing bracket at a level of nesting. -/
def lineBreak (layout : Layout) (level : Nat) : Fragment :=
  match layout with
  | .compact => .ofList []
  | .pretty indent => .ofList ('\n' :: List.replicate (indent.toNat * level) ' ')

/-- What stands between a key and its value. -/
def colon : Layout → Fragment
  | .compact => .ofList [':']
  | .pretty _ => .ofList [':', ' ']

/-! ## Containers -/

/-- The items of a container that is open at a level, separated by commas. -/
def itemTexts (layout : Layout) (level : Nat) : List Fragment → Fragment
  | [] => .ofList []
  | [item] => layout.lineBreak level ++ item
  | item :: rest =>
    layout.lineBreak level ++ item ++ Fragment.ofList [','] ++ layout.itemTexts level rest

/-- Items between brackets; nothing stands between the brackets of an empty container. -/
def enclosed (layout : Layout) (level : Nat) (opening closing : Char) :
    List Fragment → Fragment
  | [] => .ofList [opening, closing]
  | items =>
    Fragment.ofList [opening] ++ layout.itemTexts (level + 1) items ++ layout.lineBreak level ++
      Fragment.ofList [closing]

/-- The text of an array whose items are written. -/
def arrayText (layout : Layout) (level : Nat) (items : List Fragment) : Fragment :=
  layout.enclosed level '[' ']' items

/-- The text of a member whose value is written. -/
def memberText (layout : Layout) (key : String) (value : Fragment) : Fragment :=
  Fragment.ofList (quoted key.toList) ++ layout.colon ++ value

/-- The text of an object whose members are written. -/
def objectText (layout : Layout) (level : Nat) (members : List Fragment) : Fragment :=
  layout.enclosed level '\x7b' '\x7d' members

/-- The text of a truth value. -/
def boolText : Bool → List Char
  | true => ['t', 'r', 'u', 'e']
  | false => ['f', 'a', 'l', 's', 'e']

/-- The text of the null value. -/
def nullText : List Char := ['n', 'u', 'l', 'l']

end Layout

end QueryFilter
