import QueryFilter.Json.Number
import QueryFilter.OrderedMap

/-!
# JSON documents

`Json` is the tree of a document. The members of an object stand in the order of the text;
`Json.depth` counts how many arrays and objects are nested in each other.
-/

set_option autoImplicit false

namespace QueryFilter

/-- A JSON document. -/
inductive Json where
  | null
  | bool (value : Bool)
  | number (value : JsonNumber)
  | string (value : String)
  | array (items : List Json)
  | object (members : List (String × Json))
  deriving Inhabited

namespace Json

/-! ## Nesting depth -/

mutual

/-- The nesting depth: scalars have none, and a container one more than the deepest thing in it. -/
def depth : Json → Nat
  | .array items => depthOfItems items + 1
  | .object members => depthOfMembers members + 1
  | _ => 0

/-- The depth of the deepest item. -/
def depthOfItems : List Json → Nat
  | [] => 0
  | item :: rest => max (depth item) (depthOfItems rest)

/-- The depth of the deepest member. -/
def depthOfMembers : List (String × Json) → Nat
  | [] => 0
  | (_, value) :: rest => max (depth value) (depthOfMembers rest)

end

/-! ## Equality -/

mutual

/-- Documents are compared with the order of their members and the class and bits of their
numbers. -/
def decEq : (left right : Json) → Decidable (left = right)
  | .null, right => match right with
    | .null => isTrue rfl
    | .bool _ | .number _ | .string _ | .array _ | .object _ => isFalse nofun
  | .bool x, right => match right with
    | .bool y => if h : x = y then isTrue (h ▸ rfl) else isFalse fun e => h (Json.bool.inj e)
    | .null | .number _ | .string _ | .array _ | .object _ => isFalse nofun
  | .number x, right => match right with
    | .number y => if h : x = y then isTrue (h ▸ rfl) else isFalse fun e => h (Json.number.inj e)
    | .null | .bool _ | .string _ | .array _ | .object _ => isFalse nofun
  | .string x, right => match right with
    | .string y => if h : x = y then isTrue (h ▸ rfl) else isFalse fun e => h (Json.string.inj e)
    | .null | .bool _ | .number _ | .array _ | .object _ => isFalse nofun
  | .array xs, right => match right with
    | .array ys => match decEqItems xs ys with
      | isTrue h => isTrue (h ▸ rfl)
      | isFalse h => isFalse fun e => h (Json.array.inj e)
    | .null | .bool _ | .number _ | .string _ | .object _ => isFalse nofun
  | .object xs, right => match right with
    | .object ys => match decEqMembers xs ys with
      | isTrue h => isTrue (h ▸ rfl)
      | isFalse h => isFalse fun e => h (Json.object.inj e)
    | .null | .bool _ | .number _ | .string _ | .array _ => isFalse nofun

/-- Compares items in order. -/
def decEqItems : (left right : List Json) → Decidable (left = right)
  | [], [] => isTrue rfl
  | [], _ :: _ | _ :: _, [] => isFalse nofun
  | x :: xs, y :: ys => match decEq x y, decEqItems xs ys with
    | isTrue h, isTrue h' => isTrue (h ▸ h' ▸ rfl)
    | isFalse h, _ => isFalse fun e => h (List.cons.inj e).1
    | _, isFalse h => isFalse fun e => h (List.cons.inj e).2

/-- Compares members in order, keys first. -/
def decEqMembers : (left right : List (String × Json)) → Decidable (left = right)
  | [], [] => isTrue rfl
  | [], _ :: _ | _ :: _, [] => isFalse nofun
  | (k, x) :: xs, (l, y) :: ys =>
    if hk : k = l then
      match decEq x y, decEqMembers xs ys with
      | isTrue h, isTrue h' => isTrue (hk ▸ h ▸ h' ▸ rfl)
      | isFalse h, _ => isFalse fun e => h (Prod.mk.inj (List.cons.inj e).1).2
      | _, isFalse h => isFalse fun e => h (List.cons.inj e).2
    else isFalse fun e => hk (Prod.mk.inj (List.cons.inj e).1).1

end

instance : DecidableEq Json := decEq

end Json

end QueryFilter
