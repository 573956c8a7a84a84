import Mathlib.Tactic.Common
import QueryFilter.Json.Basic

set_option autoImplicit false

/-!
# The structure of JSON documents

The induction principle of documents, and the documents of which no object repeats a key. Only such
documents can be read from a text, and only they are written so that they can be read back.
-/

namespace QueryFilter

namespace Json

/-- To show something of every document, one may assume it of the items of an array and of the
values in an object. -/
@[elab_as_elim, induction_eliminator]
theorem induction {motive : Json → Prop}
    (null : motive .null) (bool : ∀ value, motive (.bool value))
    (number : ∀ value, motive (.number value)) (string : ∀ value, motive (.string value))
    (array : ∀ items, (∀ item ∈ items, motive item) → motive (.array items))
    (object : ∀ members, (∀ entry ∈ members, motive entry.2) → motive (.object members)) :
    ∀ document, motive document
  | .null => null
  | .bool value => bool value
  | .number value => number value
  | .string value => string value
  | .array items => array items fun item _ => induction null bool number string array object item
  | .object members =>
    object members fun entry _ => induction null bool number string array object entry.2
termination_by document => sizeOf document
decreasing_by
  · rename_i hmem
    have hlt := List.sizeOf_lt_of_mem hmem
    simp only [Json.array.sizeOf_spec]
    omega
  · rename_i hmem
    have hlt := List.sizeOf_lt_of_mem hmem
    obtain ⟨key, value⟩ := entry
    simp only [Prod.mk.sizeOf_spec] at hlt
    simp only [Json.object.sizeOf_spec]
    omega

/-- No object in the document, at any depth, repeats a key. -/
inductive DistinctKeys : Json → Prop where
  | null : DistinctKeys .null
  | bool (value : Bool) : DistinctKeys (.bool value)
  | number (value : JsonNumber) : DistinctKeys (.number value)
  | string (value : String) : DistinctKeys (.string value)
  | array {items : List Json} (hitems : ∀ item ∈ items, DistinctKeys item) :
      DistinctKeys (.array items)
  | object {members : Entries Json} (hkeys : members.keys.Nodup)
      (hvalues : ∀ entry ∈ members, DistinctKeys entry.2) : DistinctKeys (.object members)

end Json

end QueryFilter
