import QueryFilter.Proofs.Json.Number
import QueryFilter.Proofs.Value.Text

set_option autoImplicit false

/-!
# Containers

Arrays and objects are written alike: their parts stand between brackets, and a part of an object
has its key in front of it. This file looks at both in the same way. A statement about all values
has two cases then, scalars and containers (`Value.container_induction`), and a container is written
part by part (`Value.write_container`).
-/

namespace QueryFilter

/-- A part of a container: an item of an array, or an entry of an object with its key. -/
structure Part where
  key? : Option String
  value : Value

/-- An array or an object. -/
structure Container where
  opening : Char
  closing : Char
  parts : List Part

namespace Part

/-- What stands in front of the value on its line. -/
def label (part : Part) : List Char :=
  match part.key? with
  | none => []
  | some key => quoted key.toList ++ [':', ' ']

/-- The text of a part that stands at a level of nesting. -/
def write (layout : Layout) (level : Nat) (part : Part) : Except NonFinite Fragment :=
  match part.key? with
  | none => part.value.write layout level
  | some key => (part.value.write layout level).map (layout.memberText key)

/-- A part is written as its value, behind its label. -/
theorem write_pretty_eq_ok_iff {indent : UInt64} {level : Nat} {part : Part} {text : Fragment} :
    part.write (.pretty indent) level = .ok text ↔
      ∃ written, part.value.write (.pretty indent) level = .ok written ∧
        text.toList = part.label ++ written.toList := by
  obtain ⟨_ | key, value⟩ := part
  · constructor
    · exact fun h => ⟨text, h, rfl⟩
    · rintro ⟨written, hwritten, htext⟩
      rw [Fragment.ext_toList htext]
      exact hwritten
  · rw [write, Except.map_eq_ok_iff]
    refine exists_congr fun written => and_congr_right fun _ => ?_
    have htext : ((Layout.pretty indent).memberText key written).toList
        = label ⟨some key, value⟩ ++ written.toList := by
      rw [Layout.memberText, Fragment.toList_append, Fragment.toList_append, Fragment.toList_ofList]
      rfl
    constructor
    · rintro rfl
      exact htext
    · exact fun h => Fragment.ext_toList (htext.trans h.symm)

end Part

namespace Value

/-- The brackets and the parts of a container. -/
def container? : Value → Option Container
  | .array items => some ⟨'[', ']', items.map (⟨none, ·⟩)⟩
  | .object entries =>
    some ⟨'\x7b', '\x7d', entries.map fun entry => ⟨some entry.1, entry.2⟩⟩
  | _ => none

/-- To show something of every value, one may assume it of the parts of a container. -/
@[elab_as_elim]
theorem container_induction {motive : Value → Prop}
    (scalar : ∀ value, value.container? = none → motive value)
    (container : ∀ value container, value.container? = some container →
      (∀ part ∈ container.parts, motive part.value) → motive value)
    (value : Value) : motive value := by
  induction value with
  | bool flag => exact scalar _ rfl
  | int number => exact scalar _ rfl
  | float number => exact scalar _ rfl
  | text content => exact scalar _ rfl
  | array items ih =>
      refine container _ _ rfl fun part hpart => ?_
      obtain ⟨item, hitem, rfl⟩ := List.mem_map.1 hpart
      exact ih item hitem
  | object entries ih =>
      refine container _ _ rfl fun part hpart => ?_
      obtain ⟨entry, hentry, rfl⟩ := List.mem_map.1 hpart
      exact ih entry hentry

/-! ## What holds of containers -/

variable {value : Value} {container : Container}

/-- A double in a part is one in the container. -/
theorem mem_floats_of_mem_parts (h : value.container? = some container) {part : Part}
    (hpart : part ∈ container.parts) {number : Double} (hnumber : number ∈ part.value.floats) :
    number ∈ value.floats := by
  cases value with
  | array items =>
      cases h
      obtain ⟨item, hitem, rfl⟩ := List.mem_map.1 hpart
      exact mem_floats_of_mem_items hitem hnumber
  | object entries =>
      cases h
      obtain ⟨entry, hentry, rfl⟩ := List.mem_map.1 hpart
      exact mem_floats_of_mem_entries hentry hnumber
  | _ => cases h

theorem writeItems_eq_mapM (layout : Layout) (level : Nat) (items : List Value) :
    writeItems layout level items = (items.map (⟨none, ·⟩)).mapM (Part.write layout level) := by
  induction items with
  | nil => rfl
  | cons item rest ih =>
      rw [writeItems, List.map_cons, List.mapM_cons, ih]
      rfl

theorem writeEntries_eq_mapM (layout : Layout) (level : Nat) (entries : Payload) :
    writeEntries layout level entries
      = (entries.map fun entry => ⟨some entry.1, entry.2⟩).mapM (Part.write layout level) := by
  induction entries with
  | nil => rfl
  | cons entry rest ih =>
      rw [writeEntries, List.map_cons, List.mapM_cons, ih, Part.write]
      cases write layout level entry.2 <;> rfl

/-- A container is written part by part. -/
theorem write_container (h : value.container? = some container) (layout : Layout) (level : Nat) :
    value.write layout level
      = (container.parts.mapM (Part.write layout (level + 1))).map
          (layout.enclosed level container.opening container.closing) := by
  cases value with
  | array items =>
      cases h
      rw [write, writeItems_eq_mapM]
      rfl
  | object entries =>
      cases h
      rw [write, writeEntries_eq_mapM]
      rfl
  | _ => cases h

/-! ## What holds of scalars -/

/-- The text of a scalar, which does not depend on the layout. -/
def scalarText : Value → List Char
  | .bool flag => Layout.boolText flag
  | .int number => integerText number.toInt
  | .float number => JsonNumber.floatText number
  | .text content => quoted content.toList
  | .array _ | .object _ => []

theorem write_scalar (h : value.container? = none)
    (hfinite : ∀ number ∈ value.floats, number.isFinite = true) (layout : Layout) (level : Nat) :
    value.write layout level = .ok (.ofList value.scalarText) := by
  cases value with
  | float number =>
      rw [write, Double.write, if_pos (hfinite number (List.mem_singleton_self number))]
      rfl
  | array items => cases h
  | object entries => cases h
  | _ => rfl

/-- A scalar is written as a word or as a literal. -/
theorem scalarText_cases (h : value.container? = none)
    (hfinite : ∀ number ∈ value.floats, number.isFinite = true) :
    (value.scalarText ≠ [] ∧ ∀ c ∈ value.scalarText, JsonToken.isWordCharacter c = true) ∨
      ∃ content, value.scalarText = quoted content := by
  cases value with
  | bool flag =>
      refine Or.inl ⟨?_, List.all_eq_true.1 ?_⟩
      · cases flag <;> exact List.cons_ne_nil _ _
      · cases flag <;> rfl
  | int number =>
      exact Or.inl ⟨(JsonNumber.ofInt64 number).text_ne_nil,
        fun _ => (JsonNumber.ofInt64 number).isWordCharacter_of_mem_text⟩
  | float number =>
      let written : JsonNumber :=
        .float number (hfinite number (List.mem_singleton_self number))
      exact Or.inl ⟨written.text_ne_nil, fun _ => written.isWordCharacter_of_mem_text⟩
  | text content => exact Or.inr ⟨content.toList, rfl⟩
  | array items => cases h
  | object entries => cases h

end Value

end QueryFilter
