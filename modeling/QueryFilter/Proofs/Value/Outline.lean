import Mathlib.Data.List.Infix
import QueryFilter.Proofs.Json.Brackets
import QueryFilter.Proofs.Value.Container

set_option autoImplicit false

/-!
# The lines of a value

In a pretty layout every part of a container begins a line of its own, and so does the closing
bracket. `Value.lines` lists these lines without regard to the width of the indentation, and
`Value.partsWithin` lists the parts at all depths. The text of a value is made of its lines
(`Value.exists_write_spelled`).
-/

namespace QueryFilter

/-! ## Lines -/

/-- A line of a pretty text: how many levels it is indented, and what stands on it. -/
structure Line where
  level : Nat
  content : List Char

namespace Line

/-- The line, each level indented by so many spaces. -/
def text (indent : Nat) (line : Line) : List Char :=
  List.replicate (indent * line.level) ' ' ++ line.content

/-- The text of lines that each stand behind a line feed. -/
def broken (indent : Nat) (lines : List Line) : List Char :=
  lines.flatMap fun line => '\n' :: line.text indent

/-- The lines of the parts of a container. Each part is given by its lines, depending on what stands
behind it, which is a comma unless it is the last part. -/
def joined : List (List Char → List Line) → List Line
  | [] => []
  | [part] => part []
  | part :: rest => part [','] ++ joined rest

/-- The lines of a container. -/
def enclosed (level : Nat) (label : List Char) (opening closing : Char)
    (parts : List (List Char → List Line)) (trailing : List Char) : List Line :=
  match parts with
  | [] => [⟨level, label ++ [opening, closing] ++ trailing⟩]
  | part :: rest =>
    ⟨level, label ++ [opening]⟩ :: joined (part :: rest) ++ [⟨level, closing :: trailing⟩]

theorem broken_append (indent : Nat) (first second : List Line) :
    broken indent (first ++ second) = broken indent first ++ broken indent second :=
  List.flatMap_append

theorem broken_cons (indent : Nat) (line : Line) (rest : List Line) :
    broken indent (line :: rest) = '\n' :: line.text indent ++ broken indent rest :=
  List.flatMap_cons

theorem broken_singleton (indent : Nat) (line : Line) :
    broken indent [line] = '\n' :: line.text indent := List.append_nil _

end Line

/-- A part with the level of nesting that it stands at. -/
structure Item extends Part where
  level : Nat

namespace Value

open Line

mutual

/-- The lines of a value that stands at a level of nesting, with a label in front of it and
something behind it. -/
def lines (level : Nat) (label : List Char) : Value → List Char → List Line
  | .array items => enclosed level label '[' ']' (itemLines (level + 1) items)
  | .object entries => enclosed level label '\x7b' '\x7d' (entryLines (level + 1) entries)
  | scalar => fun trailing => [⟨level, label ++ scalar.scalarText ++ trailing⟩]

/-- The lines of each item. -/
def itemLines (level : Nat) : List Value → List (List Char → List Line)
  | [] => []
  | item :: rest => lines level (Part.label ⟨none, item⟩) item :: itemLines level rest

/-- The lines of each entry. -/
def entryLines (level : Nat) : List (String × Value) → List (List Char → List Line)
  | [] => []
  | (key, value) :: rest =>
    lines level (Part.label ⟨some key, value⟩) value :: entryLines level rest

end

mutual

/-- The items of arrays and the entries of objects in a value, at all depths, in the order of the
document. The value itself stands at the given level. -/
def partsWithin (level : Nat) : Value → List Item
  | .array items => partsOfItems (level + 1) items
  | .object entries => partsOfEntries (level + 1) entries
  | _ => []

/-- The items, each followed by what is within it. -/
def partsOfItems (level : Nat) : List Value → List Item
  | [] => []
  | item :: rest => ⟨⟨none, item⟩, level⟩ :: partsWithin level item ++ partsOfItems level rest

/-- The entries, each followed by what is within it. -/
def partsOfEntries (level : Nat) : List (String × Value) → List Item
  | [] => []
  | (key, value) :: rest =>
    ⟨⟨some key, value⟩, level⟩ :: partsWithin level value ++ partsOfEntries level rest

end

variable {value : Value} {container : Container}

theorem lines_scalar (h : value.container? = none) (level : Nat) (label trailing : List Char) :
    value.lines level label trailing = [⟨level, label ++ value.scalarText ++ trailing⟩] := by
  cases value with
  | array items => cases h
  | object entries => cases h
  | _ => rfl

theorem itemLines_eq (level : Nat) (items : List Value) :
    itemLines level items
      = (items.map (⟨none, ·⟩)).map fun part : Part => part.value.lines level part.label := by
  induction items with
  | nil => rfl
  | cons item rest ih => rw [itemLines, ih, List.map_cons, List.map_cons]

theorem entryLines_eq (level : Nat) (entries : Payload) :
    entryLines level entries
      = (entries.map fun entry => ⟨some entry.1, entry.2⟩).map
          fun part : Part => part.value.lines level part.label := by
  induction entries with
  | nil => rfl
  | cons entry rest ih => rw [entryLines, ih, List.map_cons, List.map_cons]

theorem lines_container (h : value.container? = some container) (level : Nat)
    (label : List Char) :
    value.lines level label
      = enclosed level label container.opening container.closing
          (container.parts.map fun part => part.value.lines (level + 1) part.label) := by
  cases value with
  | array items =>
      cases h
      rw [lines, itemLines_eq]
  | object entries =>
      cases h
      rw [lines, entryLines_eq]
  | _ => cases h

theorem partsOfItems_eq (level : Nat) (items : List Value) :
    partsOfItems level items
      = (items.map (⟨none, ·⟩)).flatMap fun part : Part =>
          ⟨part, level⟩ :: part.value.partsWithin level := by
  induction items with
  | nil => rfl
  | cons item rest ih => rw [partsOfItems, ih, List.map_cons, List.flatMap_cons]

theorem partsOfEntries_eq (level : Nat) (entries : Payload) :
    partsOfEntries level entries
      = (entries.map fun entry => ⟨some entry.1, entry.2⟩).flatMap fun part : Part =>
          ⟨part, level⟩ :: part.value.partsWithin level := by
  induction entries with
  | nil => rfl
  | cons entry rest ih => rw [partsOfEntries, ih, List.map_cons, List.flatMap_cons]

theorem partsWithin_container (h : value.container? = some container) (level : Nat) :
    value.partsWithin level
      = container.parts.flatMap fun part =>
          ⟨part, level + 1⟩ :: part.value.partsWithin (level + 1) := by
  cases value with
  | array items =>
      cases h
      rw [partsWithin, partsOfItems_eq]
  | object entries =>
      cases h
      rw [partsWithin, partsOfEntries_eq]
  | _ => cases h

theorem partsWithin_scalar (h : value.container? = none) (level : Nat) :
    value.partsWithin level = [] := by
  cases value with
  | array items => cases h
  | object entries => cases h
  | _ => rfl

end Value

/-! ## The text of the lines -/

namespace Line

variable {indent : UInt64} {level : Nat}

/-- The lines make up this text, indented at a level, with whatever stands behind it. -/
def Spells (indent : UInt64) (level : Nat) (lines : List Char → List Line) (text : List Char) :
    Prop :=
  ∀ trailing, broken indent.toNat (lines trailing)
    = ((Layout.pretty indent).lineBreak level).toList ++ text ++ trailing

theorem spells_joined {parts : List (List Char → List Line)} {texts : List Fragment}
    (h : List.Forall₂ (fun part text => Spells indent level part text.toList) parts texts) :
    broken indent.toNat (joined parts) = ((Layout.pretty indent).itemTexts level texts).toList := by
  induction h with
  | nil => rfl
  | @cons part text rest texts hpart hrest ih =>
      cases hrest with
      | nil => rw [joined, hpart, List.append_nil, Layout.itemTexts, Fragment.toList_append]
      | cons hnext hlater =>
          rw [joined, broken_append, hpart, Layout.itemTexts, Fragment.toList_append,
            Fragment.toList_append, Fragment.toList_append, Fragment.toList_ofList, ih]
          · simp
          · simp

theorem spells_enclosed {parts : List (List Char → List Line)} {texts : List Fragment}
    (label : List Char) (opening closing : Char)
    (h : List.Forall₂ (fun part text => Spells indent (level + 1) part text.toList) parts texts) :
    Spells indent level (enclosed level label opening closing parts)
      (label ++ ((Layout.pretty indent).enclosed level opening closing texts).toList) := by
  intro trailing
  have hjoined := spells_joined h
  cases h with
  | nil =>
      rw [enclosed, broken_singleton, Layout.enclosed, Fragment.toList_ofList, text,
        Layout.lineBreak, Fragment.toList_ofList]
      simp
  | cons hpart hrest =>
      rw [enclosed, broken_append, broken_cons, hjoined, broken_singleton, Layout.enclosed]
      · simp [text, Layout.lineBreak, Fragment.toList_append, Fragment.toList_ofList]
      · simp

end Line

/-- The text of a value is made of its lines. -/
theorem Value.exists_write_spelled {value : Value}
    (hfinite : ∀ number ∈ value.floats, number.isFinite = true) (indent : UInt64) (level : Nat)
    (label : List Char) :
    ∃ written, value.write (.pretty indent) level = .ok written ∧
      Line.Spells indent level (value.lines level label) (label ++ written.toList) := by
  induction value using container_induction generalizing level label with
  | scalar value hscalar =>
      refine ⟨_, write_scalar hscalar hfinite _ level, fun trailing => ?_⟩
      rw [lines_scalar hscalar, Line.broken_singleton, Fragment.toList_ofList, Line.text,
        Layout.lineBreak, Fragment.toList_ofList]
      simp
  | container value container hcontainer ih =>
      have hpart : ∀ part ∈ container.parts, ∃ text,
          part.write (.pretty indent) (level + 1) = .ok text ∧
          Line.Spells indent (level + 1) (part.value.lines (level + 1) part.label) text.toList := by
        intro part hpart
        obtain ⟨written, hwritten, hspells⟩ := ih part hpart (fun number hnumber =>
          hfinite number (mem_floats_of_mem_parts hcontainer hpart hnumber)) (level + 1) part.label
        refine ⟨.ofList (part.label ++ written.toList), ?_, ?_⟩
        · exact Part.write_pretty_eq_ok_iff.2 ⟨written, hwritten, Fragment.toList_ofList _⟩
        · rwa [Fragment.toList_ofList]
      obtain ⟨texts, htexts⟩ := exists_forall₂ hpart
      have hwrite : container.parts.mapM (Part.write (.pretty indent) (level + 1)) = .ok texts :=
        Except.mapM_eq_ok_iff.2 (htexts.imp fun _ _ h => h.1)
      refine ⟨(Layout.pretty indent).enclosed level container.opening container.closing texts,
        ?_, ?_⟩
      · rw [write_container hcontainer, hwrite]
        rfl
      · rw [lines_container hcontainer]
        exact Line.spells_enclosed label _ _
          (List.forall₂_map_left_iff.2 (htexts.imp fun _ _ h => h.2))

end QueryFilter
