import QueryFilter.Proofs.Value.Outcome
import QueryFilter.Proofs.Value.Structure
import QueryFilter.RenderOptions

set_option autoImplicit false

/-!
# Texts on one line, part by part

On one line the text of a container does not depend on where the container stands: it is put
together from the texts of its items, separated by commas (`Value.line_array`,
`Value.line_object`), and it fails on the first item that fails.
-/

namespace QueryFilter

/-- The literal of a text. -/
def Json.literal (content : String) : String := (Json.string content).toText .compact

/-- The text of a fragment. -/
def Fragment.text (fragment : Fragment) : String := String.ofList fragment.toList

theorem Fragment.toList_text (fragment : Fragment) : fragment.text.toList = fragment.toList :=
  String.toList_ofList

theorem Json.toList_literal (content : String) :
    (Json.literal content).toList = quoted content.toList := by
  rw [Json.literal, Json.toText, String.toList_ofList, Json.write, Fragment.toList_ofList]

/-! ## Containers -/

namespace Layout

open Fragment in
theorem toList_itemTexts_compact (level : Nat) (items : List Fragment) :
    (compact.itemTexts level items).toList = [','].intercalate (items.map toList) := by
  induction items with
  | nil => rfl
  | cons item rest ih =>
      cases rest with
      | nil =>
          show (ofList [] ++ item).toList = _
          rw [toList_append, toList_ofList, List.map_singleton, List.intercalate_singleton]
          rfl
      | cons second rest =>
          show (ofList [] ++ item ++ ofList [','] ++ _).toList = _
          rw [toList_append, toList_append, toList_append, toList_ofList, toList_ofList, ih]
          simp

/-- On one line a container has its items between its brackets, wherever it stands. -/
theorem toList_enclosed_compact (level : Nat) (opening closing : Char) (items : List Fragment) :
    (compact.enclosed level opening closing items).toList
      = opening :: [','].intercalate (items.map Fragment.toList) ++ [closing] := by
  cases items with
  | nil => rfl
  | cons item rest =>
      have hitems := toList_itemTexts_compact (level + 1) (item :: rest)
      simp only [enclosed, lineBreak, Fragment.toList_append, Fragment.toList_ofList, hitems,
        List.append_nil, List.singleton_append]

theorem toList_intercalate_text (items : List Fragment) :
    (",".intercalate (items.map Fragment.text)).toList
      = [','].intercalate (items.map Fragment.toList) := by
  rw [String.toList_intercalate, List.map_map]
  congr 1
  exact List.map_congr_left fun item _ => item.toList_text

theorem text_arrayText (level : Nat) (items : List Fragment) :
    (compact.arrayText level items).text
      = "[" ++ ",".intercalate (items.map Fragment.text) ++ "]" := by
  rw [← String.toList_inj, Fragment.toList_text, arrayText, toList_enclosed_compact,
    String.toList_append, String.toList_append, toList_intercalate_text]
  rfl

theorem text_objectText (level : Nat) (members : List Fragment) :
    (compact.objectText level members).text
      = "\x7b" ++ ",".intercalate (members.map Fragment.text) ++ "\x7d" := by
  rw [← String.toList_inj, Fragment.toList_text, objectText, toList_enclosed_compact,
    String.toList_append, String.toList_append, toList_intercalate_text]
  rfl

theorem text_memberText (key : String) (value : Fragment) :
    (compact.memberText key value).text = Json.literal key ++ ":" ++ value.text := by
  rw [← String.toList_inj, Fragment.toList_text, memberText, Fragment.toList_append,
    Fragment.toList_append, Fragment.toList_ofList, String.toList_append, String.toList_append,
    Json.toList_literal, Fragment.toList_text]
  rfl

end Layout

/-! ## Values -/

namespace Value

/-- The text of a value on one line. -/
def line (value : Value) : Except NonFinite String :=
  (value.write .compact 0).map Fragment.text

/-- The text of an entry on one line. -/
def entryLine (entry : String × Value) : Except NonFinite String :=
  entry.2.line.map fun text => Json.literal entry.1 ++ ":" ++ text

theorem map_text_writeItems {level : Nat} {items : List Value}
    (h : ∀ item ∈ items, (item.write .compact level).map Fragment.text = item.line) :
    (writeItems .compact level items).map (List.map Fragment.text) = items.mapM line := by
  induction items with
  | nil => rfl
  | cons item rest ih =>
      obtain ⟨hitem, hrest⟩ := List.forall_mem_cons.1 h
      rw [writeItems, List.mapM_cons, ← hitem, ← ih hrest]
      cases write .compact level item with
      | error number => rfl
      | ok first => cases writeItems .compact level rest <;> rfl

theorem map_text_writeEntries {level : Nat} {entries : Payload}
    (h : ∀ entry ∈ entries, (entry.2.write .compact level).map Fragment.text = entry.2.line) :
    (writeEntries .compact level entries).map (List.map Fragment.text)
      = entries.mapM entryLine := by
  induction entries with
  | nil => rfl
  | cons entry rest ih =>
      obtain ⟨key, value⟩ := entry
      obtain ⟨hentry, hrest⟩ := List.forall_mem_cons.1 h
      rw [writeEntries, List.mapM_cons, entryLine, ← hentry, ← ih hrest]
      cases write .compact level value with
      | error number => rfl
      | ok first =>
          cases writeEntries .compact level rest with
          | error number => rfl
          | ok others =>
              show Except.ok ((Layout.compact.memberText key first).text :: _) = _
              rw [Layout.text_memberText]
              rfl

theorem map_text_write_array {level : Nat} {items : List Value}
    (h : ∀ item ∈ items, (item.write .compact (level + 1)).map Fragment.text = item.line) :
    ((Value.array items).write .compact level).map Fragment.text
      = (items.mapM line).map fun texts => "[" ++ ",".intercalate texts ++ "]" := by
  rw [write, ← map_text_writeItems h, Except.map_map, Except.map_map]
  congr 1
  exact funext (Layout.text_arrayText level)

theorem map_text_write_object {level : Nat} {entries : Payload}
    (h : ∀ entry ∈ entries,
      (entry.2.write .compact (level + 1)).map Fragment.text = entry.2.line) :
    ((Value.object entries).write .compact level).map Fragment.text
      = (entries.mapM entryLine).map fun texts => "\x7b" ++ ",".intercalate texts ++ "\x7d" := by
  rw [write, ← map_text_writeEntries h, Except.map_map, Except.map_map]
  congr 1
  exact funext (Layout.text_objectText level)

/-- On one line it does not matter where a value stands. -/
theorem map_text_write (level : Nat) (value : Value) :
    (value.write .compact level).map Fragment.text = value.line := by
  induction value generalizing level with
  | bool flag => rfl
  | int number => rfl
  | float number => rfl
  | text content => rfl
  | array items ih =>
      exact (map_text_write_array fun item hitem => ih item hitem (level + 1)).trans
        (map_text_write_array fun item hitem => ih item hitem 1).symm
  | object entries ih =>
      exact (map_text_write_object fun entry hentry => ih entry hentry (level + 1)).trans
        (map_text_write_object fun entry hentry => ih entry hentry 1).symm

theorem line_text (content : String) : (Value.text content).line = .ok (Json.literal content) := rfl

/-- The line of an array is put together from the lines of its items. -/
theorem line_array (items : List Value) :
    (Value.array items).line
      = (items.mapM line).map fun texts => "[" ++ ",".intercalate texts ++ "]" :=
  map_text_write_array fun item _ => map_text_write 1 item

/-- The line of an object is put together from the lines of its entries. -/
theorem line_object (entries : Payload) :
    (Value.object entries).line
      = (entries.mapM entryLine).map fun texts => "\x7b" ++ ",".intercalate texts ++ "\x7d" :=
  map_text_write_object fun entry _ => map_text_write 1 entry.2

/-- An object with a single entry fails as its value does. -/
theorem line_singleton (key : String) (value : Value) :
    (Value.object [(key, value)]).line
      = value.line.map fun text => "\x7b" ++ Json.literal key ++ ":" ++ text ++ "\x7d" := by
  rw [line_object, List.mapM_cons, List.mapM_nil, entryLine]
  cases value.line with
  | error number => rfl
  | ok text =>
      show Except.ok ("\x7b" ++ ",".intercalate [Json.literal key ++ ":" ++ text] ++ "\x7d") = _
      rw [String.intercalate_singleton, ← String.append_assoc, ← String.append_assoc]
      rfl

end Value

end QueryFilter
