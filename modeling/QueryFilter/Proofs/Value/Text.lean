import QueryFilter.Json.Writer
import QueryFilter.Proofs.Value.Document
import QueryFilter.Value.Writer

set_option autoImplicit false

/-!
# Values and their texts

The text of a value is made directly from the value. It is the text of the document that is made of
the value, as long as no key is repeated, and it fails on the same number (`write_eq`).
-/

namespace QueryFilter

/-! ## Doubles -/

theorem failsOn_writeFloat (number : Double) : FailsOn [number] number.write := by
  rw [FailsOn, firstNonFinite?, List.find?_singleton, Double.write]
  by_cases h : number.isFinite = true <;> simp [h]

theorem writeFloat_eq (number : Double) (layout : Layout) (level : Nat) :
    number.write = (number.toJsonNumber.map Json.number).map (Json.write layout level) := by
  rw [Double.toJsonNumber, Double.write]
  by_cases h : number.isFinite = true
  · simp [h, Except.map, Json.write, JsonNumber.text]
  · simp [h, Except.map]

namespace Value

/-! ## Failures -/

/-- A value cannot be written for the same reason, whatever the layout. -/
theorem failsOn_write (layout : Layout) (level : Nat) (value : Value) :
    FailsOn value.floats (value.write layout level) := by
  induction value generalizing level with
  | bool flag => exact .of_ok _
  | int number => exact .of_ok _
  | float number => exact failsOn_writeFloat number
  | text content => exact .of_ok _
  | array items ih =>
      refine FailsOn.map ?_ _
      induction items with
      | nil => exact .of_ok _
      | cons item rest ihrest =>
          obtain ⟨ihitem, ihitems⟩ := List.forall_mem_cons.1 ih
          exact (ihitem _).bind fun first => (ihrest ihitems).map (first :: ·)
  | object entries ih =>
      refine FailsOn.map ?_ _
      induction entries with
      | nil => exact .of_ok _
      | cons entry rest ihrest =>
          obtain ⟨ihentry, ihentries⟩ := List.forall_mem_cons.1 ih
          exact (ihentry _).bind fun first =>
            (ihrest ihentries).map (layout.memberText entry.1 first :: ·)

/-! ## Two ways to the same text -/

theorem writeItems_eq {layout : Layout} {level : Nat} {items : List Value}
    (h : ∀ item ∈ items, write layout level item = (toJson item).map (Json.write layout level)) :
    writeItems layout level items = (toJsonItems items).map (Json.writeItems layout level) := by
  induction items with
  | nil => rfl
  | cons item rest ih =>
      obtain ⟨hitem, hrest⟩ := List.forall_mem_cons.1 h
      rw [writeItems, toJsonItems, hitem, ih hrest]
      cases toJson item with
      | error number => rfl
      | ok first =>
          cases toJsonItems rest with
          | error number => rfl
          | ok others => rfl

theorem writeMembers_append (layout : Layout) (level : Nat) (first second : Entries Json) :
    Json.writeMembers layout level (first ++ second)
      = Json.writeMembers layout level first ++ Json.writeMembers layout level second := by
  induction first with
  | nil => rfl
  | cons member rest ih =>
      rw [List.cons_append, Json.writeMembers, Json.writeMembers, ih, List.cons_append]

/-- Entries with new keys are written behind the members that are already there. -/
theorem writeEntries_eq {layout : Layout} {level : Nat} {entries : Payload} (members : Entries Json)
    (hkeys : (members.keys ++ entries.keys).Nodup)
    (h : ∀ entry ∈ entries,
      write layout level entry.2 = (toJson entry.2).map (Json.write layout level)) :
    (writeEntries layout level entries).map (Json.writeMembers layout level members ++ ·)
      = (toJsonEntries members entries).map (Json.writeMembers layout level) := by
  induction entries generalizing members with
  | nil => simp [writeEntries, toJsonEntries, Except.map]
  | cons entry rest ih =>
      obtain ⟨key, value⟩ := entry
      obtain ⟨hentry, hrest⟩ := List.forall_mem_cons.1 h
      rw [writeEntries, toJsonEntries, hentry]
      cases hvalue : toJson value with
      | error number => rfl
      | ok document =>
          -- the conversion inserts where the writer appends, which is the same for a new key
          obtain ⟨hinsert, hlater⟩ := Entries.insert_of_nodup hkeys document
          have ih' := ih (members.insert key document) hlater hrest
          show _ = (toJsonEntries (members.insert key document) rest).map _
          rw [← ih', hinsert, writeMembers_append]
          cases writeEntries layout level rest with
          | error number => rfl
          | ok others => simp [Except.map, Json.writeMembers, bind, Except.bind, pure, Except.pure]

/-- The text that is made directly from a value is the text of its document, and both fail alike. -/
theorem write_eq {value : Value} (h : value.DistinctKeys) (layout : Layout) (level : Nat) :
    value.write layout level = value.toJson.map (Json.write layout level) := by
  induction h generalizing level with
  | bool flag => rfl
  | int number => rfl
  | float number => exact writeFloat_eq number layout level
  | text content => rfl
  | @array items hitems ih =>
      calc write layout level (.array items)
          = ((toJsonItems items).map (Json.writeItems layout (level + 1))).map
              (layout.arrayText level) := by
            rw [write, writeItems_eq fun item hitem => ih item hitem (level + 1)]
        _ = ((toJsonItems items).map Json.array).map (Json.write layout level) := by
            rw [Except.map_map, Except.map_map]
            rfl
  | @object entries hkeys hvalues ih =>
      have hentries := writeEntries_eq [] hkeys fun entry hentry => ih entry hentry (level + 1)
      calc write layout level (.object entries)
          = ((writeEntries layout (level + 1) entries).map
              (Json.writeMembers layout (level + 1) [] ++ ·)).map (layout.objectText level) := by
            rw [Except.map_map]
            rfl
        _ = ((toJsonEntries [] entries).map (Json.writeMembers layout (level + 1))).map
              (layout.objectText level) := by rw [hentries]
        _ = ((toJsonEntries [] entries).map Json.object).map (Json.write layout level) := by
            rw [Except.map_map, Except.map_map]
            rfl

end Value

end QueryFilter
