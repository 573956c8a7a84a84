import QueryFilter.Proofs.Value.Outcome
import QueryFilter.Proofs.Value.Structure
import QueryFilter.Value.Json

set_option autoImplicit false

/-!
# Values and their documents

What is converted from a document repeats no key, and neither does a document that is made of a
value that repeats none. A document is made of every value whose doubles are finite
(`failsOn_toJson`); it has the depth of the value and is converted back to it (`ofJson_document`).
-/

namespace QueryFilter

/-! ## Doubles -/

theorem failsOn_toJsonNumber (number : Double) : FailsOn [number] number.toJsonNumber := by
  rw [FailsOn, firstNonFinite?, List.find?_singleton, Double.toJsonNumber]
  by_cases h : number.isFinite = true <;> simp [h]

namespace Value

/-! ## From documents -/

theorem distinctKeys_of_ofJsonItems {items : List Json} {values : List Value}
    (hitems : ∀ item ∈ items, ∀ value, ofJson item = .ok value → value.DistinctKeys)
    (h : ofJsonItems items = .ok values) : ∀ value ∈ values, value.DistinctKeys := by
  induction items generalizing values with
  | nil =>
      cases h
      simp
  | cons item rest ih =>
      obtain ⟨first, hfirst, hrest⟩ := Except.bind_eq_ok_iff.1 h
      obtain ⟨others, hothers, hcons⟩ := Except.bind_eq_ok_iff.1 hrest
      cases hcons
      obtain ⟨hitem, hlater⟩ := List.forall_mem_cons.1 hitems
      exact List.forall_mem_cons.2 ⟨hitem first hfirst, ih hlater hothers⟩

/-- Members that are inserted keep the keys distinct of the entries that are already there. -/
theorem distinctKeys_of_ofJsonMembers {members : Entries Json} {begun entries : Payload}
    (hmembers : ∀ entry ∈ members, ∀ value, ofJson entry.2 = .ok value → value.DistinctKeys)
    (hbegun : DistinctKeys (.object begun)) (h : ofJsonMembers begun members = .ok entries) :
    DistinctKeys (.object entries) := by
  induction members generalizing begun with
  | nil =>
      cases h
      exact hbegun
  | cons member rest ih =>
      obtain ⟨key, document⟩ := member
      obtain ⟨value, hvalue, hrest⟩ := Except.bind_eq_ok_iff.1 h
      obtain ⟨hmember, hlater⟩ := List.forall_mem_cons.1 hmembers
      exact ih hlater (hbegun.insert key (hmember value hvalue)) hrest

/-- Whatever is converted from a document repeats no key, even if the document does. -/
theorem distinctKeys_of_ofJson {document : Json} {value : Value}
    (h : ofJson document = .ok value) : value.DistinctKeys := by
  induction document generalizing value with
  | null => cases h
  | bool flag => cases h; exact .bool flag
  | number number =>
      cases h
      cases number with
      | integer number lower upper =>
          rw [ofJsonNumber]
          split
          · exact .int _
          · exact .float _
      | float number finite => exact .float number
  | string content => cases h; exact .text content
  | array items ih =>
      obtain ⟨values, hvalues, rfl⟩ := Except.map_eq_ok_iff.1 h
      exact .array (distinctKeys_of_ofJsonItems (fun item hitem _ => ih item hitem) hvalues)
  | object members ih =>
      obtain ⟨entries, hentries, rfl⟩ := Except.map_eq_ok_iff.1 h
      exact distinctKeys_of_ofJsonMembers (fun entry hentry _ => ih entry hentry) .empty hentries

/-! ## Failures -/

/-- No document is made of a value exactly if it has a double that is not finite, and the first
one is reported. -/
theorem failsOn_toJson (value : Value) : FailsOn value.floats value.toJson := by
  induction value with
  | bool flag => exact .of_ok _
  | int number => exact .of_ok _
  | float number => exact (failsOn_toJsonNumber number).map _
  | text content => exact .of_ok _
  | array items ih =>
      refine FailsOn.map ?_ _
      induction items with
      | nil => exact .of_ok _
      | cons item rest ihrest =>
          obtain ⟨ihitem, ihitems⟩ := List.forall_mem_cons.1 ih
          exact ihitem.bind fun first => (ihrest ihitems).map (first :: ·)
  | object entries ih =>
      refine FailsOn.map ?_ _
      generalize ([] : Entries Json) = members
      induction entries generalizing members with
      | nil => exact .of_ok _
      | cons entry rest ihrest =>
          obtain ⟨ihentry, ihentries⟩ := List.forall_mem_cons.1 ih
          exact ihentry.bind fun document => ihrest ihentries _

/-! ## The document of a value

Documents are made by inserting one member after the other. Of a value that repeats no key this
makes a document of the same shape, with the members in the same places. -/

mutual

/-- The document of a value whose doubles are finite; another double has none and counts as null. -/
def document : Value → Json
  | .bool flag => .bool flag
  | .int number => .number (.ofInt64 number)
  | .float number =>
    if finite : number.isFinite = true then .number (.float number finite) else .null
  | .text content => .string content
  | .array items => .array (documentItems items)
  | .object entries => .object (documentMembers entries)

/-- The documents of the items. -/
def documentItems : List Value → List Json
  | [] => []
  | item :: rest => document item :: documentItems rest

/-- The entries with the documents of their values. -/
def documentMembers : List (String × Value) → Entries Json
  | [] => []
  | (key, value) :: rest => (key, document value) :: documentMembers rest

end

theorem documentItems_eq (items : List Value) : documentItems items = items.map document := by
  induction items with
  | nil => rfl
  | cons item rest ih => rw [documentItems, ih, List.map_cons]

theorem documentMembers_eq (entries : Payload) :
    documentMembers entries = entries.map fun entry => (entry.1, entry.2.document) := by
  induction entries with
  | nil => rfl
  | cons entry rest ih => rw [documentMembers, ih, List.map_cons]

theorem keys_documentMembers (entries : Payload) :
    (documentMembers entries).keys = entries.keys := by
  induction entries with
  | nil => rfl
  | cons entry rest ih => rw [documentMembers, Entries.keys_cons, Entries.keys_cons, ih]

/-- A value is nested as deep as its document. -/
theorem depth_document (value : Value) : value.document.depth = value.depth := by
  induction value with
  | bool flag => rfl
  | int number => rfl
  | float number =>
      rw [document]
      split
      · rfl
      · rfl
  | text content => rfl
  | array items ih =>
      rw [document, Json.depth, depth]
      congr 1
      induction items with
      | nil => rfl
      | cons item rest ihrest =>
          obtain ⟨ihitem, ihitems⟩ := List.forall_mem_cons.1 ih
          rw [documentItems, Json.depthOfItems, depthOfItems, ihitem, ihrest ihitems]
  | object entries ih =>
      rw [document, Json.depth, depth]
      congr 1
      induction entries with
      | nil => rfl
      | cons entry rest ihrest =>
          obtain ⟨ihentry, ihentries⟩ := List.forall_mem_cons.1 ih
          rw [documentMembers, Json.depthOfMembers, depthOfEntries, ihentry, ihrest ihentries]

/-- The document of a value that repeats no key repeats none either. -/
theorem distinctKeys_document {value : Value} (h : value.DistinctKeys) :
    value.document.DistinctKeys := by
  induction value with
  | bool flag => exact .bool flag
  | int number => exact .number _
  | float number =>
      rw [document]
      split
      · exact .number _
      · exact .null
  | text content => exact .string content
  | array items ih =>
      refine .array ?_
      rw [documentItems_eq]
      intro item hitem
      obtain ⟨value, hvalue, rfl⟩ := List.mem_map.1 hitem
      exact ih value hvalue (h.of_mem_items hvalue)
  | object entries ih =>
      refine .object ((keys_documentMembers entries).symm ▸ h.keys_nodup) ?_
      rw [documentMembers_eq]
      intro member hmember
      obtain ⟨entry, hentry, rfl⟩ := List.mem_map.1 hmember
      exact ih entry hentry (h.of_mem_entries hentry)

theorem toJsonItems_eq {items : List Value} (h : ∀ item ∈ items, item.toJson = .ok item.document) :
    toJsonItems items = .ok (documentItems items) := by
  induction items with
  | nil => rfl
  | cons item rest ih =>
      obtain ⟨hitem, hrest⟩ := List.forall_mem_cons.1 h
      rw [toJsonItems, hitem, ih hrest]
      rfl

/-- Members whose keys are new are inserted behind those that are there. -/
theorem toJsonEntries_eq (members : Entries Json) {entries : Payload}
    (hkeys : (members.keys ++ entries.keys).Nodup)
    (h : ∀ entry ∈ entries, entry.2.toJson = .ok entry.2.document) :
    toJsonEntries members entries = .ok (members ++ documentMembers entries) := by
  induction entries generalizing members with
  | nil => rw [toJsonEntries, documentMembers, List.append_nil]
  | cons entry rest ih =>
      obtain ⟨hentry, hrest⟩ := List.forall_mem_cons.1 h
      obtain ⟨hinsert, hlater⟩ := Entries.insert_of_nodup hkeys entry.2.document
      rw [toJsonEntries, hentry, documentMembers]
      show toJsonEntries (members.insert entry.1 entry.2.document) rest = _
      rw [ih _ hlater hrest, hinsert, List.append_assoc]
      rfl

/-- Conversion makes the document of the value. -/
theorem toJson_eq {value : Value} (h : value.DistinctKeys)
    (hfinite : ∀ number ∈ value.floats, number.isFinite = true) :
    value.toJson = .ok value.document := by
  induction value with
  | bool flag => rfl
  | int number => rfl
  | float number =>
      have hnumber := hfinite number (List.mem_singleton_self number)
      rw [toJson, Double.toJsonNumber, dif_pos hnumber, document, dif_pos hnumber]
      rfl
  | text content => rfl
  | array items ih =>
      have hitems : ∀ item ∈ items, item.toJson = .ok item.document := fun item hmem =>
        ih item hmem (h.of_mem_items hmem) fun number hnumber =>
          hfinite number (mem_floats_of_mem_items hmem hnumber)
      rw [toJson, toJsonItems_eq hitems]
      rfl
  | object entries ih =>
      have hentries : ∀ entry ∈ entries, entry.2.toJson = .ok entry.2.document :=
        fun entry hmem => ih entry hmem (h.of_mem_entries hmem) fun number hnumber =>
          hfinite number (mem_floats_of_mem_entries hmem hnumber)
      rw [toJson, toJsonEntries_eq [] h.keys_nodup hentries]
      rfl

/-! ## The value of a document -/

theorem ofJsonNumber_ofInt64 (number : Int64) : ofJsonNumber (.ofInt64 number) = .int number := by
  have hlt : number.toInt < signedBound := Int64.toInt_lt number
  rw [JsonNumber.ofInt64, ofJsonNumber, if_pos hlt, Int64.ofInt_toInt]

theorem ofJsonItems_eq {items : List Value} (h : ∀ item ∈ items, ofJson item.document = .ok item) :
    ofJsonItems (documentItems items) = .ok items := by
  induction items with
  | nil => rfl
  | cons item rest ih =>
      obtain ⟨hitem, hrest⟩ := List.forall_mem_cons.1 h
      rw [documentItems, ofJsonItems, hitem, ih hrest]
      rfl

theorem ofJsonMembers_eq (payload : Payload) {entries : Payload}
    (hkeys : (payload.keys ++ entries.keys).Nodup)
    (h : ∀ entry ∈ entries, ofJson entry.2.document = .ok entry.2) :
    ofJsonMembers payload (documentMembers entries) = .ok (payload ++ entries) := by
  induction entries generalizing payload with
  | nil => rw [documentMembers, ofJsonMembers, List.append_nil]
  | cons entry rest ih =>
      obtain ⟨hentry, hrest⟩ := List.forall_mem_cons.1 h
      obtain ⟨hinsert, hlater⟩ := Entries.insert_of_nodup hkeys entry.2
      rw [documentMembers, ofJsonMembers, hentry]
      show ofJsonMembers (payload.insert entry.1 entry.2) (documentMembers rest) = _
      rw [ih _ hlater hrest, hinsert, List.append_assoc]
      rfl

/-- The document of a value is converted back to that value. -/
theorem ofJson_document {value : Value} (h : value.DistinctKeys)
    (hfinite : ∀ number ∈ value.floats, number.isFinite = true) :
    ofJson value.document = .ok value := by
  induction value with
  | bool flag => rfl
  | int number => exact congrArg Except.ok (ofJsonNumber_ofInt64 number)
  | float number =>
      rw [document, dif_pos (hfinite number (List.mem_singleton_self number))]
      rfl
  | text content => rfl
  | array items ih =>
      have hitems : ∀ item ∈ items, ofJson item.document = .ok item := fun item hmem =>
        ih item hmem (h.of_mem_items hmem) fun number hnumber =>
          hfinite number (mem_floats_of_mem_items hmem hnumber)
      rw [document, ofJson, ofJsonItems_eq hitems]
      rfl
  | object entries ih =>
      have hentries : ∀ entry ∈ entries, ofJson entry.2.document = .ok entry.2 :=
        fun entry hmem => ih entry hmem (h.of_mem_entries hmem) fun number hnumber =>
          hfinite number (mem_floats_of_mem_entries hmem hnumber)
      rw [document, ofJson, ofJsonMembers_eq [] h.keys_nodup hentries]
      rfl

end Value

end QueryFilter
