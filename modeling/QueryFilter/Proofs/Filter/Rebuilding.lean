import QueryFilter.Proofs.Filter.NormalForm
import QueryFilter.Proofs.Filter.RoundTrip

set_option autoImplicit false

/-!
# Dynamic filters and their mappings

The mapping of a dynamic filter says how to build it: its first two members name the property and
the type that it was begun with, and each other member names an operation and gives the value that
it stores. `DynamicFilter.ofDict?` follows these instructions. Main statement: the mapping of a
filter whose doubles are finite leads back to that filter (`DynamicFilter.rebuilt_from_dict`).
-/

namespace QueryFilter

namespace DynamicFilter

/-! ## Following a mapping -/

/-- Applies the operation that a member of a mapping names to the value that it holds. -/
def takeMember? (filter : DynamicFilter) (member : String × Json) : Option DynamicFilter := do
  let operation ← (Operation.parse member.1).toOption
  let value ← (Value.ofJson member.2).toOption
  (filter.apply operation value).result.toOption

/-- The filter that a mapping leads to. It is begun with what stands under `property` and `type`,
and the other members are taken in order. There is none if one of these steps fails. -/
def ofDict? (members : Entries Json) : Option DynamicFilter :=
  match members.get? "property", members.get? "type" with
  | some (.string property), some (.string typeName) => do
    let begun ← (ofTypeName property typeName).toOption
    let others := members.filter fun member => member.1 ≠ "property" ∧ member.1 ≠ "type"
    others.foldlM takeMember? begun
  | _, _ => none

end DynamicFilter

/-! ## Filters as runs -/

/-- The filter is of another kind, or a dynamic filter that comes from a run of operations that its
type supports. -/
def Filter.IsRun : Filter → Prop
  | .property (.dynamic filter) => ∃ name uses,
    (∀ use ∈ uses, filter.type.supports use.1 = true) ∧
      filter.payload = (Payload.ofProperty name filter.type).setAll uses
  | _ => True

theorem Filter.Built.isRun : ∀ {filter : Filter}, filter.Built → filter.IsRun
  | _, .dynamic name type => ⟨name, [], by simp, rfl⟩
  | _, @Filter.Built.apply _ _ operation value hfilter _ happly => by
      obtain ⟨name, uses, hsupported, hpayload⟩ := hfilter.isRun
      rw [DynamicFilter.result_apply] at happly
      split at happly
      · rename_i hoperation
        cases happly
        refine ⟨name, uses ++ [(operation, value)], ?_, ?_⟩
        · intro use hmem
          rcases List.mem_append.1 hmem with hearlier | hlast
          · exact hsupported use hearlier
          · exact List.mem_singleton.1 hlast ▸ hoperation
        · rw [Payload.setAll_append_singleton, ← hpayload]
      · cases happly
  | _, .typed _ _ => trivial
  | _, .use _ _ _ _ => trivial
  | _, .formula _ _ _ => trivial
  | _, .rollup _ _ _ _ => trivial
  | _, .timestamp _ => trivial
  | _, .useTimestamp _ _ _ => trivial
  | _, .compose _ _ => trivial
  | _, .push _ _ => trivial
  | _, .object _ => trivial

/-- An entry that an operation of the type leaves in a filter object. -/
def PropertyType.Leaves (type : PropertyType) (entry : String × Value) : Prop :=
  ∃ operation value, type.supports operation = true ∧
    entry = (operation.name, operation.stored value)

/-- A dynamic filter holds what it was begun with, and behind it what operations of its type
leave. -/
theorem Filter.Built.exists_leaves {filter : DynamicFilter}
    (built : Filter.Built (.property (.dynamic filter))) :
    ∃ name entries, filter.payload = Payload.ofProperty name filter.type ++ entries ∧
      ∀ entry ∈ entries, filter.type.Leaves entry := by
  obtain ⟨name, uses, hsupported, hpayload⟩ := built.isRun
  refine ⟨name, Operation.settled uses, hpayload.trans ?_, fun entry hentry => ?_⟩
  · exact Payload.setAll_eq
      (fun operation => operation.name_not_mem_keys_ofProperty name filter.type) uses
  · obtain ⟨operation, hoperation, rfl⟩ := List.mem_map.1 hentry
    obtain ⟨use, huse, rfl⟩ := List.mem_map.1 (List.mem_eraseDups.1 hoperation)
    exact ⟨use.1, _, hsupported use huse, rfl⟩

namespace DynamicFilter

/-! ## Taking members -/

/-- The member for an entry is taken by setting the value of the entry. -/
theorem takeMember?_document {filter : DynamicFilter} {entry : String × Value}
    (hleaves : filter.type.Leaves entry) (hvalue : Value.ofJson entry.2.document = .ok entry.2) :
    filter.takeMember? (entry.1, entry.2.document)
      = some ⟨filter.type, filter.payload.insert entry.1 entry.2⟩ := by
  obtain ⟨operation, value, hsupported, rfl⟩ := hleaves
  have happly : (filter.apply operation (operation.stored value)).result
      = .ok ⟨filter.type, filter.payload.insert operation.name (operation.stored value)⟩ := by
    rw [result_apply, if_pos hsupported, Operation.stored_stored]
  rw [takeMember?, Operation.parse_name, hvalue]
  show (filter.apply operation (operation.stored value)).result.toOption = _
  rw [happly]
  rfl

/-- Members whose keys are new are taken one after the other, and their entries go behind those that
are there. -/
theorem foldlM_takeMember? (filter : DynamicFilter) {entries : Payload}
    (hkeys : (filter.payload.keys ++ entries.keys).Nodup)
    (hleaves : ∀ entry ∈ entries, filter.type.Leaves entry)
    (hvalues : ∀ entry ∈ entries, Value.ofJson entry.2.document = .ok entry.2) :
    (Value.documentMembers entries).foldlM takeMember? filter
      = some ⟨filter.type, filter.payload ++ entries⟩ := by
  induction entries generalizing filter with
  | nil =>
      rw [List.append_nil]
      rfl
  | cons entry rest ih =>
      obtain ⟨hfirst, hlater⟩ := List.forall_mem_cons.1 hleaves
      obtain ⟨hvalue, hothers⟩ := List.forall_mem_cons.1 hvalues
      obtain ⟨hinsert, hnew⟩ := Entries.insert_of_nodup hkeys entry.2
      have hmember : Value.documentMembers (entry :: rest)
          = (entry.1, entry.2.document) :: Value.documentMembers rest := rfl
      rw [hmember, List.foldlM_cons, takeMember?_document hfirst hvalue]
      show (Value.documentMembers rest).foldlM takeMember? ⟨filter.type, _⟩ = _
      rw [ih ⟨filter.type, _⟩ hnew hlater hothers, hinsert, List.append_assoc]
      rfl

theorem ofTypeName_name (property : String) (type : PropertyType) :
    ofTypeName property type.name = .ok (new property type) := by
  rw [ofTypeName, PropertyType.parse_name]

/-- A mapping that begins with a property and the name of a type leads to the filter that takes the
other members. -/
theorem ofDict?_cons_cons (property : String) (type : PropertyType) {others : Entries Json}
    (hothers : ∀ key ∈ others.keys, key ≠ "property" ∧ key ≠ "type") :
    ofDict? (("property", .string property) :: ("type", .string type.name) :: others)
      = others.foldlM takeMember? (new property type) := by
  have hkept : others.filter (fun member => member.1 ≠ "property" ∧ member.1 ≠ "type")
      = others := by
    refine List.filter_eq_self.2 fun member hmem => ?_
    exact decide_eq_true (hothers member.1 (List.mem_map_of_mem hmem))
  show ((ofTypeName property type.name).toOption >>= fun begun => List.foldlM takeMember? begun
    (others.filter fun member => member.1 ≠ "property" ∧ member.1 ≠ "type")) = _
  rw [hkept, ofTypeName_name]
  rfl

/-! ## Main statement -/

/-- The mapping of a dynamic filter whose doubles are finite leads back to the filter: every step
succeeds, and the type and the filter object are the same, down to the bits of its doubles. -/
theorem rebuilt_from_dict {filter : DynamicFilter}
    (built : Filter.Built (.property (.dynamic filter)))
    (hfinite : ∀ number ∈ filter.payload.floats, number.isFinite = true) :
    ∃ members, (Filter.property (.dynamic filter)).toDict.result = .ok members ∧
      ofDict? members = some filter := by
  obtain ⟨property, entries, hform, hleaves⟩ := built.exists_leaves
  have hkeys : Value.DistinctKeys (.object filter.payload) := built.distinctKeys
  have hnodup : (["property", "type"] ++ entries.keys).Nodup := by
    have hall := hkeys.keys_nodup
    rwa [hform, Entries.keys_append] at hall
  have hothers : ∀ key ∈ (Value.documentMembers entries).keys, key ≠ "property" ∧ key ≠ "type" := by
    intro key hkey
    rw [Value.keys_documentMembers] at hkey
    have hnew := (List.nodup_append.1 hnodup).2.2
    exact ⟨(hnew "property" (by simp) key hkey).symm, (hnew "type" (by simp) key hkey).symm⟩
  have hvalues : ∀ entry ∈ entries, Value.ofJson entry.2.document = .ok entry.2 := by
    intro entry hentry
    have hmem : entry ∈ filter.payload := hform ▸ List.mem_append_right _ hentry
    exact Value.ofJson_document (hkeys.of_mem_entries hmem) fun number hnumber =>
      hfinite number (Value.mem_floats_of_mem_entries hmem hnumber)
  have hmembers : Value.documentMembers filter.payload
      = ("property", .string property) :: ("type", .string filter.type.name)
        :: Value.documentMembers entries := by
    rw [hform]
    rfl
  refine ⟨Value.documentMembers filter.payload, ?_, ?_⟩
  · rw [Filter.toDict, Payload.result_toDict]
    exact congrArg (Except.mapError _) (Payload.toMembers_eq hkeys hfinite)
  · -- the first two members begin the filter, and the others are taken one by one
    rw [hmembers, ofDict?_cons_cons property filter.type hothers,
      foldlM_takeMember? (new property filter.type) hnodup hleaves hvalues]
    show some ⟨filter.type, Payload.ofProperty property filter.type ++ entries⟩ = some filter
    rw [← hform]

/-- A property whose name is a key, an operation that takes no value and was given a number that
cannot be written, an operation that is used twice, and minus zero inside a value. -/
theorem rebuilt_from_dict_overwritten :
    ∃ filter members,
      ((new "type" .richText).applyAll [(.equals, .int 1), (.isEmpty, .float ⟨0x7FF8000000000000⟩),
        (.equals, .object [("property", .float ⟨0x8000000000000000⟩)])]).result = .ok filter ∧
      (Filter.property (.dynamic filter)).toDict.result = .ok members ∧
      ofDict? members = some filter := by
  have hvalue : Value.Built (.object [("property", .float ⟨0x8000000000000000⟩)]) :=
    .object (.edit ⟨.insert, "property", _⟩ .empty (.float _))
  have hbegun : Filter.Built (.property (.dynamic (new "type" .richText))) := .dynamic _ _
  have hfirst := Filter.Built.apply hbegun (.int 1) (by rfl :
    ((new "type" .richText).apply .equals (.int 1)).result = .ok _)
  have hsecond := Filter.Built.apply hfirst (.float ⟨0x7FF8000000000000⟩) (by rfl :
    (DynamicFilter.apply _ .isEmpty _).result = .ok _)
  have hthird := Filter.Built.apply hsecond hvalue (by rfl :
    (DynamicFilter.apply _ .equals _).result = .ok _)
  obtain ⟨members, hdict, hrebuilt⟩ := rebuilt_from_dict hthird (by decide)
  exact ⟨_, members, rfl, hdict, hrebuilt⟩

end DynamicFilter

end QueryFilter
