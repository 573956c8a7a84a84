import QueryFilter.Filter.Wrapped
import QueryFilter.Proofs.Filter.Failure
import QueryFilter.Proofs.Value.Line

set_option autoImplicit false

/-!
# Filters written part by part

A filter that holds other filters copies their objects and is written in one pass over the whole.
What comes out is nevertheless put together from what its parts are written as on their own, errors
included. Main statement: `Filter.written_by_parts`.
-/

namespace QueryFilter

theorem Filter.result_toText (filter : Filter) :
    filter.toText.result = (Value.object filter.payload).line.mapError .serialization :=
  filter.payload.result_render .compact

theorem Filter.result_toDict (filter : Filter) :
    filter.toDict.result = filter.payload.toMembers.mapError .serialization :=
  filter.payload.result_toDict

/-! ## Compounds -/

namespace CompoundFilter

/-- All members are written, and the compound is written as they are. -/
structure Joined (operator : String) (members : List Filter) (texts : List String)
    (dicts : List (Entries Json)) : Prop where
  memberTexts : List.Forall₂ (fun member text => member.toText.result = .ok text) members texts
  memberDicts : List.Forall₂ (fun member dict => member.toDict.result = .ok dict) members dicts
  toText : (Filter.compound (compose operator members).value).toText.result
    = .ok ("\x7b" ++ Json.literal operator ++ ":[" ++ ",".intercalate texts ++ "]\x7d")
  toDict : (Filter.compound (compose operator members).value).toDict.result
    = .ok [(operator, .array (dicts.map Json.object))]

/-- A member is not written, though all earlier ones are, and the compound fails as it does. -/
structure Stopped (operator : String) (before : List Filter) (member : Filter)
    (after : List Filter) (error : FilterError) : Prop where
  earlier : ∀ filter ∈ before, filter.Written
  first : member.Unwritten error
  compound : (Filter.compound (compose operator (before ++ member :: after)).value).Unwritten error

theorem result_toText_compose (operator : String) {members : List Filter} {texts : List String}
    (h : List.Forall₂ (fun member text => member.toText.result = .ok text) members texts) :
    (Filter.compound (compose operator members).value).toText.result
      = .ok ("\x7b" ++ Json.literal operator ++ ":[" ++ ",".intercalate texts ++ "]\x7d") := by
  have hlines : (members.map memberValue).mapM Value.line = .ok texts := by
    rw [List.mapM_map, Except.mapM_eq_ok_iff]
    refine h.imp fun member text htext => ?_
    rwa [Filter.result_toText, Except.mapError_eq_ok_iff] at htext
  have hline : (Value.array (members.map memberValue)).line
      = .ok ("[" ++ ",".intercalate texts ++ "]") := by
    rw [Value.line_array, hlines]
    rfl
  calc (Filter.compound (compose operator members).value).toText.result
      = (Value.object [(operator, .array (members.map memberValue))]).line.mapError
          .serialization := Filter.result_toText _
    _ = .ok ("\x7b" ++ Json.literal operator ++ ":" ++ ("[" ++ ",".intercalate texts ++ "]")
          ++ "\x7d") := by
        rw [Value.line_singleton, hline]
        rfl
    _ = .ok ("\x7b" ++ Json.literal operator ++ ":[" ++ ",".intercalate texts ++ "]\x7d") := by
        refine congrArg Except.ok ?_
        simp [← String.toList_inj]

theorem result_toDict_compose (operator : String) {members : List Filter}
    {dicts : List (Entries Json)}
    (h : List.Forall₂ (fun member dict => member.toDict.result = .ok dict) members dicts) :
    (Filter.compound (compose operator members).value).toDict.result
      = .ok [(operator, .array (dicts.map Json.object))] := by
  have hitems : Value.toJsonItems (members.map memberValue) = .ok (dicts.map Json.object) := by
    induction h with
    | nil => rfl
    | @cons member dict rest others hdict _ ih =>
        rw [Filter.result_toDict, Except.mapError_eq_ok_iff] at hdict
        have hmember : Value.toJson (memberValue member) = .ok (.object dict) :=
          congrArg (Except.map Json.object) hdict
        rw [List.map_cons, Value.toJsonItems, hmember, ih]
        rfl
  have hmembers : Payload.toMembers [(operator, .array (members.map memberValue))]
      = .ok [(operator, .array (dicts.map Json.object))] := by
    rw [Payload.toMembers, Value.toJsonEntries, Value.toJson, hitems]
    rfl
  exact (Filter.result_toDict _).trans (Except.mapError_eq_ok_iff.2 hmembers)

/-- The first number in a compound that is not finite is the first one in the first member that
has such a number. -/
theorem firstNonFinite?_compose (operator : String) (members : List Filter) :
    firstNonFinite? (compose operator members).value.payload.floats
      = members.findSome? fun member => firstNonFinite? member.payload.floats := by
  have hfloats : (compose operator members).value.payload.floats
      = Value.floatsOfItems (members.map memberValue) := List.append_nil _
  rw [hfloats]
  clear hfloats
  induction members with
  | nil => rfl
  | cons member rest ih =>
      have happend : firstNonFinite? (Value.floatsOfItems ((member :: rest).map memberValue))
          = (firstNonFinite? member.payload.floats).or
              (firstNonFinite? (Value.floatsOfItems (rest.map memberValue))) :=
        List.find?_append
      rw [happend, ih, List.findSome?_cons]
      cases firstNonFinite? member.payload.floats <;> rfl

/-- A compound is written by its members, or fails on the first of them that fails. -/
theorem joined_or_stopped (operator : String) (members : List Filter) :
    (∃ texts dicts, Joined operator members texts dicts) ∨
    ∃ before member after error, members = before ++ member :: after ∧
      Stopped operator before member after error := by
  have written {filter : Filter} (h : firstNonFinite? filter.payload.floats = none) :
      filter.Written := Filter.written_of_finite (firstNonFinite?_eq_none_iff.1 h)
  cases hfirst : members.findSome? fun member => firstNonFinite? member.payload.floats with
  | none =>
      have hwritten : ∀ member ∈ members, member.Written := fun member hmember =>
        written (List.findSome?_eq_none_iff.1 hfirst member hmember)
      obtain ⟨texts, htexts⟩ :=
        exists_forall₂ fun member hmember => (hwritten member hmember).toText
      obtain ⟨dicts, hdicts⟩ :=
        exists_forall₂ fun member hmember => (hwritten member hmember).toDict
      exact Or.inl ⟨texts, dicts, htexts, hdicts, result_toText_compose operator htexts,
        result_toDict_compose operator hdicts⟩
  | some number =>
      obtain ⟨before, member, after, rfl, hnumber, hbefore⟩ := List.findSome?_eq_some_iff.1 hfirst
      have hcompound := (firstNonFinite?_compose operator (before ++ member :: after)).trans hfirst
      exact Or.inr ⟨before, member, after, .serialization number.nonFinite, rfl,
        fun filter hfilter => written (hbefore filter hfilter),
        Filter.unwritten_of_nonFinite hnumber, Filter.unwritten_of_nonFinite hcompound⟩

end CompoundFilter

/-! ## Formulas and rollups -/

/-- What is held under a new key of a filter on a property is written behind its name and type. -/
theorem Payload.line_ofProperty_insert (property : String) (type : PropertyType) {key : String}
    (hproperty : key ≠ "property") (htype : key ≠ "type") (value : Value) :
    (Value.object ((Payload.ofProperty property type).insert key value)).line
      = value.line.map fun text => "\x7b\"property\":" ++ Json.literal property ++ ",\"type\":"
          ++ Json.literal type.name ++ "," ++ Json.literal key ++ ":" ++ text ++ "\x7d" := by
  have hkey : key ∉ (Payload.ofProperty property type).keys := by
    show key ∉ ["property", "type"]
    simp [hproperty, htype]
  have hproperty' : Json.literal "property" = "\"property\"" := rfl
  have htype' : Json.literal "type" = "\"type\"" := rfl
  rw [Entries.insert_of_not_mem value hkey, Value.line_object]
  show (List.mapM Value.entryLine
    [("property", .text property), ("type", .text type.name), (key, value)]).map _ = _
  rw [List.mapM_cons, List.mapM_cons, List.mapM_cons, List.mapM_nil, Value.entryLine,
    Value.entryLine, Value.entryLine, Value.line_text, Value.line_text]
  cases value.line with
  | error number => rfl
  | ok text =>
      refine congrArg Except.ok ?_
      simp [← String.toList_inj, hproperty', htype']

theorem Filter.result_toText_insert (filter : Filter) (property : String) (type : PropertyType)
    {key : String} (hproperty : key ≠ "property") (htype : key ≠ "type") (value : Value)
    (hpayload : filter.payload = (Payload.ofProperty property type).insert key value) :
    filter.toText.result
      = (value.line.mapError .serialization).map fun text =>
          "\x7b\"property\":" ++ Json.literal property ++ ",\"type\":" ++ Json.literal type.name
            ++ "," ++ Json.literal key ++ ":" ++ text ++ "\x7d" := by
  rw [result_toText, hpayload, Payload.line_ofProperty_insert property type hproperty htype,
    Except.mapError_map]

theorem FormulaFilter.result_toText_new (property : String) {typeName : String}
    (inner : PropertyFilter) (hproperty : typeName ≠ "property") (htype : typeName ≠ "type") :
    (Filter.property (.formula (.new property typeName inner))).toText.result
      = (Filter.property inner).toText.result.map fun text =>
          "\x7b\"property\":" ++ Json.literal property ++ ",\"type\":\"formula\","
            ++ Json.literal typeName ++ ":" ++ text ++ "\x7d" := by
  have hformula : Json.literal PropertyType.formula.name = "\"formula\"" := rfl
  rw [Filter.result_toText_insert _ property .formula hproperty htype (.object inner.payload) rfl,
    Filter.result_toText]
  refine congrArg (Except.map · _) (funext fun text => ?_)
  simp [← String.toList_inj, hformula]

theorem RollupFilter.result_toText_new (property : String) {aggregation : String}
    (typeName : String) (inner : PropertyFilter) (hproperty : aggregation ≠ "property")
    (htype : aggregation ≠ "type") :
    (Filter.property (.rollup (.new property aggregation typeName inner))).toText.result
      = (Filter.property inner).toText.result.map fun text =>
          "\x7b\"property\":" ++ Json.literal property ++ ",\"type\":\"rollup\","
            ++ Json.literal aggregation ++ ":\x7b" ++ Json.literal typeName ++ ":" ++ text
            ++ "\x7d\x7d" := by
  have hrollup : Json.literal PropertyType.rollup.name = "\"rollup\"" := rfl
  rw [Filter.result_toText_insert _ property .rollup hproperty htype
    (.object [(typeName, .object inner.payload)]) rfl, Value.line_singleton, Except.mapError_map,
    Except.map_map, Filter.result_toText]
  refine congrArg (Except.map · _) (funext fun text => ?_)
  simp [← String.toList_inj, hrollup]

/-! ## Main statement -/

/-- A compound is put together from its members, or fails on the first of them that fails; and a
formula or a rollup from its inner filter, as long as what is held does not overwrite the name or
the type of the property. -/
theorem Filter.written_by_parts :
    (∀ (operator : String) (members : List Filter),
      (∃ texts dicts, CompoundFilter.Joined operator members texts dicts) ∨
      ∃ before member after error, members = before ++ member :: after ∧
        CompoundFilter.Stopped operator before member after error) ∧
    (∀ (property typeName : String) (inner : PropertyFilter),
      typeName ≠ "property" → typeName ≠ "type" →
      (Filter.property (.formula (.new property typeName inner))).toText.result
        = (Filter.property inner).toText.result.map fun text =>
            "\x7b\"property\":" ++ Json.literal property ++ ",\"type\":\"formula\","
              ++ Json.literal typeName ++ ":" ++ text ++ "\x7d") ∧
    ∀ (property aggregation typeName : String) (inner : PropertyFilter),
      aggregation ≠ "property" → aggregation ≠ "type" →
      (Filter.property (.rollup (.new property aggregation typeName inner))).toText.result
        = (Filter.property inner).toText.result.map fun text =>
            "\x7b\"property\":" ++ Json.literal property ++ ",\"type\":\"rollup\","
              ++ Json.literal aggregation ++ ":\x7b" ++ Json.literal typeName ++ ":" ++ text
              ++ "\x7d\x7d" := by
  refine ⟨CompoundFilter.joined_or_stopped, ?_, ?_⟩
  · intro property typeName inner hproperty htype
    exact FormulaFilter.result_toText_new property inner hproperty htype
  · intro property aggregation typeName inner hproperty htype
    exact RollupFilter.result_toText_new property typeName inner hproperty htype

/-- A rollup may hold its inner filter under a type name that is the key of the name, and a formula
in a formula fails as the innermost filter does. -/
theorem Filter.written_by_parts_nested :
    (Filter.property (.rollup (.new "r" "any" "property"
      (.typed .checkbox (.new .checkbox "c"))))).toText.result
        = .ok ("\x7b\"property\":\"r\",\"type\":\"rollup\",\"any\":\x7b\"property\":"
          ++ "\x7b\"property\":\"c\",\"type\":\"checkbox\"\x7d\x7d\x7d") ∧
    (Filter.property (.formula (.new "f" "" (.formula (.new "g" "number"
      (.typed .number ⟨[("equals", .float ⟨0x7FF8000000000000⟩)]⟩)))))).toText.result
        = .error (.serialization .notANumber) := by
  obtain ⟨-, hformula, hrollup⟩ := Filter.written_by_parts
  constructor
  · rw [hrollup "r" "any" "property" _ (by decide) (by decide)]
    rfl
  · rw [hformula "f" "" _ (by decide) (by decide), hformula "g" "number" _ (by decide) (by decide)]
    rfl

end QueryFilter
