import QueryFilter.Proofs.Filter.Rendering
import QueryFilter.Proofs.Number.Nearest

set_option autoImplicit false

/-!
# Documents through filter values

A document that is converted to a value and back stays the same, except for the integers above the
signed words, which are narrowed to doubles (`JsonNumber.narrowed`). The conversion fails on null
and on nothing else. Main statement: what the conversion gives for every document, there and back
(`Json.reconverted_exactly`).
-/

namespace QueryFilter

/-! ## Numbers -/

namespace JsonNumber

/-- An integer above the signed words. -/
def Wide : JsonNumber → Prop
  | .integer value _ _ => signedBound ≤ value
  | .float _ _ => False

instance : DecidablePred Wide
  | .integer value _ _ => inferInstanceAs (Decidable (signedBound ≤ value))
  | .float _ _ => inferInstanceAs (Decidable False)

theorem toNat_lt_of_lt_integerBound {value : Int} (upper : value < integerBound) :
    value.toNat < 2 ^ 64 := by
  unfold integerBound at upper
  omega

/-- A number as a filter value holds it: a wide integer becomes a double. -/
def narrowed : JsonNumber → JsonNumber
  | .integer value lower upper =>
    if value < signedBound then .integer value lower upper
    else .float (Double.ofNat value.toNat)
      (Double.isFinite_ofNat (toNat_lt_of_lt_integerBound upper))
  | .float value finite => .float value finite

theorem narrowed_of_not_wide {number : JsonNumber} (h : ¬number.Wide) :
    number.narrowed = number := by
  cases number with
  | integer value lower upper =>
      have hlt : value < signedBound := Int.not_le.1 h
      rw [narrowed, if_pos hlt]
  | float value finite => rfl

/-- A wide integer becomes the double nearest to it. -/
theorem narrowed_of_wide {number : JsonNumber} (h : number.Wide) :
    ∃ value lower upper nearest finite, number = .integer value lower upper ∧
      number.narrowed = .float nearest finite ∧ nearest.IsNearest value.toNat := by
  cases number with
  | integer value lower upper =>
      have hge : ¬value < signedBound := Int.not_lt.2 h
      have hbound : value.toNat < 2 ^ 64 := toNat_lt_of_lt_integerBound upper
      refine ⟨value, lower, upper, Double.ofNat value.toNat, Double.isFinite_ofNat hbound, rfl, ?_,
        Double.isNearest_ofNat hbound⟩
      rw [narrowed, if_neg hge]
  | float value finite => cases h

theorem narrowed_eq_self_iff {number : JsonNumber} : number.narrowed = number ↔ ¬number.Wide := by
  constructor
  · intro heq hwide
    obtain ⟨value, lower, upper, nearest, finite, rfl, hfloat, -⟩ := narrowed_of_wide hwide
    rw [hfloat] at heq
    cases heq
  · exact narrowed_of_not_wide

/-- A filter value holds the number narrowed. -/
theorem document_ofJsonNumber (number : JsonNumber) :
    (Value.ofJsonNumber number).document = .number number.narrowed := by
  cases number with
  | integer value lower upper =>
      rw [Value.ofJsonNumber, narrowed]
      split
      · -- the word holds the integer, which is within its range on both sides
        rename_i hlt
        have hword : (Int64.ofInt value).toInt = value := by
          unfold leastInteger at lower
          unfold signedBound at hlt
          exact Int64.toInt_ofInt_of_le lower (by omega)
        simp only [Value.document, ofInt64, hword]
      · rw [Value.document, dif_pos]
  | float value finite => rw [Value.ofJsonNumber, Value.document, dif_pos finite, narrowed]

theorem isFinite_of_mem_ofJsonNumber {number : JsonNumber} {double : Double}
    (h : double ∈ (Value.ofJsonNumber number).floats) : double.isFinite = true := by
  cases number with
  | integer value lower upper =>
      rw [Value.ofJsonNumber] at h
      split at h
      · cases h
      · cases List.mem_singleton.1 h
        exact Double.isFinite_ofNat (toNat_lt_of_lt_integerBound upper)
  | float value finite =>
      cases List.mem_singleton.1 h
      exact finite

end JsonNumber

/-! ## Parts of documents -/

namespace Json

/-- A document is found in another one, at any depth. -/
inductive OccursIn (part : Json) : Json → Prop where
  | here : OccursIn part part
  | item {items : List Json} {item : Json} (hmem : item ∈ items) (h : OccursIn part item) :
      OccursIn part (.array items)
  | member {members : Entries Json} {entry : String × Json} (hmem : entry ∈ members)
      (h : OccursIn part entry.2) : OccursIn part (.object members)

/-! ## Replacing numbers -/

mutual

/-- The document with every number in it replaced, and everything else as it is. -/
def mapNumbers (replace : JsonNumber → JsonNumber) : Json → Json
  | .null => .null
  | .bool value => .bool value
  | .number value => .number (replace value)
  | .string value => .string value
  | .array items => .array (mapNumbersInItems replace items)
  | .object members => .object (mapNumbersInMembers replace members)

/-- The items with their numbers replaced. -/
def mapNumbersInItems (replace : JsonNumber → JsonNumber) : List Json → List Json
  | [] => []
  | item :: rest => mapNumbers replace item :: mapNumbersInItems replace rest

/-- The members with the same keys and the numbers under them replaced. -/
def mapNumbersInMembers (replace : JsonNumber → JsonNumber) :
    List (String × Json) → List (String × Json)
  | [] => []
  | (key, value) :: rest => (key, mapNumbers replace value) :: mapNumbersInMembers replace rest

end

variable {replace : JsonNumber → JsonNumber}

theorem mapNumbersInItems_eq_self_iff {items : List Json} :
    mapNumbersInItems replace items = items ↔ ∀ item ∈ items, item.mapNumbers replace = item := by
  induction items with
  | nil => simp [mapNumbersInItems]
  | cons item rest ih => rw [mapNumbersInItems, List.cons.injEq, ih, List.forall_mem_cons]

theorem mapNumbersInMembers_eq_self_iff {members : Entries Json} :
    mapNumbersInMembers replace members = members
      ↔ ∀ entry ∈ members, entry.2.mapNumbers replace = entry.2 := by
  induction members with
  | nil => simp [mapNumbersInMembers]
  | cons entry rest ih =>
      obtain ⟨key, value⟩ := entry
      rw [mapNumbersInMembers, List.cons.injEq, Prod.mk.injEq, ih, List.forall_mem_cons]
      exact and_congr_left fun _ => and_iff_right rfl

/-- A document is unchanged exactly if every number that occurs in it is. -/
theorem mapNumbers_eq_self_iff {document : Json} :
    document.mapNumbers replace = document
      ↔ ∀ number, (Json.number number).OccursIn document → replace number = number := by
  induction document with
  | null => exact iff_of_true rfl (by rintro _ ⟨⟩)
  | bool value => exact iff_of_true rfl (by rintro _ ⟨⟩)
  | number value =>
      rw [mapNumbers, number.injEq]
      constructor
      · rintro heq number ⟨⟩
        exact heq
      · intro h
        exact h value .here
  | string value => exact iff_of_true rfl (by rintro _ ⟨⟩)
  | array items ih =>
      rw [mapNumbers, array.injEq, mapNumbersInItems_eq_self_iff]
      constructor
      · rintro hitems number (_ | ⟨hmem, hnumber⟩)
        exact (ih _ hmem).1 (hitems _ hmem) number hnumber
      · intro h item hmem
        exact (ih item hmem).2 fun number hnumber => h number (.item hmem hnumber)
  | object members ih =>
      rw [mapNumbers, object.injEq, mapNumbersInMembers_eq_self_iff]
      constructor
      · rintro hmembers number (_ | _ | ⟨hmem, hnumber⟩)
        exact (ih _ hmem).1 (hmembers _ hmem) number hnumber
      · intro h entry hmem
        exact (ih entry hmem).2 fun number hnumber => h number (.member hmem hnumber)

end Json

/-! ## Failures -/

namespace Value

theorem ofJsonItems_eq_error_iff {items : List Json} {fault : ValueFault}
    (h : ∀ item ∈ items, ∀ fault,
      ofJson item = .error fault ↔ fault = .null ∧ Json.null.OccursIn item) :
    ofJsonItems items = .error fault
      ↔ fault = .null ∧ ∃ item ∈ items, Json.null.OccursIn item := by
  induction items with
  | nil => simp [ofJsonItems]
  | cons item rest ih =>
      obtain ⟨hitem, hrest⟩ := List.forall_mem_cons.1 h
      rw [List.exists_mem_cons_iff, and_or_left, ← ih hrest, ← hitem, ofJsonItems]
      cases hfirst : ofJson item with
      | error fault' =>
          -- the later items are not looked at, and they could only fail alike
          obtain ⟨rfl, -⟩ := (hitem fault').1 hfirst
          have hlater : ofJsonItems rest = .error fault → fault = .null := fun heq =>
            ((ih hrest).1 heq).1
          constructor
          · rintro ⟨⟩
            exact Or.inl rfl
          · rintro (heq | heq)
            · cases heq
              rfl
            · rw [hlater heq]
              rfl
      | ok first =>
          show (ofJsonItems rest).map (first :: ·) = _ ↔ _
          rw [Except.map_eq_error_iff]
          simp

theorem ofJsonMembers_eq_error_iff {members : Entries Json} {fault : ValueFault} (begun : Payload)
    (h : ∀ entry ∈ members, ∀ fault,
      ofJson entry.2 = .error fault ↔ fault = .null ∧ Json.null.OccursIn entry.2) :
    ofJsonMembers begun members = .error fault
      ↔ fault = .null ∧ ∃ entry ∈ members, Json.null.OccursIn entry.2 := by
  induction members generalizing begun with
  | nil => simp [ofJsonMembers]
  | cons entry rest ih =>
      obtain ⟨key, document⟩ := entry
      obtain ⟨hentry, hrest⟩ := List.forall_mem_cons.1 h
      rw [List.exists_mem_cons_iff, and_or_left, ← hentry, ofJsonMembers]
      cases hfirst : ofJson document with
      | error fault' =>
          obtain ⟨rfl, -⟩ := (hentry fault').1 hfirst
          constructor
          · rintro ⟨⟩
            exact Or.inl rfl
          · rintro (heq | ⟨rfl, -⟩)
            · cases heq
              rfl
            · rfl
      | ok value =>
          rw [← ih (begun.insert key value) hrest]
          show ofJsonMembers _ _ = _ ↔ _
          simp

/-- The conversion fails exactly on the documents in which a null occurs, and says so. -/
theorem ofJson_eq_error_iff {document : Json} {fault : ValueFault} :
    ofJson document = .error fault ↔ fault = .null ∧ Json.null.OccursIn document := by
  induction document generalizing fault with
  | null =>
      constructor
      · rintro ⟨⟩
        exact ⟨rfl, .here⟩
      · rintro ⟨rfl, -⟩
        rfl
  | bool value => exact iff_of_false nofun (by rintro ⟨-, ⟨⟩⟩)
  | number value => exact iff_of_false nofun (by rintro ⟨-, ⟨⟩⟩)
  | string value => exact iff_of_false nofun (by rintro ⟨-, ⟨⟩⟩)
  | array items ih =>
      rw [ofJson, Except.map_eq_error_iff, ofJsonItems_eq_error_iff fun item hmem _ => ih item hmem]
      refine and_congr_right fun _ => ⟨?_, ?_⟩
      · rintro ⟨item, hmem, hnull⟩
        exact .item hmem hnull
      · rintro (_ | ⟨hmem, hnull⟩)
        exact ⟨_, hmem, hnull⟩
  | object members ih =>
      rw [ofJson, Except.map_eq_error_iff,
        ofJsonMembers_eq_error_iff [] fun entry hmem _ => ih entry hmem]
      refine and_congr_right fun _ => ⟨?_, ?_⟩
      · rintro ⟨entry, hmem, hnull⟩
        exact .member hmem hnull
      · rintro (_ | _ | ⟨hmem, hnull⟩)
        exact ⟨_, hmem, hnull⟩

/-! ## Successes -/

/-- The value is the document with its wide integers narrowed, and can be written. -/
structure Holds (value : Value) (document : Json) : Prop where
  document_eq : value.document = document.mapNumbers JsonNumber.narrowed
  finite : ∀ number ∈ value.floats, number.isFinite = true

theorem holds_of_ofJsonItems {items : List Json} {values : List Value}
    (hitems : ∀ item ∈ items, ∀ value, ofJson item = .ok value → value.Holds item)
    (h : ofJsonItems items = .ok values) : Holds (.array values) (.array items) := by
  induction items generalizing values with
  | nil =>
      cases h
      exact ⟨rfl, nofun⟩
  | cons item rest ih =>
      obtain ⟨first, hfirst, hlater⟩ := Except.bind_eq_ok_iff.1 h
      obtain ⟨others, hothers, hcons⟩ := Except.bind_eq_ok_iff.1 hlater
      cases hcons
      obtain ⟨hitem, hrest⟩ := List.forall_mem_cons.1 hitems
      have hhead : first.Holds item := hitem first hfirst
      have htail : Holds (.array others) (.array rest) := ih hrest hothers
      refine ⟨?_, ?_⟩
      · have hdocuments := Json.array.inj htail.document_eq
        rw [document, documentItems, hhead.document_eq, hdocuments]
        rfl
      · intro number hnumber
        rcases List.mem_append.1 hnumber with hmem | hmem
        · exact hhead.finite number hmem
        · exact htail.finite number hmem

/-- Members whose keys are new stay in their order behind what is there. -/
theorem holds_of_ofJsonMembers {members : Entries Json} (begun : Payload) {entries : Payload}
    (hmembers : ∀ entry ∈ members, ∀ value, ofJson entry.2 = .ok value → value.Holds entry.2)
    (hkeys : (begun.keys ++ members.keys).Nodup) (h : ofJsonMembers begun members = .ok entries) :
    ∃ later, entries = begun ++ later ∧ Holds (.object later) (.object members) := by
  induction members generalizing begun with
  | nil =>
      cases h
      exact ⟨[], (List.append_nil _).symm, rfl, nofun⟩
  | cons member rest ih =>
      obtain ⟨key, content⟩ := member
      obtain ⟨value, hvalue, hlater⟩ := Except.bind_eq_ok_iff.1 h
      obtain ⟨hmember, hrest⟩ := List.forall_mem_cons.1 hmembers
      have hhead : value.Holds content := hmember value hvalue
      -- the key is new, so that the insertion appends
      obtain ⟨hinsert, hnew⟩ := Entries.insert_of_nodup hkeys value
      obtain ⟨later, rfl, htail⟩ := ih _ hrest hnew hlater
      refine ⟨(key, value) :: later, ?_, ?_, ?_⟩
      · rw [hinsert, List.append_assoc]
        rfl
      · have hdocuments := Json.object.inj htail.document_eq
        rw [document, documentMembers, hhead.document_eq, hdocuments]
        rfl
      · intro number hnumber
        rcases List.mem_append.1 hnumber with hmem | hmem
        · exact hhead.finite number hmem
        · exact htail.finite number hmem

/-- What the conversion gives holds the document, unless some object repeats a key. -/
theorem holds_of_ofJson {document : Json} (hkeys : document.DistinctKeys) {value : Value}
    (h : ofJson document = .ok value) : value.Holds document := by
  induction hkeys generalizing value with
  | null => cases h
  | bool flag =>
      cases h
      exact ⟨rfl, nofun⟩
  | number number =>
      cases h
      exact ⟨JsonNumber.document_ofJsonNumber number,
        fun _ hmem => JsonNumber.isFinite_of_mem_ofJsonNumber hmem⟩
  | string content =>
      cases h
      exact ⟨rfl, nofun⟩
  | array hitems ih =>
      obtain ⟨values, hvalues, rfl⟩ := Except.map_eq_ok_iff.1 h
      exact holds_of_ofJsonItems (fun item hmem _ => ih item hmem) hvalues
  | object hnodup hvalues ih =>
      obtain ⟨entries, hentries, rfl⟩ := Except.map_eq_ok_iff.1 h
      obtain ⟨later, rfl, hholds⟩ :=
        holds_of_ofJsonMembers [] (fun entry hmem _ => ih entry hmem) hnodup hentries
      exact hholds

end Value

/-! ## There and back -/

namespace Json

/-- The document of the value that a document is converted to. -/
def reconverted (document : Json) : Except FilterError Json := do
  let value ← (Value.ofJson document).mapError .invalidValue
  value.toJson.mapError .serialization

theorem reconverted_of_ofJson {document : Json} (hkeys : document.DistinctKeys) {value : Value}
    (h : Value.ofJson document = .ok value) :
    document.reconverted = .ok (document.mapNumbers .narrowed) := by
  have hholds : value.Holds document := Value.holds_of_ofJson hkeys h
  have hjson : value.toJson = .ok value.document :=
    Value.toJson_eq (Value.distinctKeys_of_ofJson h) hholds.finite
  rw [reconverted, h]
  show value.toJson.mapError _ = _
  rw [hjson, hholds.document_eq]
  rfl

/-- A document can be converted unless a null occurs in it. -/
theorem exists_ofJson_iff {document : Json} :
    (∃ value, Value.ofJson document = .ok value) ↔ ¬Json.null.OccursIn document := by
  constructor
  · rintro ⟨value, h⟩ hnull
    rw [Value.ofJson_eq_error_iff.2 ⟨rfl, hnull⟩] at h
    cases h
  · intro hnull
    cases h : Value.ofJson document with
    | ok value => exact ⟨value, rfl⟩
    | error fault => exact absurd (Value.ofJson_eq_error_iff.1 h).2 hnull

theorem exists_of_reconverted {document result : Json} (h : document.reconverted = .ok result) :
    ∃ value, Value.ofJson document = .ok value := by
  obtain ⟨value, hvalue, -⟩ := Except.bind_eq_ok_iff.1 h
  exact ⟨value, Except.mapError_eq_ok_iff.1 hvalue⟩

/-- What comes back from a conversion comes back again. -/
theorem reconverted_again {document result : Json} (hkeys : document.DistinctKeys)
    (h : document.reconverted = .ok result) : result.reconverted = .ok result := by
  obtain ⟨value, hvalue⟩ := exists_of_reconverted h
  have hholds : value.Holds document := Value.holds_of_ofJson hkeys hvalue
  have hdistinct : value.DistinctKeys := Value.distinctKeys_of_ofJson hvalue
  -- what has come back is the document of a value, from which that value is made again
  have hresult : result = value.document := by
    rw [reconverted_of_ofJson hkeys hvalue, ← hholds.document_eq] at h
    exact (Except.ok.inj h).symm
  subst hresult
  rw [reconverted, Value.ofJson_document hdistinct hholds.finite]
  show value.toJson.mapError _ = _
  rw [Value.toJson_eq hdistinct hholds.finite]
  rfl

/-- The conversion of a document fails on null, wherever it occurs, and on nothing else. If it
succeeds, the value can be converted back and rendered, in every layout that fits, as the same
document with the wide integers in it narrowed to the nearest doubles. So exactly the documents without null and wide integers come
back unchanged, and what comes back once comes back again. -/
theorem reconverted_exactly {document : Json} (hkeys : document.DistinctKeys) :
    (∀ fault, Value.ofJson document = .error fault →
      fault.reason = "null is not a filter value") ∧
    ((∃ fault, Value.ofJson document = .error fault) ↔ Json.null.OccursIn document) ∧
    (∀ value, Value.ofJson document = .ok value →
      value.toJson = .ok (document.mapNumbers .narrowed) ∧
      ∀ options : RenderOptions, options.layout.Fits → (options.render value).result
        = .ok ((document.mapNumbers .narrowed).toText options.layout)) ∧
    (∀ number : JsonNumber, ¬number.Wide → number.narrowed = number) ∧
    (∀ number : JsonNumber, number.Wide →
      ∃ value lower upper nearest finite, number = .integer value lower upper ∧
        number.narrowed = .float nearest finite ∧ nearest.IsNearest value.toNat) ∧
    (document.reconverted = .ok document ↔
      ¬Json.null.OccursIn document ∧
      ∀ number, (Json.number number).OccursIn document → ¬number.Wide) ∧
    ∀ result, document.reconverted = .ok result → result.reconverted = .ok result := by
  refine ⟨?_, ?_, ?_, fun _ => JsonNumber.narrowed_of_not_wide,
    fun _ => JsonNumber.narrowed_of_wide, ?_, fun _ => reconverted_again hkeys⟩
  · intro fault h
    rw [(Value.ofJson_eq_error_iff.1 h).1]
    rfl
  · constructor
    · rintro ⟨fault, h⟩
      exact (Value.ofJson_eq_error_iff.1 h).2
    · intro hnull
      exact ⟨.null, Value.ofJson_eq_error_iff.2 ⟨rfl, hnull⟩⟩
  · intro value h
    have hholds : value.Holds document := Value.holds_of_ofJson hkeys h
    have hdistinct : value.DistinctKeys := Value.distinctKeys_of_ofJson h
    have hjson : value.toJson = .ok (document.mapNumbers .narrowed) := by
      rw [Value.toJson_eq hdistinct hholds.finite, hholds.document_eq]
    refine ⟨hjson, fun options hfits => ?_⟩
    refine RenderOptions.result_render_eq_ok_iff.2 ⟨hfits, ?_⟩
    rw [Layout.result_render]
    show ((value.write options.layout 0).map _).mapError _ = _
    rw [Value.write_eq hdistinct, hjson]
    rfl
  · -- without null a value is made, and its document is the same unless a number is replaced
    rw [← exists_ofJson_iff]
    have hnumbers : document.mapNumbers .narrowed = document
        ↔ ∀ number, (Json.number number).OccursIn document → ¬number.Wide := by
      rw [mapNumbers_eq_self_iff]
      simp only [JsonNumber.narrowed_eq_self_iff]
    rw [← hnumbers]
    constructor
    · intro h
      obtain ⟨value, hvalue⟩ := exists_of_reconverted h
      rw [reconverted_of_ofJson hkeys hvalue] at h
      exact ⟨⟨value, hvalue⟩, Except.ok.inj h⟩
    · rintro ⟨⟨value, hvalue⟩, hsame⟩
      rw [reconverted_of_ofJson hkeys hvalue, hsame]

/-- Of the two integers around the bound of the signed words the second one becomes a double. -/
theorem reconverted_exactly_signedBound :
    DistinctKeys (.object [("ids", .array [.number (.ofUInt64 9223372036854775807),
      .number (.ofUInt64 9223372036854775808)])]) ∧
    (∃ value, Value.ofJson (.object [("ids", .array [.number (.ofUInt64 9223372036854775807),
        .number (.ofUInt64 9223372036854775808)])]) = .ok value ∧
      value.toJson = .ok (.object [("ids", .array [.number (.ofUInt64 9223372036854775807),
        .number (.float ⟨0x43E0000000000000⟩ rfl)])])) ∧
    reconverted (.object [("ids", .array [.number (.ofUInt64 9223372036854775807),
      .number (.ofUInt64 9223372036854775808)])])
        ≠ .ok (.object [("ids", .array [.number (.ofUInt64 9223372036854775807),
          .number (.ofUInt64 9223372036854775808)])]) := by
  have hkeys : DistinctKeys (.object [("ids", .array [.number (.ofUInt64 9223372036854775807),
      .number (.ofUInt64 9223372036854775808)])]) :=
    .object (by decide) (by simp [DistinctKeys.array, DistinctKeys.number])
  obtain ⟨-, -, hok, -, -, hsame, -⟩ := reconverted_exactly hkeys
  refine ⟨hkeys, ⟨_, rfl, (hok _ rfl).1.trans (congrArg Except.ok (by decide +kernel))⟩, ?_⟩
  intro h
  refine (hsame.1 h).2 (.ofUInt64 9223372036854775808) ?_ (by decide)
  exact .member (List.mem_singleton_self _) (.item (by simp) .here)

end Json

end QueryFilter
