import QueryFilter.WireForm
import QueryFilter.Proofs.Filter.Rendering
import QueryFilter.Proofs.Json.Reading
import QueryFilter.Proofs.Json.Unambiguous
import QueryFilter.Proofs.Vocabulary.Names

set_option autoImplicit false

/-!
# Exactly the wire forms

The forms of a value, as relations: which documents stand for a name, for a layout, for render
options. Each reader takes a document as a value exactly if the document is one of the forms of the
value, and no other document (`ExactlyDecoded`). What a value is written as is a form of it, so it
is read back; and its text in a layout is the same whatever form it was read from.

Main statement: this holds of names, layouts and render options (`wire_forms_exactly_decoded`).
-/

namespace QueryFilter

/-! ## Forms -/

/-- A document stands for a name: the string, or an object of nothing but a null under the name. -/
inductive Json.Names (name : String) : Json → Prop where
  | string : Names name (.string name)
  | key : Names name (.object [(name, .null)])

/-- A document stands for a layout. Beside the indentation, which is a whole number that fits an
unsigned word, other members may stand. -/
inductive Layout.Form : Layout → Json → Prop where
  | compact {document : Json} (hname : Json.Names "compact" document) : Form .compact document
  | pretty {indent : UInt64} {members : Entries Json} {lower : leastInteger ≤ indent.toNat}
      {upper : indent.toNat < integerBound}
      (hindent : members.get? "indent" = some (.number (.integer indent.toNat lower upper))) :
      Form (.pretty indent) (.object [("pretty", .object members)])

/-- A document stands for render options. Beside the layout, other members may stand, but no other
item. -/
inductive RenderOptions.Form : RenderOptions → Json → Prop where
  | member {layout : Layout} {members : Entries Json} {document : Json}
      (hformat : members.get? "format" = some document) (hlayout : layout.Form document) :
      Form ⟨layout⟩ (.object members)
  | item {layout : Layout} {document : Json} (hlayout : layout.Form document) :
      Form ⟨layout⟩ (.array [document])

/-! ## Exact decoding -/

/-- A reader takes exactly the forms of each value, and what a value is written as stands for it:
in every layout that fits, the text of that document is a canonical text of the value. -/
structure ExactlyDecoded {α : Type} (form : α → Json → Prop) (toDocument : α → Json)
    (ofDocument? : Json → Option α) : Prop where
  decoded_iff : ∀ document value, ofDocument? document = some value ↔ form value document
  rejected_iff : ∀ document, ofDocument? document = none ↔ ∀ value, ¬form value document
  decoded_toDocument : ∀ value, ofDocument? (toDocument value) = some value
  /-- the text of what was read is read as the same value, and belongs to the forms of this value
  and to no others -/
  canonical : ∀ (options : RenderOptions) (document : Json) (value : α), options.layout.Fits →
    ofDocument? document = some value →
      ∃ text, (options.render (toDocument value)).result = .ok text ∧
        (Json.ofText? text).bind ofDocument? = some value ∧
        ∀ other value', ofDocument? other = some value' →
          ((options.render (toDocument value')).result = .ok text ↔ value' = value)

/-- It is enough that the reader takes the forms, and that values are written as forms of them that
can be read from a text. -/
theorem ExactlyDecoded.of_iff {α : Type} {form : α → Json → Prop} {toDocument : α → Json}
    {ofDocument? : Json → Option α}
    (hiff : ∀ document value, ofDocument? document = some value ↔ form value document)
    (hform : ∀ value, form value (toDocument value))
    (hkeys : ∀ value, (toDocument value).DistinctKeys)
    (hdepth : ∀ value, (toDocument value).depth ≤ Json.nestingLimit) :
    ExactlyDecoded form toDocument ofDocument? where
  decoded_iff := hiff
  rejected_iff document := by simp only [Option.eq_none_iff_forall_ne_some, ne_eq, hiff]
  decoded_toDocument value := (hiff _ _).2 (hform value)
  canonical options document value hfits _ := by
    have hread : ∀ value, ofDocument? (toDocument value) = some value :=
      fun value => (hiff _ _).2 (hform value)
    refine ⟨(toDocument value).toText options.layout, RenderOptions.result_render_json hfits _, ?_,
      ?_⟩
    · rw [Json.ofText?_toText (hkeys value), if_pos (hdepth value), Option.bind_some, hread]
    · intro other value' _
      rw [RenderOptions.result_render_json hfits, Except.ok.injEq]
      constructor
      · intro htext
        have hsame : toDocument value' = toDocument value := Json.toText_injective _ htext
        refine Option.some.inj ?_
        calc some value'
            = ofDocument? (toDocument value') := (hread value').symm
          _ = ofDocument? (toDocument value) := congrArg ofDocument? hsame
          _ = some value := hread value
      · rintro rfl
        rfl

theorem Json.DistinctKeys.singleton {key : String} {value : Json} (h : value.DistinctKeys) :
    (Json.object [(key, value)]).DistinctKeys := by
  refine .object (List.nodup_singleton key) fun entry hmem => ?_
  rwa [List.mem_singleton.1 hmem]

/-! ## Names -/

theorem Json.name?_eq_some_iff {document : Json} {name : String} :
    document.name? = some name ↔ Names name document := by
  constructor
  · intro h
    unfold name? at h
    split at h
    · cases h
      exact .string
    · cases h
      exact .key
    · cases h
  · rintro (_ | _)
    · rfl
    · rfl

section Names

variable {α : Type} {spellings : List (String × α)} {name : α → String} {all : List α}

/-- The only candidate with a name is the one that has it. -/
theorem Lists.find?_name_eq_some_iff (h : Lists spellings name all) {text : String} {value : α} :
    all.find? (name · == text) = some value ↔ name value = text := by
  constructor
  · intro hfound
    simpa using List.find?_some hfound
  · rintro rfl
    cases hfound : all.find? (name · == name value) with
    | none => simpa using List.find?_eq_none.1 hfound value (h.complete value)
    | some found =>
        have hname : name found = name value := by simpa using List.find?_some hfound
        rw [h.injective hname]

theorem Lists.ofWireName?_eq_some_iff (h : Lists spellings name all) (document : Json)
    (value : α) :
    ofWireName? name all document = some value ↔ Json.Names (name value) document := by
  simp only [ofWireName?, Option.bind_eq_some_iff, h.find?_name_eq_some_iff,
    exists_eq_right', Json.name?_eq_some_iff]

/-- The names of a vocabulary are decoded exactly, from any document, if the same names are made from
its identifiers. -/
theorem Lists.exactlyDecoded (h : Lists spellings name all) {wireName : α → String}
    (hwire : ∀ value, wireName value = name value) :
    ExactlyDecoded (fun value => Json.Names (name value)) (fun value => .string (wireName value))
      (ofWireName? wireName all) := by
  obtain rfl : wireName = name := funext hwire
  exact .of_iff h.ofWireName?_eq_some_iff (fun _ => .string) (fun _ => .string _)
    fun _ => Nat.zero_le _

end Names

/-! ## Layouts -/

theorem JsonNumber.toUInt64?_eq_some_iff {number : JsonNumber} {word : UInt64} :
    number.toUInt64? = some word ↔ ∃ lower upper, number = .integer word.toNat lower upper := by
  constructor
  · intro h
    cases number with
    | integer value lower upper =>
        simp only [toUInt64?, Option.ite_none_left_eq_some, Option.some.injEq] at h
        obtain ⟨hsign, rfl⟩ := h
        unfold integerBound at upper
        have hfits : value.toNat < 18446744073709551616 := by omega
        have hword : ((UInt64.ofNat value.toNat).toNat : Int) = value := by
          rw [UInt64.toNat_ofNat_of_lt' hfits]
          omega
        simp only [hword, exists_prop, and_true]
        exact ⟨lower, upper⟩
    | float value finite => cases h
  · rintro ⟨lower, upper, rfl⟩
    simp [toUInt64?]

namespace Layout

theorem indentOfMembers?_eq_some_iff {members : Entries Json} {indent : UInt64} :
    indentOfMembers? members = some indent ↔
      ∃ lower upper,
        members.get? "indent" = some (.number (.integer indent.toNat lower upper)) := by
  unfold indentOfMembers?
  split
  · next number hget =>
      simp only [JsonNumber.toUInt64?_eq_some_iff, hget, Option.some.injEq, Json.number.injEq]
  · next hother =>
      simp only [reduceCtorEq, false_iff, not_exists]
      intro lower upper hget
      exact hother _ hget

theorem ofDocument?_eq_some_iff (document : Json) (layout : Layout) :
    ofDocument? document = some layout ↔ layout.Form document := by
  unfold ofDocument?
  split
  · next members =>
      rw [Option.map_eq_some_iff]
      constructor
      · rintro ⟨indent, hindent, rfl⟩
        obtain ⟨lower, upper, hget⟩ := indentOfMembers?_eq_some_iff.1 hindent
        exact .pretty hget
      · rintro (hname | hget)
        · -- the only key of this object stands over no null
          cases Json.name?_eq_some_iff.2 hname
        · exact ⟨_, indentOfMembers?_eq_some_iff.2 ⟨_, _, hget⟩, rfl⟩
  · next hother =>
      rw [Option.ite_none_right_eq_some, Json.name?_eq_some_iff, Option.some_inj]
      constructor
      · rintro ⟨hname, rfl⟩
        exact .compact hname
      · rintro (hname | hget)
        · exact ⟨hname, rfl⟩
        · exact absurd rfl (hother _)

theorem form_toDocument (layout : Layout) : layout.Form layout.toDocument := by
  cases layout with
  | compact => exact .compact .string
  | pretty indent => exact .pretty rfl

theorem distinctKeys_toDocument (layout : Layout) : layout.toDocument.DistinctKeys := by
  cases layout with
  | compact => exact .string _
  | pretty indent => exact .singleton (.singleton (.number _))

theorem depth_toDocument_le (layout : Layout) : layout.toDocument.depth ≤ 2 := by
  cases layout with
  | compact => exact Nat.zero_le 2
  | pretty indent => exact Nat.le_refl 2

/-- Layouts are decoded exactly. -/
theorem exactlyDecoded : ExactlyDecoded Form toDocument ofDocument? :=
  .of_iff ofDocument?_eq_some_iff form_toDocument distinctKeys_toDocument fun layout =>
    (depth_toDocument_le layout).trans (by decide)

end Layout

/-! ## Render options -/

namespace RenderOptions

theorem ofDocument?_eq_some_iff (document : Json) (options : RenderOptions) :
    ofDocument? document = some options ↔ options.Form document := by
  obtain ⟨layout⟩ := options
  unfold ofDocument?
  split
  · next members =>
      simp only [Option.map_eq_some_iff, Option.bind_eq_some_iff, RenderOptions.mk.injEq,
        exists_eq_right, Layout.ofDocument?_eq_some_iff]
      constructor
      · rintro ⟨format, hformat, hlayout⟩
        exact .member hformat hlayout
      · rintro (⟨hformat, hlayout⟩ | _)
        exact ⟨_, hformat, hlayout⟩
  · next item =>
      simp only [Option.map_eq_some_iff, RenderOptions.mk.injEq, exists_eq_right,
        Layout.ofDocument?_eq_some_iff]
      constructor
      · exact .item
      · rintro (_ | hlayout)
        exact hlayout
  · next hobject hitem =>
      constructor
      · rintro ⟨⟩
      · rintro (_ | _)
        · exact absurd rfl (hobject _)
        · exact absurd rfl (hitem _)

theorem form_toDocument (options : RenderOptions) : options.Form options.toDocument :=
  .member rfl options.layout.form_toDocument

theorem distinctKeys_toDocument (options : RenderOptions) : options.toDocument.DistinctKeys :=
  .singleton options.layout.distinctKeys_toDocument

theorem depth_toDocument_le (options : RenderOptions) : options.toDocument.depth ≤ 3 := by
  have hlayout := options.layout.depth_toDocument_le
  simp only [toDocument, Json.depth, Json.depthOfMembers]
  omega

/-- Render options are decoded exactly. -/
theorem exactlyDecoded : ExactlyDecoded Form toDocument ofDocument? :=
  .of_iff ofDocument?_eq_some_iff form_toDocument distinctKeys_toDocument fun options =>
    (depth_toDocument_le options).trans (by decide)

/-- The greatest indentation, beside another member, in the only item of an array. -/
example :
    ofDocument? (.array [.object [("pretty", .object
      [("width", .null), ("indent", .number (.ofUInt64 18446744073709551615))])]])
        = some (pretty 18446744073709551615) :=
  rfl

end RenderOptions

/-! ## All wire forms -/

/-- Names, layouts and render options are decoded from their forms, each form as the value that it
stands for, and from no other document; the text of what was decoded is canonical. A name that
stands in a document is also read as a spelling of the same thing. -/
theorem wire_forms_exactly_decoded :
    (ExactlyDecoded (fun type : PropertyType => Json.Names type.name) PropertyType.toDocument
        PropertyType.ofDocument? ∧
      ∀ type : PropertyType, PropertyType.parse type.name = .ok type) ∧
    (ExactlyDecoded (fun operation : Operation => Json.Names operation.name) Operation.toDocument
        Operation.ofDocument? ∧
      ∀ operation : Operation, Operation.parse operation.name = .ok operation) ∧
    (ExactlyDecoded (fun operator : BoolOperator => Json.Names operator.name)
        BoolOperator.toDocument BoolOperator.ofDocument? ∧
      ∀ operator : BoolOperator, BoolOperator.parse operator.name = .ok operator) ∧
    ExactlyDecoded Layout.Form Layout.toDocument Layout.ofDocument? ∧
    ExactlyDecoded RenderOptions.Form RenderOptions.toDocument RenderOptions.ofDocument? :=
  ⟨⟨PropertyType.lists_spellings.exactlyDecoded PropertyType.wireName_eq_name,
      PropertyType.parse_name⟩,
    ⟨Operation.lists_spellings.exactlyDecoded Operation.wireName_eq_name, Operation.parse_name⟩,
    ⟨BoolOperator.lists_spellings.exactlyDecoded BoolOperator.wireName_eq_name,
      BoolOperator.parse_name⟩,
    Layout.exactlyDecoded, RenderOptions.exactlyDecoded⟩

end QueryFilter
