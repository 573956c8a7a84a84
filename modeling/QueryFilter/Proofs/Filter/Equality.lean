import QueryFilter.Proofs.Filter.Compound
import QueryFilter.Proofs.Filter.Decoding
import QueryFilter.Proofs.Filter.Rebuilding
import QueryFilter.Proofs.Json.Unambiguous
import QueryFilter.Proofs.Value.Agreement

set_option autoImplicit false

/-!
# Filters that share a text

The text of a filter determines its object at any depth of nesting, and among filters of one variant
the object determines the filter. Agreement of filters goes by their objects, too, but it compares
numbers and not bits. Main statement: `Filter.text_tells_apart`.
-/

namespace QueryFilter

namespace Filter

/-! ## Variants -/

/-- Both filters are of the same variant; typed filters, of the same builder. -/
inductive SameVariant : Filter → Filter → Prop where
  | typed {builder : Builder} (x y : TypedFilter builder) :
      SameVariant (.property (.typed builder x)) (.property (.typed builder y))
  | formula (x y : FormulaFilter) : SameVariant (.property (.formula x)) (.property (.formula y))
  | rollup (x y : RollupFilter) : SameVariant (.property (.rollup x)) (.property (.rollup y))
  | dynamic (x y : DynamicFilter) : SameVariant (.property (.dynamic x)) (.property (.dynamic y))
  | timestamp (x y : TimestampFilter) : SameVariant (.timestamp x) (.timestamp y)
  | compound (x y : CompoundFilter) : SameVariant (.compound x) (.compound y)
  | object (x y : Payload) : SameVariant (.object x) (.object y)

theorem SameVariant.refl : ∀ a : Filter, a.SameVariant a
  | .property (.typed _ filter) => .typed filter filter
  | .property (.formula filter) => .formula filter filter
  | .property (.rollup filter) => .rollup filter filter
  | .property (.dynamic filter) => .dynamic filter filter
  | .timestamp filter => .timestamp filter filter
  | .compound filter => .compound filter filter
  | .object payload => .object payload payload

/-- What a filter knows besides its object: the type of a dynamic filter, or the operator of a
compound. -/
def choice : Filter → Option (PropertyType ⊕ String)
  | .property (.dynamic filter) => some (.inl filter.type)
  | .compound filter => some (.inr filter.operator)
  | _ => none

/-- A filter is its variant, its object and its choice. -/
theorem SameVariant.eq {a b : Filter} (h : a.SameVariant b) (hchoice : a.choice = b.choice)
    (hpayload : a.payload = b.payload) : a = b := by
  cases h with
  | typed x y => exact congrArg (fun payload => Filter.property (.typed _ ⟨payload⟩)) hpayload
  | formula x y => exact congrArg (fun payload => Filter.property (.formula ⟨payload⟩)) hpayload
  | rollup x y => exact congrArg (fun payload => Filter.property (.rollup ⟨payload⟩)) hpayload
  | timestamp x y => exact congrArg (fun payload => Filter.timestamp ⟨payload⟩) hpayload
  | object x y => exact congrArg Filter.object hpayload
  | dynamic x y =>
      obtain ⟨type, payload⟩ := x
      obtain ⟨type', payload'⟩ := y
      obtain rfl : type = type' := Sum.inl.inj (Option.some.inj hchoice)
      obtain rfl : payload = payload' := hpayload
      rfl
  | compound x y =>
      obtain ⟨operator, payload⟩ := x
      obtain ⟨operator', payload'⟩ := y
      obtain rfl : operator = operator' := Sum.inr.inj (Option.some.inj hchoice)
      obtain rfl : payload = payload' := hpayload
      rfl

/-- A dynamic filter carries the name of its type. -/
theorem Built.get?_type {filter : DynamicFilter}
    (built : Filter.Built (.property (.dynamic filter))) :
    filter.payload.get? "type" = some (.text filter.type.name) := by
  obtain ⟨name, entries, hform, -⟩ := built.exists_leaves
  rw [hform]
  rfl

/-- The only key of a compound is its operator. -/
theorem Built.keys_compound {filter : CompoundFilter} (built : Filter.Built (.compound filter)) :
    filter.payload.keys = [filter.operator] := by
  obtain ⟨payloads, hform⟩ := built.isShaped
  rw [hform]
  rfl

/-- What a filter knows besides its object cannot differ from what the object says. -/
theorem Built.choice_eq {a b : Filter} (ha : a.Built) (hb : b.Built) (h : a.SameVariant b)
    (hpayload : a.payload = b.payload) : a.choice = b.choice := by
  cases h with
  | dynamic x y =>
      have hname : (some (.text x.type.name) : Option Value) = some (.text y.type.name) := by
        rw [← ha.get?_type, ← hb.get?_type]
        exact congrArg _ hpayload
      have htype : x.type = y.type :=
        PropertyType.name_injective (Value.text.inj (Option.some.inj hname))
      show some (Sum.inl x.type) = some (Sum.inl y.type)
      rw [htype]
  | compound x y =>
      have hkeys : [x.operator] = [y.operator] := by
        rw [← ha.keys_compound, ← hb.keys_compound]
        exact congrArg Entries.keys hpayload
      show some (Sum.inr x.operator) = some (Sum.inr y.operator)
      rw [(List.cons.inj hkeys).1]
  | typed x y => rfl
  | formula x y => rfl
  | rollup x y => rfl
  | timestamp x y => rfl
  | object x y => rfl

/-! ## Agreement -/

/-- Filters agree if they are of one variant, with the same choice, and their objects agree. -/
theorem agrees_iff {a b : Filter} :
    a.agrees b = true ↔
      a.SameVariant b ∧ a.choice = b.choice ∧ a.payload.agrees b.payload = true := by
  constructor
  · intro h
    unfold agrees at h
    split at h
    · obtain ⟨hbuilder, hpayload⟩ := Bool.and_eq_true_iff.1 h
      obtain rfl := eq_of_beq hbuilder
      exact ⟨.typed _ _, rfl, hpayload⟩
    · exact ⟨.formula _ _, rfl, h⟩
    · exact ⟨.rollup _ _, rfl, h⟩
    · rename_i x y
      obtain ⟨htype, hpayload⟩ := Bool.and_eq_true_iff.1 h
      refine ⟨.dynamic x y, ?_, hpayload⟩
      show some (Sum.inl x.type) = some (Sum.inl y.type)
      rw [eq_of_beq htype]
    · exact ⟨.timestamp _ _, rfl, h⟩
    · rename_i x y
      obtain ⟨hoperator, hpayload⟩ := Bool.and_eq_true_iff.1 h
      refine ⟨.compound x y, ?_, hpayload⟩
      show some (Sum.inr x.operator) = some (Sum.inr y.operator)
      rw [eq_of_beq hoperator]
    · exact ⟨.object _ _, rfl, h⟩
    · cases h
  · rintro ⟨hvariant, hchoice, hpayload⟩
    cases hvariant with
    | typed x y => exact Bool.and_eq_true_iff.2 ⟨beq_self_eq_true _, hpayload⟩
    | formula x y => exact hpayload
    | rollup x y => exact hpayload
    | dynamic x y =>
        have htype : x.type = y.type := Sum.inl.inj (Option.some.inj hchoice)
        exact Bool.and_eq_true_iff.2 ⟨beq_iff_eq.2 htype, hpayload⟩
    | timestamp x y => exact hpayload
    | compound x y =>
        have hoperator : x.operator = y.operator := Sum.inr.inj (Option.some.inj hchoice)
        exact Bool.and_eq_true_iff.2 ⟨beq_iff_eq.2 hoperator, hpayload⟩
    | object x y => exact hpayload

/-- A filter agrees with itself unless it holds a NaN. -/
theorem agrees_self_iff {a : Filter} :
    a.agrees a = true ↔ ∀ number ∈ a.payload.floats, number.isNaN = false := by
  rw [agrees_iff, Payload.agrees_iff]
  constructor
  · rintro ⟨-, -, hnumbers, -⟩
    exact hnumbers
  · intro hnumbers
    exact ⟨.refl a, rfl, hnumbers, rfl⟩

/-! ## Texts -/

/-- Objects that repeat no key and hold finite doubles are the same if their documents are. -/
theorem payload_eq_of_document_eq {x y : Payload} (hx : Value.DistinctKeys (.object x))
    (hy : Value.DistinctKeys (.object y)) (hfinite : ∀ number ∈ x.floats, number.isFinite = true)
    (hfinite' : ∀ number ∈ y.floats, number.isFinite = true)
    (h : Value.document (.object x) = Value.document (.object y)) : x = y := by
  have hback : Value.ofJson (Value.document (.object x)) = .ok (.object x) :=
    Value.ofJson_document hx hfinite
  have hback' : Value.ofJson (Value.document (.object y)) = .ok (.object y) :=
    Value.ofJson_document hy hfinite'
  rw [h, hback'] at hback
  exact (Value.object.inj (Except.ok.inj hback)).symm

/-- Filters whose doubles are finite have texts in a layout that fits, and these are the same exactly
if the objects of the filters are. -/
theorem Built.exists_texts {a b : Filter} (ha : a.Built) (hb : b.Built)
    (hfinite : ∀ number ∈ a.payload.floats, number.isFinite = true)
    (hfinite' : ∀ number ∈ b.payload.floats, number.isFinite = true) {options : RenderOptions}
    (hfits : options.layout.Fits) :
    ∃ text text', (a.toTextWith options).result = .ok text ∧
      (b.toTextWith options).result = .ok text' ∧ (text = text' ↔ a.payload = b.payload) := by
  have hlaid := Payload.result_render_of_finite ha.distinctKeys hfinite options.layout
  have hlaid' := Payload.result_render_of_finite hb.distinctKeys hfinite' options.layout
  refine ⟨_, _, RenderOptions.result_render_eq_ok_iff.2 ⟨hfits, hlaid⟩,
    RenderOptions.result_render_eq_ok_iff.2 ⟨hfits, hlaid'⟩, ?_⟩
  constructor
  · intro htext
    exact payload_eq_of_document_eq ha.distinctKeys hb.distinctKeys hfinite hfinite'
      (Json.toText_injective options.layout htext)
  · intro hpayload
    rw [hpayload]

/-- Two filters that can be written have the same text in a layout that fits exactly if their objects
are identical, down to the order of keys and the bits of doubles; and if they are of one variant, too,
then they are the same filter, and agree. Filters that agree differ at most in the signs of zeros,
so that without a zero they have the same texts; and a filter agrees with itself unless it holds a
NaN. -/
theorem text_tells_apart :
    (∀ a b : Filter, a.Built → b.Built →
      (∀ number ∈ a.payload.floats, number.isFinite = true) →
      (∀ number ∈ b.payload.floats, number.isFinite = true) →
      ∀ options : RenderOptions, options.layout.Fits →
        ∃ text text', (a.toTextWith options).result = .ok text ∧
          (b.toTextWith options).result = .ok text' ∧ (text = text' ↔ a.payload = b.payload) ∧
          (a.SameVariant b → text = text' → a = b ∧ a.agrees b = true)) ∧
    (∀ a b : Filter, a.agrees b = true →
      a.SameVariant b ∧ a.payload.withoutZeroSigns = b.payload.withoutZeroSigns ∧
      ((∀ number ∈ a.payload.floats, number.magnitude ≠ 0) →
        (∀ number ∈ b.payload.floats, number.magnitude ≠ 0) →
        a.payload = b.payload ∧
        ∀ options, (a.toTextWith options).result = (b.toTextWith options).result)) ∧
    ∀ a : Filter, a.agrees a = true ↔ ∀ number ∈ a.payload.floats, number.isNaN = false := by
  refine ⟨?_, ?_, fun a => agrees_self_iff⟩
  · intro a b ha hb hfinite hfinite' options hfits
    obtain ⟨text, text', htext, htext', hiff⟩ := ha.exists_texts hb hfinite hfinite' hfits
    refine ⟨text, text', htext, htext', hiff, fun hvariant hsame => ?_⟩
    have hpayload : a.payload = b.payload := hiff.1 hsame
    obtain rfl : a = b := hvariant.eq (ha.choice_eq hb hvariant hpayload) hpayload
    -- finite numbers are numbers, so the filter agrees with itself
    have hnumbers : ∀ number ∈ a.payload.floats, number.isNaN = false :=
      fun number hnumber => Double.isNaN_of_isFinite (hfinite number hnumber)
    exact ⟨rfl, agrees_self_iff.2 hnumbers⟩
  · intro a b hagrees
    obtain ⟨hvariant, -, hpayloads⟩ := agrees_iff.1 hagrees
    obtain ⟨-, hsigns⟩ := Payload.agrees_iff.1 hpayloads
    refine ⟨hvariant, hsigns, fun hzero hzero' => ?_⟩
    have hpayload : a.payload = b.payload := by
      rw [← Payload.withoutZeroSigns_eq_self hzero, hsigns,
        Payload.withoutZeroSigns_eq_self hzero']
    refine ⟨hpayload, fun options => ?_⟩
    rw [toTextWith, toTextWith, hpayload]

/-- The two zeros make filters that agree and differ in their texts, three levels deep; and a filter
with a NaN does not agree with itself. -/
theorem text_tells_apart_zeros :
    let plus : Filter := .object [("n", .array [.object [("", .float ⟨0⟩)]])]
    let minus : Filter := .object [("n", .array [.object [("", .float ⟨0x8000000000000000⟩)]])]
    let nan : Filter := .object [("n", .float ⟨0x7FF8000000000000⟩)]
    (∃ text text', (plus.toTextWith (.pretty 0)).result = .ok text ∧
      (minus.toTextWith (.pretty 0)).result = .ok text' ∧ text ≠ text') ∧
    (plus.agrees minus = true ∧ plus.payload.withoutZeroSigns = minus.payload.withoutZeroSigns) ∧
    ¬ nan.agrees nan = true := by
  intro plus minus nan
  obtain ⟨htexts, hagree, hself⟩ := text_tells_apart
  have hbuilt : ∀ number : Double,
      Filter.Built (.object [("n", .array [.object [("", .float number)]])]) := by
    intro number
    have hinner : Value.Built (.object [("", .float number)]) :=
      .object (.edit ⟨.insert, "", _⟩ .empty (.float number))
    have hitems : Value.Built (.array [.object [("", .float number)]]) :=
      .array (by simp [hinner])
    exact .object (.edit ⟨.insert, "n", _⟩ .empty hitems)
  have hequal : plus.agrees minus = true := by decide
  refine ⟨?_, ⟨hequal, (hagree plus minus hequal).2.1⟩, ?_⟩
  · obtain ⟨text, text', htext, htext', hiff, -⟩ :=
      htexts plus minus (hbuilt _) (hbuilt _) (by decide) (by decide) (.pretty 0) (by decide)
    refine ⟨text, text', htext, htext', fun hsame => ?_⟩
    have hfloats : plus.payload.floats = minus.payload.floats :=
      congrArg Payload.floats (hiff.1 hsame)
    exact absurd hfloats (by decide)
  · intro hnan
    have hnumber := (hself nan).1 hnan ⟨0x7FF8000000000000⟩ (by decide)
    exact absurd hnumber (by decide)

end Filter

end QueryFilter
