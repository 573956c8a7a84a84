import QueryFilter.Proofs.Filter.Operations
import QueryFilter.Script.Recipe

set_option autoImplicit false

/-!
# Chains of formulas and rollups

A formula holds its inner filter one level deep, a rollup two levels deep, and the inner filter may
be a formula or a rollup as well. A `Wrapper` is a formula or a rollup without its inner filter, and
`Payload.walk?` goes from an object to the objects in it along the keys that the wrappers chose.
Main statement: through a chain of wrappers of any length the innermost object is found as it was,
and each wrapper keeps its own name and discriminator unless its key overwrites one of them
(`PropertyFilter.found_through_wrappers`).
-/

namespace QueryFilter

/-! ## Objects in objects -/

/-- The object that is found by going from object to object, one key after the other. -/
def Payload.walk? (payload : Payload) (path : List String) : Option Payload :=
  path.foldlM (fun payload key => (payload.get? key).bind Value.asObject?) payload

theorem Payload.walk?_append (payload : Payload) (first second : List String) :
    payload.walk? (first ++ second)
      = (payload.walk? first).bind fun inner => inner.walk? second := List.foldlM_append

/-- What is found under a key is gone through with the rest of the path. -/
theorem Payload.walk?_cons {payload inner : Payload} {key : String}
    (h : payload.get? key = some (.object inner)) (path : List String) :
    payload.walk? (key :: path) = inner.walk? path := by
  rw [walk?, List.foldlM_cons, h]
  rfl

/-! ## Wrappers -/

/-- A formula or a rollup without its inner filter. -/
inductive Wrapper where
  | formula (property typeName : String)
  | rollup (property aggregation typeName : String)

namespace Wrapper

/-- The filter that holds an inner one. -/
def wrap (inner : PropertyFilter) : Wrapper → PropertyFilter
  | .formula property typeName => .formula (.new property typeName inner)
  | .rollup property aggregation typeName => .rollup (.new property aggregation typeName inner)

/-- The name of the property. -/
def property : Wrapper → String
  | .formula property _ => property
  | .rollup property _ _ => property

/-- What the type of the property is called. -/
def discriminator : Wrapper → String
  | .formula _ _ => "formula"
  | .rollup _ _ _ => "rollup"

/-- The key that comes to the name and the discriminator. -/
def key : Wrapper → String
  | .formula _ typeName => typeName
  | .rollup _ aggregation _ => aggregation

/-- What stands under the key: the inner object, in a rollup one level further down. -/
def nested (inner : Payload) : Wrapper → Payload
  | .formula _ _ => inner
  | .rollup _ _ typeName => [(typeName, .object inner)]

/-- The keys that lead to the inner object, outermost first. -/
def path : Wrapper → List String
  | .formula _ typeName => [typeName]
  | .rollup _ aggregation typeName => [aggregation, typeName]

theorem payload_wrap (wrapper : Wrapper) (inner : PropertyFilter) :
    (wrapper.wrap inner).payload
      = Entries.insert wrapper.key (.object (wrapper.nested inner.payload))
          [("property", .text wrapper.property), ("type", .text wrapper.discriminator)] := by
  cases wrapper with
  | formula property typeName => rfl
  | rollup property aggregation typeName => rfl

theorem walk?_wrap (wrapper : Wrapper) (inner : PropertyFilter) :
    (wrapper.wrap inner).payload.walk? wrapper.path = some inner.payload := by
  have hkey : (wrapper.wrap inner).payload.get? wrapper.key
      = some (.object (wrapper.nested inner.payload)) := by
    rw [payload_wrap, Entries.get?_insert, if_pos rfl]
  cases wrapper with
  | formula property typeName => exact Payload.walk?_cons hkey []
  | rollup property aggregation typeName =>
      have hnested : Entries.get? typeName [(typeName, Value.object inner.payload)]
          = some (.object inner.payload) := if_pos rfl
      exact (Payload.walk?_cons hkey [typeName]).trans (Payload.walk?_cons hnested [])

/-! ## The object of a wrapper -/

/-- What the object of a wrapper is like that holds an inner object. -/
structure Encloses (wrapper : Wrapper) (inner outer : Payload) : Prop where
  walk?_eq : outer.walk? wrapper.path = some inner
  /-- a key of its own goes behind the name and the discriminator -/
  of_apart : wrapper.key ≠ "property" → wrapper.key ≠ "type" →
    outer = [("property", .text wrapper.property), ("type", .text wrapper.discriminator),
      (wrapper.key, .object (wrapper.nested inner))]
  /-- the inner object takes the place of the name -/
  of_property : wrapper.key = "property" →
    outer = [("property", .object (wrapper.nested inner)), ("type", .text wrapper.discriminator)]
  /-- the inner object takes the place of the discriminator -/
  of_type : wrapper.key = "type" →
    outer = [("property", .text wrapper.property), ("type", .object (wrapper.nested inner))]
  /-- the name and the discriminator are both still there only beside a key of its own -/
  survive_iff :
    (outer.get? "property" = some (.text wrapper.property) ∧
      outer.get? "type" = some (.text wrapper.discriminator))
      ↔ wrapper.key ≠ "property" ∧ wrapper.key ≠ "type"

theorem encloses_wrap (wrapper : Wrapper) (inner : PropertyFilter) :
    wrapper.Encloses inner.payload (wrapper.wrap inner).payload := by
  refine ⟨wrapper.walk?_wrap inner, ?_, ?_, ?_, ?_⟩
  · intro hproperty htype
    have hnew : wrapper.key ∉ Entries.keys
        [("property", Value.text wrapper.property), ("type", .text wrapper.discriminator)] := by
      show wrapper.key ∉ ["property", "type"]
      simp [hproperty, htype]
    rw [payload_wrap, Entries.insert_of_not_mem _ hnew]
    rfl
  · intro hproperty
    rw [payload_wrap, hproperty]
    rfl
  · intro htype
    rw [payload_wrap, htype]
    rfl
  · -- an insertion changes what is found under its own key and nothing else
    rw [payload_wrap, Entries.get?_insert, Entries.get?_insert]
    by_cases hproperty : wrapper.key = "property"
    · simp [hproperty]
    by_cases htype : wrapper.key = "type"
    · simp [htype]
    · simp [hproperty, htype, Entries.get?]

end Wrapper

/-! ## Chains -/

/-- The filter that a chain of wrappers holds an inner one in, the first wrapper outermost. -/
def Wrapper.wrapAll (inner : PropertyFilter) (chain : List Wrapper) : PropertyFilter :=
  chain.foldr (fun wrapper held => wrapper.wrap held) inner

theorem Wrapper.wrapAll_cons (inner : PropertyFilter) (wrapper : Wrapper) (rest : List Wrapper) :
    wrapAll inner (wrapper :: rest) = wrapper.wrap (wrapAll inner rest) := rfl

/-- Along the paths of the outer wrappers one comes to what they hold. -/
theorem Wrapper.walk?_wrapAll (inner : PropertyFilter) (outer rest : List Wrapper) :
    (wrapAll inner (outer ++ rest)).payload.walk? (outer.flatMap path)
      = some (wrapAll inner rest).payload := by
  induction outer with
  | nil => rfl
  | cons wrapper outer ih =>
      rw [List.cons_append, wrapAll_cons, List.flatMap_cons, Payload.walk?_append, walk?_wrap]
      exact ih

/-! ## The forms of formulas and rollups -/

/-- The name under which a form of formulas holds an inner filter. -/
def FormulaForm.typeName : FormulaForm → String
  | .named typeName => typeName
  | .string => "string"
  | .number => "number"
  | .checkbox => "checkbox"
  | .date => "date"

/-- The aggregation of a form of rollups. -/
def RollupForm.aggregation : RollupForm → String
  | .named aggregation => aggregation
  | .any => "any"
  | .every => "every"
  | .none => "none"

/-- A form that only takes inner filters of one kind wraps them like any other. -/
theorem FormulaForm.eq_wrap {property : String} {form : FormulaForm} {inner : PropertyFilter}
    {filter : FormulaFilter} (h : form.wrap? property inner = some filter) :
    PropertyFilter.formula filter = (Wrapper.formula property form.typeName).wrap inner := by
  unfold wrap? at h
  split at h
  -- the last case is an inner filter of another kind than the form takes
  case h_6 => cases h
  all_goals
    cases h
    rfl

theorem RollupForm.eq_wrap (property typeName : String) (form : RollupForm)
    (inner : PropertyFilter) :
    PropertyFilter.rollup (form.wrap property typeName inner)
      = (Wrapper.rollup property form.aggregation typeName).wrap inner := by
  cases form <;> rfl

/-! ## Main statement -/

/-- However many formulas and rollups of any form are put around a filter, and whatever their texts
are, the keys that they chose lead to its object as it was. On the way each of them shows its name,
its discriminator and its key, in this order; only a key that is `property` or `type` overwrites
that entry in place. -/
theorem PropertyFilter.found_through_wrappers (filter : PropertyFilter) :
    (∀ chain : List Wrapper,
      (Wrapper.wrapAll filter chain).payload.walk? (chain.flatMap Wrapper.path)
        = some filter.payload) ∧
    (∀ (outer : List Wrapper) (wrapper : Wrapper) (rest : List Wrapper),
      ∃ object, (Wrapper.wrapAll filter (outer ++ wrapper :: rest)).payload.walk?
          (outer.flatMap Wrapper.path) = some object ∧
        wrapper.Encloses (Wrapper.wrapAll filter rest).payload object) ∧
    (∀ (property : String) (form : FormulaForm) (formula : FormulaFilter),
      form.wrap? property filter = some formula →
        .formula formula = (Wrapper.formula property form.typeName).wrap filter) ∧
    ∀ (property typeName : String) (form : RollupForm),
      .rollup (form.wrap property typeName filter)
        = (Wrapper.rollup property form.aggregation typeName).wrap filter := by
  refine ⟨fun chain => ?_, fun outer wrapper rest => ?_, fun _ _ _ => FormulaForm.eq_wrap,
    fun property typeName form => form.eq_wrap property typeName filter⟩
  · have hwalk := Wrapper.walk?_wrapAll filter chain []
    rwa [List.append_nil] at hwalk
  · exact ⟨_, Wrapper.walk?_wrapAll filter outer (wrapper :: rest),
      wrapper.encloses_wrap (Wrapper.wrapAll filter rest)⟩

/-- A rollup whose aggregation is the key of its discriminator, around a formula whose type name is
the key of its name; and a formula that takes number filters only. -/
theorem PropertyFilter.found_through_wrappers_colliding :
    let inner : PropertyFilter := .typed .number ⟨[("equals", .int 5)]⟩
    let chain : List Wrapper := [.rollup "r" "type" "", .formula "f" "property"]
    (Wrapper.wrapAll inner chain).payload.walk? ["type", "", "property"]
        = some [("equals", .int 5)] ∧
      FormulaForm.wrap? "f" .number inner = some (.number "f" ⟨[("equals", .int 5)]⟩) ∧
      PropertyFilter.formula (.number "f" ⟨[("equals", .int 5)]⟩)
        = (Wrapper.formula "f" "number").wrap inner := by
  intro inner chain
  obtain ⟨hchain, -, hformula, -⟩ := PropertyFilter.found_through_wrappers inner
  exact ⟨hchain chain, rfl, hformula "f" .number _ rfl⟩

end QueryFilter
