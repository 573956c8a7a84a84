import QueryFilter.Filter.Typed

/-!
# Formula and rollup filters

Both have no operations of their own: they hold a finished filter on a property, a formula under the
type of its result and a rollup two levels deep, under an aggregation and a type.

    formula   property, type, <type name>: inner
    rollup    property, type, <aggregation>: <type name>: inner

Neither name is checked. It is inserted like any key, so that one which equals `property` or `type`
overwrites that entry in place.
-/

set_option autoImplicit false

namespace QueryFilter

/-! ## Formulas -/

namespace FormulaFilter

/-- Holds an inner filter under the name of the formula's type. -/
def new (property typeName : String) (inner : PropertyFilter) : FormulaFilter :=
  ⟨(Payload.ofProperty property .formula).insert typeName (.object inner.payload)⟩

/-- A formula that gives a text. -/
def string (property : String) (inner : TypedFilter .richText) : FormulaFilter :=
  new property "string" (.typed .richText inner)

/-- A formula that gives a number. -/
def number (property : String) (inner : TypedFilter .number) : FormulaFilter :=
  new property "number" (.typed .number inner)

/-- A formula that gives a truth value. -/
def checkbox (property : String) (inner : TypedFilter .checkbox) : FormulaFilter :=
  new property "checkbox" (.typed .checkbox inner)

/-- A formula that gives a date. -/
def date (property : String) (inner : TypedFilter .date) : FormulaFilter :=
  new property "date" (.typed .date inner)

end FormulaFilter

/-! ## Rollups -/

namespace RollupFilter

/-- Holds an inner filter under an aggregation and a type name. -/
def new (property aggregation typeName : String) (inner : PropertyFilter) : RollupFilter :=
  let nested : Payload := Entries.ofList [(typeName, .object inner.payload)]
  ⟨(Payload.ofProperty property .rollup).insert aggregation (.object nested)⟩

/-- Some of the collected items match. -/
def any (property typeName : String) (inner : PropertyFilter) : RollupFilter :=
  new property "any" typeName inner

/-- All of the collected items match. -/
def every (property typeName : String) (inner : PropertyFilter) : RollupFilter :=
  new property "every" typeName inner

/-- None of the collected items matches. -/
def none (property typeName : String) (inner : PropertyFilter) : RollupFilter :=
  new property "none" typeName inner

end RollupFilter

end QueryFilter
