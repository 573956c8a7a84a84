import QueryFilter.RenderOptions

/-!
# Filters

A filter is a finished or unfinished filter object together with what was chosen when it was begun.
`TypedFilter` is a filter on a property whose type is fixed by its builder; `DynamicFilter` is one
whose type is chosen at run time; formula and rollup filters wrap an inner filter on a property;
timestamp filters look at the page itself; compound filters join filters by an operator. A bare
filter object counts as a filter, too. `Filter.payload` is the filter object in every case.
-/

set_option autoImplicit false

namespace QueryFilter

/-! ## Builders of typed filters -/

/-- The builders of filters on a property with operations of its own. -/
inductive Builder where
  | checkbox
  | date
  | files
  | multiSelect
  | number
  | people
  | relation
  | richText
  | select
  | status
  | uniqueId
  deriving DecidableEq, Repr

namespace Builder

/-- Every builder, in order. -/
def all : List Builder :=
  [.checkbox, .date, .files, .multiSelect, .number, .people, .relation, .richText, .select,
    .status, .uniqueId]

/-- The type of the properties that a builder filters on. -/
def type : Builder → PropertyType
  | .checkbox => .checkbox
  | .date => .date
  | .files => .files
  | .multiSelect => .multiSelect
  | .number => .number
  | .people => .people
  | .relation => .relation
  | .richText => .richText
  | .select => .select
  | .status => .status
  | .uniqueId => .uniqueId

/-- The operations that a builder offers. -/
def operations : Builder → List Operation
  | .checkbox => [.equals, .doesNotEqual]
  | .date => [.equals, .isEmpty, .isNotEmpty, .after, .before]
  | .files => [.isEmpty, .isNotEmpty]
  | .multiSelect =>
    [.equals, .doesNotEqual, .isEmpty, .isNotEmpty, .contains, .doesNotContain]
  | .number =>
    [.greaterThan, .greaterThanOrEqualTo, .lessThan, .lessThanOrEqualTo, .equals, .doesNotEqual,
      .isEmpty, .isNotEmpty]
  | .people => [.contains, .doesNotContain, .isEmpty, .isNotEmpty]
  | .relation => [.contains, .doesNotContain, .isEmpty, .isNotEmpty]
  | .richText =>
    [.contains, .doesNotContain, .doesNotEqual, .endsWith, .equals, .startsWith, .isEmpty,
      .isNotEmpty]
  | .select => [.equals, .doesNotEqual, .isEmpty, .isNotEmpty]
  | .status => [.equals, .doesNotEqual, .isEmpty, .isNotEmpty]
  | .uniqueId =>
    [.greaterThan, .greaterThanOrEqualTo, .lessThan, .lessThanOrEqualTo, .equals, .doesNotEqual]

/-- Does the builder offer the operation? -/
def offers (builder : Builder) (operation : Operation) : Bool :=
  builder.operations.contains operation

/-- The kind of filter that a builder makes. -/
def kind : Builder → String
  | .checkbox => "Checkbox"
  | .date => "Date"
  | .files => "Files"
  | .multiSelect => "MultiSelect"
  | .number => "Number"
  | .people => "People"
  | .relation => "Relation"
  | .richText => "RichText"
  | .select => "Select"
  | .status => "Status"
  | .uniqueId => "UniqueId"

end Builder

/-! ## Kinds of filters -/

/-- A filter on a property of the type of its builder. -/
structure TypedFilter (builder : Builder) where
  payload : Payload

/-- A filter on a property whose type is chosen at run time. -/
structure DynamicFilter where
  type : PropertyType
  payload : Payload

/-- A filter on the computed value of a formula. -/
structure FormulaFilter where
  payload : Payload

/-- A filter on the collected values of a rollup. -/
structure RollupFilter where
  payload : Payload

/-- A filter on the time when a page was created or last edited. -/
structure TimestampFilter where
  payload : Payload

/-- Filters joined by an operator. -/
structure CompoundFilter where
  operator : String
  payload : Payload

/-- A filter that is addressed by the name of a property. Only such filters can be wrapped in a
formula or a rollup. -/
inductive PropertyFilter where
  | typed (builder : Builder) (filter : TypedFilter builder)
  | formula (filter : FormulaFilter)
  | rollup (filter : RollupFilter)
  | dynamic (filter : DynamicFilter)

/-- Any filter. -/
inductive Filter where
  | property (filter : PropertyFilter)
  | timestamp (filter : TimestampFilter)
  | compound (filter : CompoundFilter)
  | object (payload : Payload)

/-! ## Filter objects -/

/-- The object of a filter on a property. -/
def PropertyFilter.payload : PropertyFilter → Payload
  | .typed _ filter => filter.payload
  | .formula filter => filter.payload
  | .rollup filter => filter.payload
  | .dynamic filter => filter.payload

/-- The name of the kind of a filter on a property. -/
def PropertyFilter.kind : PropertyFilter → String
  | .typed builder _ => builder.kind
  | .formula _ => "Formula"
  | .rollup _ => "Rollup"
  | .dynamic _ => "Dynamic"

namespace Filter

/-- The object of a filter. -/
def payload : Filter → Payload
  | .property filter => filter.payload
  | .timestamp filter => filter.payload
  | .compound filter => filter.payload
  | .object payload => payload

/-- The name of the kind of a filter. -/
def kind : Filter → String
  | .property filter => filter.kind
  | .timestamp _ => "Timestamp"
  | .compound _ => "Compound"
  | .object _ => "Object"

/-- Do two filters agree? They have to be of the same kind; then their objects are compared, and the
type of a dynamic filter or the operator of a compound. -/
def agrees : Filter → Filter → Bool
  | .property (.typed builder x), .property (.typed builder' y) =>
    builder == builder' && x.payload.agrees y.payload
  | .property (.formula x), .property (.formula y) => x.payload.agrees y.payload
  | .property (.rollup x), .property (.rollup y) => x.payload.agrees y.payload
  | .property (.dynamic x), .property (.dynamic y) =>
    x.type == y.type && x.payload.agrees y.payload
  | .timestamp x, .timestamp y => x.payload.agrees y.payload
  | .compound x, .compound y => x.operator == y.operator && x.payload.agrees y.payload
  | .object x, .object y => x.agrees y
  | _, _ => false

/-! ## Rendering -/

/-- The JSON mapping of a filter. -/
def toDict (filter : Filter) : Logged FilterError (Entries Json) := filter.payload.toDict

/-- The JSON document of a filter. -/
def toDocument (filter : Filter) : Logged FilterError Json := filter.payload.toDocument

/-- The text of a filter under some options. -/
def toTextWith (filter : Filter) (options : RenderOptions) : Logged RenderFailure String :=
  options.render filter.payload

/-- The text of a filter on one line, for which nothing is indented. -/
def toText (filter : Filter) : Logged FilterError String := Layout.compact.render filter.payload

end Filter

end QueryFilter
