import QueryFilter.Vocabulary.Identifier
import QueryFilter.Vocabulary.Operation

/-!
# Property types

The types that a property of the database can have. The name of a type is the discriminator that a
filter object carries under `type`. `PropertyType.operations` is the capability table: the
operations that a filter on a property of the type may use. Formulas and rollups have none, because
their filters take the predicate from an inner filter.
-/

set_option autoImplicit false

namespace QueryFilter

/-- The type of a property. -/
inductive PropertyType where
  | checkbox
  | date
  | files
  | multiSelect
  | number
  | people
  | relation
  | richText
  | select
  | status
  | uniqueId
  | formula
  | rollup
  deriving DecidableEq, Repr, Inhabited

namespace PropertyType

/-- Every property type, in order. -/
def all : List PropertyType :=
  [.checkbox, .date, .files, .multiSelect, .number, .people, .relation, .richText, .select,
    .status, .uniqueId, .formula, .rollup]

theorem mem_all (type : PropertyType) : type ∈ all := by
  cases type <;> decide

/-- The discriminator of a type in a filter object. -/
def name : PropertyType → String
  | .checkbox => "checkbox"
  | .date => "date"
  | .files => "files"
  | .multiSelect => "multi_select"
  | .number => "number"
  | .people => "people"
  | .relation => "relation"
  | .richText => "rich_text"
  | .select => "select"
  | .status => "status"
  | .uniqueId => "unique_id"
  | .formula => "formula"
  | .rollup => "rollup"

/-- The identifier of a type. -/
def identifier : PropertyType → String
  | .checkbox => "Checkbox"
  | .date => "Date"
  | .files => "Files"
  | .multiSelect => "MultiSelect"
  | .number => "Number"
  | .people => "People"
  | .relation => "Relation"
  | .richText => "RichText"
  | .select => "Select"
  | .status => "Status"
  | .uniqueId => "UniqueId"
  | .formula => "Formula"
  | .rollup => "Rollup"

/-- What stands for a type in a document. -/
def wireName (type : PropertyType) : String := snakeCase type.identifier

/-- The spellings of the types. -/
def spellings : List (String × PropertyType) :=
  [("checkbox", .checkbox), ("date", .date), ("files", .files), ("multiselect", .multiSelect),
    ("number", .number), ("people", .people), ("relation", .relation), ("richtext", .richText),
    ("select", .select), ("status", .status), ("uniqueid", .uniqueId), ("formula", .formula),
    ("rollup", .rollup)]

/-- The type that a text spells. -/
def parse (text : String) : Except NameError PropertyType :=
  readName spellings .propertyType text

/-! ## Capabilities -/

/-- The operations that are legal for a property type. -/
def operations : PropertyType → List Operation
  | .checkbox => [.equals, .doesNotEqual]
  | .date => [.equals, .isEmpty, .isNotEmpty, .after, .before]
  | .files => [.isEmpty, .isNotEmpty]
  | .multiSelect =>
    [.equals, .doesNotEqual, .isEmpty, .isNotEmpty, .contains, .doesNotContain]
  | .number =>
    [.greaterThan, .greaterThanOrEqualTo, .lessThan, .lessThanOrEqualTo, .equals, .doesNotEqual,
      .isEmpty, .isNotEmpty]
  | .people | .relation => [.contains, .doesNotContain, .isEmpty, .isNotEmpty]
  | .richText =>
    [.contains, .doesNotContain, .doesNotEqual, .endsWith, .equals, .startsWith, .isEmpty,
      .isNotEmpty]
  | .select | .status => [.equals, .doesNotEqual, .isEmpty, .isNotEmpty]
  | .uniqueId =>
    [.greaterThan, .greaterThanOrEqualTo, .lessThan, .lessThanOrEqualTo, .equals, .doesNotEqual]
  | .formula | .rollup => []

/-- Is the operation legal for the property type? -/
def supports (type : PropertyType) (operation : Operation) : Bool :=
  type.operations.contains operation

end PropertyType

end QueryFilter
