import QueryFilter.Vocabulary.Identifier
import QueryFilter.Vocabulary.LooseName

/-!
# Operations

The predicates that a filter can put on a property. The name of an operation is the key under which
its value stands in a filter object. Two operations take no value of their own and always hold true.
-/

set_option autoImplicit false

namespace QueryFilter

/-- A predicate on a property. -/
inductive Operation where
  | equals
  | doesNotEqual
  | isEmpty
  | isNotEmpty
  | greaterThan
  | greaterThanOrEqualTo
  | lessThan
  | lessThanOrEqualTo
  | contains
  | doesNotContain
  | startsWith
  | endsWith
  /-- dates only -/
  | after
  /-- dates only -/
  | before
  deriving DecidableEq, Repr, Inhabited

namespace Operation

/-- Every operation, in order. -/
def all : List Operation :=
  [.equals, .doesNotEqual, .isEmpty, .isNotEmpty, .greaterThan, .greaterThanOrEqualTo, .lessThan,
    .lessThanOrEqualTo, .contains, .doesNotContain, .startsWith, .endsWith, .after, .before]

theorem mem_all (operation : Operation) : operation ∈ all := by
  cases operation <;> decide

/-- The key of an operation in a filter object. -/
def name : Operation → String
  | .equals => "equals"
  | .doesNotEqual => "does_not_equal"
  | .isEmpty => "is_empty"
  | .isNotEmpty => "is_not_empty"
  | .greaterThan => "greater_than"
  | .greaterThanOrEqualTo => "greater_than_or_equal_to"
  | .lessThan => "less_than"
  | .lessThanOrEqualTo => "less_than_or_equal_to"
  | .contains => "contains"
  | .doesNotContain => "does_not_contain"
  | .startsWith => "starts_with"
  | .endsWith => "ends_with"
  | .after => "after"
  | .before => "before"

/-- The identifier of an operation. -/
def identifier : Operation → String
  | .equals => "Equals"
  | .doesNotEqual => "DoesNotEqual"
  | .isEmpty => "IsEmpty"
  | .isNotEmpty => "IsNotEmpty"
  | .greaterThan => "GreaterThan"
  | .greaterThanOrEqualTo => "GreaterThanOrEqualTo"
  | .lessThan => "LessThan"
  | .lessThanOrEqualTo => "LessThanOrEqualTo"
  | .contains => "Contains"
  | .doesNotContain => "DoesNotContain"
  | .startsWith => "StartsWith"
  | .endsWith => "EndsWith"
  | .after => "After"
  | .before => "Before"

/-- What stands for an operation in a document. -/
def wireName (operation : Operation) : String := snakeCase operation.identifier

/-- Is the value of the operation always true? -/
def isUnary : Operation → Bool
  | .isEmpty | .isNotEmpty => true
  | _ => false

/-- The spellings of the operations. -/
def spellings : List (String × Operation) :=
  [("equals", .equals), ("doesnotequal", .doesNotEqual), ("isempty", .isEmpty),
    ("isnotempty", .isNotEmpty), ("greaterthan", .greaterThan),
    ("greaterthanorequalto", .greaterThanOrEqualTo), ("lessthan", .lessThan),
    ("lessthanorequalto", .lessThanOrEqualTo), ("contains", .contains),
    ("doesnotcontain", .doesNotContain), ("startswith", .startsWith), ("endswith", .endsWith),
    ("after", .after), ("before", .before)]

/-- The operation that a text spells. -/
def parse (text : String) : Except NameError Operation := readName spellings .operation text

end Operation

end QueryFilter
