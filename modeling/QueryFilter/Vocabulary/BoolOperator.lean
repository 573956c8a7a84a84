import QueryFilter.Vocabulary.Identifier
import QueryFilter.Vocabulary.LooseName

/-!
# Boolean operators

The two operators that join the members of a compound filter. The name of an operator is the key of
the compound.
-/

set_option autoImplicit false

namespace QueryFilter

/-- How the members of a compound filter are joined. -/
inductive BoolOperator where
  | and
  | or
  deriving DecidableEq, Repr, Inhabited

namespace BoolOperator

/-- Both operators, in order. -/
def all : List BoolOperator := [.and, .or]

theorem mem_all (operator : BoolOperator) : operator ∈ all := by
  cases operator <;> decide

/-- The key of a compound filter with this operator. -/
def name : BoolOperator → String
  | .and => "and"
  | .or => "or"

/-- The identifier of an operator. -/
def identifier : BoolOperator → String
  | .and => "And"
  | .or => "Or"

/-- What stands for an operator in a document. -/
def wireName (operator : BoolOperator) : String := lowerCase operator.identifier

/-- The spellings of the operators. -/
def spellings : List (String × BoolOperator) := [("and", .and), ("or", .or)]

/-- The operator that a text spells. -/
def parse (text : String) : Except NameError BoolOperator :=
  readName spellings .boolOperator text

end BoolOperator

end QueryFilter
