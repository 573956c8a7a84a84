import QueryFilter.Text.Blank

/-!
# Loose spellings of names

The names of the wire format are written in lower case with underscores. A name is also recognised
without its underscores, with hyphens or blanks anywhere, and in any case of its ASCII letters:
`looseKey` removes what does not matter. Each vocabulary lists the spellings that it knows in a
table, in the form in which `looseKey` leaves them, and `readName` looks a text up there.
-/

set_option autoImplicit false

namespace QueryFilter

/-! ## Spellings -/

/-- Does this character not matter in a spelling? -/
def isNameSeparator (character : Char) : Bool :=
  character == '_' || character == '-' || isBlank character

/-- What matters in a spelling: its other characters, ASCII letters in lower case. -/
def looseKey (text : String) : List Char :=
  (text.toList.filter fun character => !isNameSeparator character).map Char.toLower

/-- A name of the wire format without its underscores. -/
def plainKey (name : String) : List Char := name.toList.filter (· != '_')

/-! ## Reading names -/

/-- A text that names no member of a vocabulary, with the vocabulary that was asked. -/
inductive NameError where
  | propertyType (text : String)
  | operation (text : String)
  | boolOperator (text : String)
  deriving DecidableEq, Repr

/-- The message of a name error; it repeats the text as it was given. -/
def NameError.message : NameError → String
  | .propertyType text => "Invalid PropertyType: " ++ text
  | .operation text => "Invalid Operation: " ++ text
  | .boolOperator text => "Invalid BoolOperator: " ++ text

/-- What a text spells according to a table of spellings. -/
def readName {α : Type} (spellings : List (String × α)) (fault : String → NameError)
    (text : String) : Except NameError α :=
  match spellings.lookup (String.ofList (looseKey text)) with
  | some value => .ok value
  | none => .error (fault text)

/-- What is read stands in the table, behind the spelling of the text. -/
theorem mem_of_readName_eq_ok {α : Type} {spellings : List (String × α)}
    {fault : String → NameError} {text : String} {value : α}
    (h : readName spellings fault text = .ok value) :
    (String.ofList (looseKey text), value) ∈ spellings := by
  unfold readName at h
  split at h
  · rename_i found hlookup
    cases h
    obtain ⟨before, after, rfl, -⟩ := List.lookup_eq_some_iff.1 hlookup
    simp
  · cases h

end QueryFilter
