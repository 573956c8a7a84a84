import QueryFilter.Json.Basic
import QueryFilter.Json.Quoted

/-!
# JSON tokens

`tokensOf?` splits a text into the tokens of the JSON grammar: brackets, colons and commas, string
literals, and *words*, which are runs of letters, digits, signs and points. A word has to be one of
the three names or to spell a number. Space, tab, line feed and carriage return separate tokens.
-/

set_option autoImplicit false

namespace QueryFilter

/-- A token of the JSON grammar. -/
inductive JsonToken where
  | openArray
  | closeArray
  | openObject
  | closeObject
  | colon
  | comma
  | null
  | bool (value : Bool)
  | number (value : JsonNumber)
  | string (value : String)
  deriving DecidableEq

namespace JsonToken

/-! ## Single tokens -/

/-- May this character stand between tokens? -/
def isSeparator (character : Char) : Bool :=
  character == ' ' || character == '\t' || character == '\n' || character == '\r'

/-- May this character stand in a word? -/
def isWordCharacter (character : Char) : Bool :=
  character.isAlphanum || character == '+' || character == '-' || character == '.'

/-- The token of a single character. -/
def ofPunctuation? : Char → Option JsonToken
  | '[' => some .openArray
  | ']' => some .closeArray
  | '\x7b' => some .openObject
  | '\x7d' => some .closeObject
  | ':' => some .colon
  | ',' => some .comma
  | _ => none

/-- The token of a word. -/
def ofWord? (word : List Char) : Option JsonToken :=
  if word = ['n', 'u', 'l', 'l'] then some .null
  else if word = ['t', 'r', 'u', 'e'] then some (.bool true)
  else if word = ['f', 'a', 'l', 's', 'e'] then some (.bool false)
  else (JsonNumber.ofText? word).map .number

/-! ## Texts -/

/-- The tokens of a text, if it is made of tokens and separators. -/
def tokensOf? : List Char → Option (List JsonToken)
  | [] => some []
  | character :: rest =>
    if isSeparator character then tokensOf? rest
    else
      match ofPunctuation? character with
      | some token => (tokensOf? rest).map (token :: ·)
      | none =>
        if character = '"' then
          match _h : readQuoted rest with
          | none => none
          | some (content, after) =>
            (tokensOf? after).map (.string (String.ofList content) :: ·)
        else
          -- a word goes on as long as it can, so that its whole spelling is checked at once
          match ofWord? (character :: rest.takeWhile isWordCharacter) with
          | none => none
          | some token => (tokensOf? (rest.dropWhile isWordCharacter)).map (token :: ·)
termination_by text => text.length
decreasing_by
  all_goals first
    | exact Nat.lt_succ_self _
    | exact Nat.lt_succ_of_lt (length_of_readQuoted ‹_›)
    | exact Nat.lt_succ_of_le (List.dropWhile_suffix _).length_le

end JsonToken

end QueryFilter
