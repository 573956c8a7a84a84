/-!
# Names made from identifiers

The members of a vocabulary are declared under identifiers in which every word begins with a
capital. The name that stands for a member in a document is made from its identifier, by one of two
rules; it is not looked up among the names that are used in filters.
-/

set_option autoImplicit false

namespace QueryFilter

/-- The words of an identifier in lower case, with underscores between them: every capital but the
first character begins a word. -/
def snakeCase (identifier : String) : String :=
  match identifier.toList with
  | [] => ""
  | first :: rest =>
    String.ofList (first.toLower :: rest.flatMap fun character =>
      if character.isUpper then ['_', character.toLower] else [character])

/-- An identifier in lower case. -/
def lowerCase (identifier : String) : String :=
  String.ofList (identifier.toList.map Char.toLower)

end QueryFilter
