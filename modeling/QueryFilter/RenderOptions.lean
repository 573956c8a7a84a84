import QueryFilter.Json.Writer
import QueryFilter.Logged
import QueryFilter.Value.Writer

/-!
# Rendering

`RenderOptions` choose the layout of the text that a filter is rendered as. `RenderOptions.render`
renders whatever can be written as JSON and reports an error. The spaces of the indentation are made
first, whatever their number. If there is no text of so many, rendering panics: this is not an error
that is returned, and nothing is reported (`RenderFailure`). Otherwise it is taken for granted that
there is enough memory for what is written.
-/

set_option autoImplicit false

namespace QueryFilter

/-- What can be written as JSON text, unless a number in it is not finite. -/
class Writable (α : Type) where
  /-- The text in a layout. -/
  writeText : Layout → α → Except NonFinite Fragment

export Writable (writeText)

instance : Writable Json := ⟨fun layout document => .ok (document.write layout 0)⟩

instance : Writable Value := ⟨fun layout value => value.write layout 0⟩

instance : Writable Payload := ⟨fun layout payload => payload.write layout 0⟩

/-- The text of something that can be written. An error is reported. -/
def Layout.render {α : Type} [Writable α] (layout : Layout) (content : α) :
    Logged FilterError String :=
  let text := (writeText layout content).map fun text => String.ofList text.toList
  (Logged.ofExcept (text.mapError .serialization)).reportError (.renderingFailed · layout)

/-- How rendering can end without a text. -/
inductive RenderFailure where
  /-- an error is returned -/
  | returned (error : FilterError)
  /-- there is no text for the indentation -/
  | panicked
  deriving DecidableEq, Repr

/-- How a filter is rendered. -/
structure RenderOptions where
  layout : Layout
  deriving DecidableEq, Inhabited

namespace RenderOptions

/-- On one line, without white space. -/
def compact : RenderOptions := ⟨.compact⟩

/-- Nothing is indented on one line. -/
theorem fits_compact : compact.layout.Fits := trivial

/-- One item a line, each level indented by so many spaces. -/
def pretty (indent : UInt64) : RenderOptions := ⟨.pretty indent⟩

/-- The text of something that can be written. The indentation of one level is made first, so that
this panics before anything is written. -/
def render {α : Type} [Writable α] (options : RenderOptions) (content : α) :
    Logged RenderFailure String :=
  if options.layout.Fits then (options.layout.render content).mapError .returned
  else .fail .panicked

end RenderOptions

namespace Payload

/-- The members of a filter object as those of a JSON object. An error is reported. -/
def toDict (payload : Payload) : Logged FilterError (Entries Json) :=
  ((Logged.ofExcept payload.toMembers).reportError .conversionFailed).mapError .serialization

/-- A filter object as a JSON document. An error is reported. -/
def toDocument (payload : Payload) : Logged FilterError Json := .object <$> payload.toDict

end Payload

end QueryFilter
