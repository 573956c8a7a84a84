import QueryFilter.FilterError
import QueryFilter.Json.Reader
import QueryFilter.WireForm

/-!
# Failures of scripts

Scripts describe values, filters and steps by texts and names, so more can go wrong in them than in
the operations that they lead to. A `Failure` is the cause. The readers here go from a text to what
it stands for: the text has to hold a JSON document, and the document has to have the wanted form.
-/

set_option autoImplicit false

namespace QueryFilter

/-- Why a part of a script fails. -/
inductive Failure where
  /-- an operation on a filter fails -/
  | filter (error : FilterError)
  /-- a name is in no vocabulary -/
  | name (error : NameError)
  /-- a text is no JSON document -/
  | malformedText
  /-- a document is not the wire form of what is wanted -/
  | undecodable
  /-- there is no such operation on a filter of this kind -/
  | notCallable
  /-- nothing is kept in a slot -/
  | emptySlot (slot : String)
  /-- there is nothing to choose from -/
  | noChoice
  /-- rendering panics -/
  | panicked
  deriving DecidableEq, Repr

/-- The message of a failure, if it has one. -/
def Failure.message? : Failure → Option String
  | .filter error => some error.message
  | .name error => some error.message
  | .malformedText | .undecodable | .notCallable | .emptySlot _ | .noChoice | .panicked => none

/-- The cause in a script when rendering ends without a text. -/
def Failure.ofRendering : RenderFailure → Failure
  | .returned error => .filter error
  | .panicked => .panicked

/-! ## Readers -/

/-- The document that a text holds. -/
def Json.ofText (text : String) : Except Failure Json :=
  match Json.ofText? text with
  | some document => .ok document
  | none => .error .malformedText

/-- The value of a document. -/
def Value.ofDocument (document : Json) : Except Failure Value :=
  (Value.ofJson document).mapError fun fault => .filter (.invalidValue fault)

/-- Reads a document as the wire form of something. -/
def decodeText {α : Type} (ofDocument? : Json → Option α) (text : String) : Except Failure α := do
  let document ← Json.ofText text
  match ofDocument? document with
  | some decoded => return decoded
  | none => throw .undecodable

/-- How the layout of a text is chosen. -/
inductive LayoutChoice where
  /-- one line -/
  | standard
  /-- one item a line, each level indented by so many spaces -/
  | pretty (indent : UInt64)
  /-- the wire form of render options -/
  | wire (text : String)
  deriving DecidableEq, Repr

/-- The render options of a choice. -/
def LayoutChoice.options : LayoutChoice → Except Failure RenderOptions
  | .standard => .ok .compact
  | .pretty indent => .ok (.pretty indent)
  | .wire text => decodeText RenderOptions.ofDocument? text

/-! ## Wire forms by kind -/

/-- What a wire form can be the form of. -/
inductive WireKind where
  | propertyType
  | operation
  | boolOperator
  | layout
  | renderOptions
  deriving DecidableEq, Repr

/-- The canonical document of what a document holds. -/
def WireKind.canonical? : WireKind → Json → Option Json
  | .propertyType, document => (PropertyType.ofDocument? document).map PropertyType.toDocument
  | .operation, document => (Operation.ofDocument? document).map Operation.toDocument
  | .boolOperator, document => (BoolOperator.ofDocument? document).map BoolOperator.toDocument
  | .layout, document => (Layout.ofDocument? document).map Layout.toDocument
  | .renderOptions, document => (RenderOptions.ofDocument? document).map RenderOptions.toDocument

/-- The canonical text of what a text holds. -/
def WireKind.canonicalText (kind : WireKind) (text : String) : Except Failure String :=
  (decodeText kind.canonical? text).map (Json.toText .compact)

end QueryFilter
