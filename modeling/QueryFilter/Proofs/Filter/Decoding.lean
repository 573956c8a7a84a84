import QueryFilter.Proofs.Filter.RoundTrip

set_option autoImplicit false

/-!
# Filter objects and their encodings

A filter object is encoded as a JSON document, or as a text in some layout that is read as a
document. Main statement: if its doubles are finite, the filter object comes back from each of its
encodings as it was, constructor by constructor and bit by bit (`Payload.decoded_as_encoded`).
-/

namespace QueryFilter

namespace Payload

variable {payload : Payload}

/-! ## Encodings -/

/-- The document that a filter object is encoded as is the one of its value. -/
theorem result_toDocument_of_finite (h : Value.DistinctKeys (.object payload))
    (hfinite : ∀ number ∈ payload.floats, number.isFinite = true) :
    payload.toDocument.result = .ok (Value.document (.object payload)) := by
  rw [result_toDocument, result_toDict, toMembers_eq h hfinite]
  rfl

/-! ## Decoding -/

/-- Decoding undoes encoding. A filter object whose doubles are finite is encoded as a document that
is converted back to it; and in every layout that fits as a text that is read as such a document,
unless it is nested too deep for the reader. -/
theorem decoded_as_encoded (built : payload.Built)
    (hfinite : ∀ number ∈ payload.floats, number.isFinite = true) :
    (∃ document, payload.toDocument.result = .ok document ∧
      Value.ofJson document = .ok (.object payload)) ∧
    ∀ options : RenderOptions, options.layout.Fits →
      ∃ text, (options.render payload).result = .ok text ∧
        (payload.depth ≤ 127 → ∃ document, Json.ofText? text = some document ∧
          Value.ofJson document = .ok (.object payload)) := by
  have hkeys : Value.DistinctKeys (.object payload) := built.distinctKeys
  have hvalue : Value.ofJson (Value.document (.object payload)) = .ok (.object payload) :=
    Value.ofJson_document hkeys hfinite
  have hdepth : (Value.document (.object payload)).depth = payload.depth :=
    Value.depth_document (.object payload)
  refine ⟨⟨_, result_toDocument_of_finite hkeys hfinite, hvalue⟩, fun options hfits => ?_⟩
  have hlaid := result_render_of_finite hkeys hfinite options.layout
  refine ⟨_, RenderOptions.result_render_eq_ok_iff.2 ⟨hfits, hlaid⟩, fun hle => ⟨_, ?_, hvalue⟩⟩
  -- the text is that of a document of the same depth, so the reader gets to its end
  rw [Json.ofText?_toText (Value.distinctKeys_document hkeys), hdepth]
  exact if_pos hle

/-- The least integer, a double that is a whole number beyond the integers, and minus zero come back
as they were, under keys that stand in no order of their own. -/
theorem decoded_as_encoded_edges :
    let payload : Payload := [("b", .array [.int Int64.minValue, .float ⟨0x43E0000000000000⟩]),
      ("a", .object [("", .float ⟨0x8000000000000000⟩)])]
    (∃ document, payload.toDocument.result = .ok document ∧
      Value.ofJson document = .ok (.object payload)) ∧
    ∃ text document, ((RenderOptions.pretty 2).render payload).result = .ok text ∧
      Json.ofText? text = some document ∧ Value.ofJson document = .ok (.object payload) := by
  intro payload
  have hinner : Value.Built (.object [("", .float ⟨0x8000000000000000⟩)]) :=
    .object (.edit ⟨.insert, "", _⟩ .empty (.float _))
  have hitems : Value.Built (.array [.int Int64.minValue, .float ⟨0x43E0000000000000⟩]) :=
    .array (by simp [Value.Built.int, Value.Built.float])
  have built : payload.Built :=
    .edit ⟨.insert, "a", _⟩ (.edit ⟨.insert, "b", _⟩ .empty hitems) hinner
  obtain ⟨hdocument, htext⟩ := decoded_as_encoded built (by decide)
  obtain ⟨text, hrender, hread⟩ := htext (.pretty 2) (by decide)
  obtain ⟨document, hsome, hvalue⟩ := hread (by decide)
  exact ⟨hdocument, text, document, hrender, hsome, hvalue⟩

end Payload

end QueryFilter
