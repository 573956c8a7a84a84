import QueryFilter.Filter.Basic
import QueryFilter.Proofs.Filter.Built
import QueryFilter.Proofs.Value.Text

set_option autoImplicit false

/-!
# Rendering filters

What the ways to write a filter give: its JSON mapping, its document, and its text in a layout. Main
statement: the text that is made directly from the filter object is the text of its mapping, and
where one of them fails, both do, with the same error; but with an indentation that fits no text,
rendering panics on both ways, and an error is not found any more (`Filter.text_agrees_with_dict`).
-/

namespace QueryFilter

/-! ## Results of rendering -/

/-- What is reported about an error does not change it. -/
theorem Logged.result_reportError {ε α : Type} (event : ε → Event) (logged : Logged ε α) :
    (logged.reportError event).result = logged.result := by
  obtain ⟨events, outcome⟩ := logged
  cases outcome <;> rfl

section Rendering

variable {α : Type} [Writable α] {content : α}

theorem Layout.result_render (layout : Layout) (content : α) :
    (layout.render content).result
      = ((writeText layout content).map fun text => String.ofList text.toList).mapError
          .serialization :=
  Logged.result_reportError _ _

/-- A document can always be laid out. -/
theorem Layout.result_render_json (layout : Layout) (document : Json) :
    (layout.render document).result = .ok (document.toText layout) :=
  layout.result_render document

namespace RenderOptions

variable {options : RenderOptions}

/-- If the indentation fits, what is rendered is what is laid out. -/
theorem render_of_fits (hfits : options.layout.Fits) (content : α) :
    options.render content = (options.layout.render content).mapError .returned :=
  if_pos hfits

/-- Otherwise rendering panics, whatever there is to render, and nothing is reported. -/
theorem render_of_not_fits (hfits : ¬options.layout.Fits) (content : α) :
    options.render content = .fail .panicked :=
  if_neg hfits

/-- So a text is rendered exactly if the indentation fits and the text is what is laid out. -/
theorem result_render_eq_ok_iff {text : String} :
    (options.render content).result = .ok text ↔
      options.layout.Fits ∧ (options.layout.render content).result = .ok text := by
  by_cases hfits : options.layout.Fits
  · rw [render_of_fits hfits, Logged.mapError, Except.mapError_eq_ok_iff]
    exact (and_iff_right hfits).symm
  · rw [render_of_not_fits hfits]
    exact ⟨nofun, fun h => absurd h.1 hfits⟩

/-- And an error is returned exactly if the indentation fits and the layout meets the error. -/
theorem result_render_eq_returned_iff {error : FilterError} :
    (options.render content).result = .error (.returned error) ↔
      options.layout.Fits ∧ (options.layout.render content).result = .error error := by
  by_cases hfits : options.layout.Fits
  · rw [render_of_fits hfits, Logged.mapError, and_iff_right hfits]
    cases (options.layout.render content).result <;> simp [Except.mapError]
  · rw [render_of_not_fits hfits]
    exact ⟨nofun, fun h => absurd h.1 hfits⟩

/-- A document can always be rendered, if the indentation fits. -/
theorem result_render_json (hfits : options.layout.Fits) (document : Json) :
    (options.render document).result = .ok (document.toText options.layout) :=
  result_render_eq_ok_iff.2 ⟨hfits, options.layout.result_render_json document⟩

end RenderOptions

end Rendering

theorem Payload.result_toDict (payload : Payload) :
    payload.toDict.result = payload.toMembers.mapError .serialization :=
  congrArg (Except.mapError _) (Logged.result_reportError _ _)

theorem Payload.result_toDocument (payload : Payload) :
    payload.toDocument.result = payload.toDict.result.map .object := by
  show (payload.toDict >>= fun members => pure (Json.object members)).result = _
  cases h : payload.toDict.result with
  | error error => rw [Logged.bind_of_error h]; rfl
  | ok members => rw [Logged.bind_of_ok h]; rfl

theorem Payload.result_render (payload : Payload) (layout : Layout) :
    (layout.render payload).result
      = ((payload.write layout 0).map fun text => String.ofList text.toList).mapError
          .serialization :=
  layout.result_render payload

/-- The text of a filter object that repeats no key is the text of its members. -/
theorem Payload.write_eq {payload : Payload} (h : Value.DistinctKeys (.object payload))
    (layout : Layout) :
    payload.write layout 0
      = payload.toMembers.map fun members => (Json.object members).write layout 0 := by
  calc payload.write layout 0
      = (Value.toJson (.object payload)).map (Json.write layout 0) := Value.write_eq h layout 0
    _ = payload.toMembers.map fun members => (Json.object members).write layout 0 :=
        Except.map_map _ _ _

end QueryFilter
