import Mathlib.Tactic.Common
import QueryFilter.Number.Double

set_option autoImplicit false

/-!
# Outcomes of computations that may fail

Laws of `Except` that say when a computation in steps succeeds, and the rule by which writing fails:
on the first double in document order that is not finite, and only then (`FailsOn`). The rule is
put together like the computation, step by step.
-/

namespace QueryFilter

variable {ε ε' α β : Type}

theorem Except.mapError_map (outcome : Except ε α) (f : α → β) (g : ε → ε') :
    (outcome.map f).mapError g = (outcome.mapError g).map f := by
  cases outcome <;> rfl

/-! ## Success -/

theorem Except.map_map {γ : Type} (outcome : Except ε α) (f : α → β) (g : β → γ) :
    (outcome.map f).map g = outcome.map (g ∘ f) := by
  cases outcome <;> rfl

theorem Except.map_eq_ok_iff {f : α → β} {outcome : Except ε α} {result : β} :
    outcome.map f = .ok result ↔ ∃ value, outcome = .ok value ∧ f value = result := by
  cases outcome <;> simp [Except.map]

theorem Except.map_eq_error_iff {f : α → β} {outcome : Except ε α} {error : ε} :
    outcome.map f = .error error ↔ outcome = .error error := by
  cases outcome <;> simp [Except.map]

theorem Except.mapError_eq_ok_iff {f : ε → ε'} {outcome : Except ε α} {result : α} :
    outcome.mapError f = .ok result ↔ outcome = .ok result := by
  cases outcome <;> simp [Except.mapError]

theorem Except.bind_eq_ok_iff {next : α → Except ε β} {outcome : Except ε α} {result : β} :
    outcome >>= next = .ok result ↔ ∃ value, outcome = .ok value ∧ next value = .ok result := by
  cases outcome <;> simp [bind, Except.bind]

/-- A pass over a list succeeds if every single step does. -/
theorem Except.mapM_eq_ok_iff {f : α → Except ε β} {items : List α} {results : List β} :
    items.mapM f = .ok results
      ↔ List.Forall₂ (fun item result => f item = .ok result) items results := by
  induction items generalizing results with
  | nil =>
      constructor
      · rintro ⟨⟩
        exact .nil
      · rintro ⟨⟩
        rfl
  | cons item rest ih =>
      rw [List.mapM_cons, Except.bind_eq_ok_iff]
      constructor
      · rintro ⟨first, hfirst, h⟩
        obtain ⟨others, hothers, hresults⟩ := Except.bind_eq_ok_iff.1 h
        cases hresults
        exact .cons hfirst (ih.1 hothers)
      · rintro (_ | ⟨hfirst, hothers⟩)
        exact ⟨_, hfirst, Except.bind_eq_ok_iff.2 ⟨_, ih.2 hothers, rfl⟩⟩

/-- Single results make a list of results. -/
theorem exists_forall₂ {r : α → β → Prop} {items : List α}
    (h : ∀ item ∈ items, ∃ result, r item result) : ∃ results, List.Forall₂ r items results := by
  induction items with
  | nil => exact ⟨[], .nil⟩
  | cons item rest ih =>
      obtain ⟨hitem, hrest⟩ := List.forall_mem_cons.1 h
      obtain ⟨result, hresult⟩ := hitem
      obtain ⟨results, hresults⟩ := ih hrest
      exact ⟨result :: results, .cons hresult hresults⟩

/-! ## Failure on a number -/

/-- The first double that is not finite. -/
def firstNonFinite? (floats : List Double) : Option Double :=
  floats.find? fun number => !number.isFinite

theorem firstNonFinite?_eq_none_iff {floats : List Double} :
    firstNonFinite? floats = none ↔ ∀ number ∈ floats, number.isFinite = true := by
  simp [firstNonFinite?]

/-- The computation fails on the first of these doubles that is not finite, and succeeds if there
is none. -/
def FailsOn (floats : List Double) (outcome : Except NonFinite α) : Prop :=
  match firstNonFinite? floats with
  | none => ∃ result, outcome = .ok result
  | some number => outcome = .error number.nonFinite

namespace FailsOn

theorem of_ok (result : α) : FailsOn [] (.ok result : Except NonFinite α) := ⟨result, rfl⟩

theorem map {floats : List Double} {outcome : Except NonFinite α} (h : FailsOn floats outcome)
    (f : α → β) : FailsOn floats (outcome.map f) := by
  unfold FailsOn at h ⊢
  split at h
  · obtain ⟨result, rfl⟩ := h
    exact ⟨f result, rfl⟩
  · rw [h]
    rfl

/-- Steps fail one after the other. -/
theorem bind {floats others : List Double} {outcome : Except NonFinite α}
    {next : α → Except NonFinite β} (h : FailsOn floats outcome)
    (hnext : ∀ value, FailsOn others (next value)) :
    FailsOn (floats ++ others) (outcome >>= next) := by
  unfold FailsOn firstNonFinite? at h ⊢
  rw [List.find?_append]
  split at h
  · rename_i hnone
    obtain ⟨value, rfl⟩ := h
    rw [hnone, Option.none_or]
    exact hnext value
  · rename_i number hsome
    rw [hsome, h]
    rfl

theorem ok_of_finite {floats : List Double} {outcome : Except NonFinite α}
    (h : FailsOn floats outcome) (hfinite : ∀ number ∈ floats, number.isFinite = true) :
    ∃ result, outcome = .ok result := by
  rw [FailsOn, firstNonFinite?_eq_none_iff.2 hfinite] at h
  exact h

theorem finite_of_ok {floats : List Double} {result : α}
    (h : FailsOn floats (.ok result : Except NonFinite α)) :
    ∀ number ∈ floats, number.isFinite = true := by
  unfold FailsOn at h
  split at h
  · rename_i hnone
    exact firstNonFinite?_eq_none_iff.1 hnone
  · cases h

end FailsOn

end QueryFilter
