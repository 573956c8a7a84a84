import QueryFilter.Cycle

/-!
# Samplers

A `Sampler` says what can be drawn when test inputs are chosen at random: its `support` holds of
everything that any choice can give. Chances are left open. Beside the support stands a `cover`, a
finite list of draws in which every choice is taken at least once, though not every combination of
choices; it shows what a long run of draws shows.

Composite samplers mostly pair their parts' covers round and round, so that a cover stays about as
long as the longest part.
-/

set_option autoImplicit false

namespace QueryFilter

/-- What can be drawn, and draws that take every choice. -/
structure Sampler (α : Type) where
  support : α → Prop
  cover : List α
  supported : ∀ draw ∈ cover, support draw

namespace Sampler

variable {α β : Type}

/-! ## Simple samplers -/

/-- One of the given items. -/
def elements (items : List α) : Sampler α := ⟨(· ∈ items), items, fun _ h => h⟩

/-- Anything of a type, represented by some members. -/
def anything (representatives : List α) : Sampler α :=
  ⟨fun _ => True, representatives, fun _ _ => trivial⟩

/-- An integer from a least one up to a bound, which is not reached. -/
def integers (least bound : Int) (representatives : List Int)
    (h : ∀ number ∈ representatives, least ≤ number ∧ number < bound) : Sampler Int :=
  ⟨fun number => least ≤ number ∧ number < bound, representatives, h⟩

/-! ## Composite samplers -/

/-- What a function makes of a draw. -/
def map (f : α → β) (sampler : Sampler α) : Sampler β where
  support result := ∃ draw, sampler.support draw ∧ f draw = result
  cover := sampler.cover.map f
  supported := by
    intro result h
    obtain ⟨draw, hdraw, rfl⟩ := List.mem_map.1 h
    exact ⟨draw, sampler.supported draw hdraw, rfl⟩

/-- A draw of one of the samplers. -/
def oneOf (samplers : List (Sampler α)) : Sampler α where
  support draw := ∃ sampler ∈ samplers, sampler.support draw
  cover := samplers.flatMap cover
  supported := by
    intro draw h
    obtain ⟨sampler, hsampler, hdraw⟩ := List.mem_flatMap.1 h
    exact ⟨sampler, hsampler, sampler.supported draw hdraw⟩

/-- Independent draws of two samplers. -/
def both (first : Sampler α) (second : Sampler β) : Sampler (α × β) where
  support draw := first.support draw.1 ∧ second.support draw.2
  cover :=
    let size := max first.cover.length second.cover.length
    (cycled size first.cover).zip (cycled size second.cover)
  supported := by
    intro draw h
    have hdraw := List.of_mem_zip h
    exact ⟨first.supported _ (mem_of_mem_cycled hdraw.1),
      second.supported _ (mem_of_mem_cycled hdraw.2)⟩

/-- A draw of a sampler that depends on an earlier draw. -/
def dependent (first : Sampler α) (next : α → Sampler β) : Sampler β where
  support result := ∃ draw, first.support draw ∧ (next draw).support result
  cover := first.cover.flatMap fun draw => (next draw).cover
  supported := by
    intro result h
    obtain ⟨draw, hdraw, hresult⟩ := List.mem_flatMap.1 h
    exact ⟨draw, first.supported draw hdraw, (next draw).supported result hresult⟩

/-- Independent draws of two samplers, with every combination in the cover. -/
def combined (first : Sampler α) (second : Sampler β) : Sampler (α × β) :=
  first.dependent fun draw => second.map (draw, ·)

/-- Independent draws, from a least number of them up to a greatest. -/
def lists (least greatest : Nat) (sampler : Sampler α) : Sampler (List α) where
  support draws :=
    least ≤ draws.length ∧ draws.length ≤ greatest ∧ ∀ draw ∈ draws, sampler.support draw
  cover :=
    let ofEveryLength := (List.range (greatest + 1)).map fun length => cycled length sampler.cover
    (ofEveryLength ++ pieces greatest sampler.cover).filter fun draws =>
      decide (least ≤ draws.length ∧ draws.length ≤ greatest)
  supported := by
    intro draws h
    obtain ⟨hmem, hlength⟩ := List.mem_filter.1 h
    have hlength := of_decide_eq_true hlength
    refine ⟨hlength.1, hlength.2, fun draw hdraw => sampler.supported draw ?_⟩
    rcases List.mem_append.1 hmem with hcycled | hpiece
    · obtain ⟨length, -, rfl⟩ := List.mem_map.1 hcycled
      exact mem_of_mem_cycled hdraw
    · exact mem_of_mem_pieces hpiece hdraw

/-- A sampler with containers of its own draws around it, so many deep at most. -/
def nested (contain : Sampler α → Sampler α) (base : Sampler α) : (depth : Nat) → Sampler α
  | 0 => base
  | depth + 1 => oneOf [base, contain (nested contain base depth)]

end Sampler

end QueryFilter
