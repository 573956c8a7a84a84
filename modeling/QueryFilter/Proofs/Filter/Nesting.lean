import QueryFilter.Proofs.Filter.Composition
import QueryFilter.Proofs.Filter.Decoding

set_option autoImplicit false

/-!
# Compounds of one member, nested in each other

A filter is wrapped as the only member of a compound, that as the only member of another one, and so
on. Each step puts an object and an array around the filter object, so the reader, which goes no
deeper than `Json.nestingLimit`, gives up at a known step. Main statement: what nesting does to the
object, to its depth and to its text, and how far the text can still be read
(`CompoundFilter.nest_adds_levels`).
-/

namespace QueryFilter

/-! ## Layers -/

namespace Payload

/-- The object that is wrapped in this one: it has a single entry, an array of a single object. -/
def peel? : Payload → Option Payload
  | [(_, .array [.object inner])] => some inner
  | _ => none

/-- Takes off layers, the outermost first. -/
def peelAll? : Nat → Payload → Option Payload
  | 0, payload => some payload
  | layers + 1, payload => (peel? payload).bind (peelAll? layers)

theorem peelAll?_add (first second : Nat) (payload : Payload) :
    payload.peelAll? (first + second) = (payload.peelAll? first).bind (peelAll? second) := by
  induction first generalizing payload with
  | zero => rw [Nat.zero_add, peelAll?, Option.bind_some]
  | succ first ih =>
      rw [Nat.succ_add, peelAll?, peelAll?, Option.bind_assoc]
      congr 1
      exact funext ih

end Payload

namespace CompoundFilter

/-! ## One step -/

/-- The filter as the only member of a compound. -/
def wrap (operator : String) (filter : Filter) : Filter :=
  .compound (compose operator [filter]).value

theorem value_nest_cons (operator : String) (rest : List String) (filter : Filter) :
    (nest (operator :: rest) filter).value = (nest rest (wrap operator filter)).value := rfl

theorem built_wrap {filter : Filter} (built : filter.Built) (operator : String) :
    (wrap operator filter).Built :=
  .compose operator (by simpa using built)

theorem depth_wrap (operator : String) (filter : Filter) :
    (wrap operator filter).payload.depth = filter.payload.depth + 2 := by
  have hdepth : (wrap operator filter).payload.depth
      = max (max filter.payload.depth 0 + 1) 0 + 1 := rfl
  rw [hdepth]
  omega

theorem floats_wrap (operator : String) (filter : Filter) :
    (wrap operator filter).payload.floats = filter.payload.floats := by
  have hfloats : (wrap operator filter).payload.floats = (filter.payload.floats ++ []) ++ [] := rfl
  rw [hfloats, List.append_nil, List.append_nil]

theorem result_toText_wrap (operator : String) {filter : Filter} {text : String}
    (h : filter.toText.result = .ok text) :
    (wrap operator filter).toText.result
      = .ok ("\x7b" ++ Json.literal operator ++ ":[" ++ text ++ "]\x7d") := by
  rw [wrap, result_toText_compose operator (.cons h .nil), String.intercalate_singleton]

/-! ## Runs of steps -/

/-- What stands in front of the innermost text, the outermost operator first. -/
def openings (operators : List String) : String :=
  .join (operators.reverse.map fun operator => "\x7b" ++ Json.literal operator ++ ":[")

/-- What stands behind the innermost text. -/
def closings (count : Nat) : String := .join (List.replicate count "]\x7d")

section Nest

variable (operators : List String) {filter : Filter}

theorem built_nest (built : filter.Built) : (nest operators filter).value.Built := by
  induction operators generalizing filter with
  | nil => exact built
  | cons operator rest ih => exact ih (built_wrap built operator)

theorem depth_nest :
    (nest operators filter).value.payload.depth
      = filter.payload.depth + 2 * operators.length := by
  induction operators generalizing filter with
  | nil => rfl
  | cons operator rest ih =>
      rw [value_nest_cons, ih, depth_wrap, List.length_cons]
      omega

theorem floats_nest :
    (nest operators filter).value.payload.floats = filter.payload.floats := by
  induction operators generalizing filter with
  | nil => rfl
  | cons operator rest ih => rw [value_nest_cons, ih, floats_wrap]

theorem peelAll?_nest :
    (nest operators filter).value.payload.peelAll? operators.length = some filter.payload := by
  induction operators generalizing filter with
  | nil => rfl
  | cons operator rest ih =>
      -- the layer of the first operator is the innermost one, and comes off last
      rw [value_nest_cons, List.length_cons, Payload.peelAll?_add, ih]
      rfl

theorem result_toText_nest {text : String} (h : filter.toText.result = .ok text) :
    (nest operators filter).value.toText.result
      = .ok (openings operators ++ text ++ closings operators.length) := by
  induction operators generalizing filter text with
  | nil =>
      refine h.trans (congrArg Except.ok ?_)
      simp [openings, closings]
  | cons operator rest ih =>
      rw [value_nest_cons, ih (result_toText_wrap operator h)]
      refine congrArg Except.ok ?_
      simp [openings, closings, List.replicate_succ, String.append_assoc]

end Nest

end CompoundFilter

/-! ## Reading back -/

/-- The text of a filter whose doubles are finite is read as its mapping, and exactly if it is not
nested deeper than the reader goes. -/
theorem Filter.exists_text_read_iff {filter : Filter} (built : filter.Built)
    (hfinite : ∀ number ∈ filter.payload.floats, number.isFinite = true) :
    ∃ text members, filter.toText.result = .ok text ∧ filter.toDict.result = .ok members ∧
      ∀ document, Json.ofText? text = some document ↔
        document = .object members ∧ filter.payload.depth ≤ Json.nestingLimit := by
  have hkeys := built.distinctKeys
  have hdict : filter.toDict.result = .ok (Value.documentMembers filter.payload) := by
    rw [result_toDict, Payload.toMembers_eq hkeys hfinite]
    rfl
  refine ⟨_, _, Payload.result_render_of_finite hkeys hfinite .compact, hdict, fun document => ?_⟩
  rw [Json.ofText?_toText (Value.distinctKeys_document hkeys), Value.depth_document]
  show (if filter.payload.depth ≤ Json.nestingLimit
    then some (Json.object (Value.documentMembers filter.payload)) else none) = some document ↔ _
  split
  · rename_i hroom
    simp [hroom, eq_comm]
  · rename_i hdeep
    simp [hdeep]

/-! ## Main statement -/

/-- Nesting a filter in compounds of one member adds two levels for each operator. The text is that
of the filter between the openings and the closings of the compounds, and the object comes back when
the layers are taken off. If the doubles of the filter are finite, the text is read, and as the
mapping of the compound, exactly if all levels together are at most 127. -/
theorem CompoundFilter.nest_adds_levels {filter : Filter} (built : filter.Built)
    (operators : List String) :
    (nest operators filter).value.payload.depth = filter.payload.depth + 2 * operators.length ∧
    (∀ text, filter.toText.result = .ok text →
      (nest operators filter).value.toText.result
        = .ok (openings operators ++ text ++ closings operators.length)) ∧
    (nest operators filter).value.payload.peelAll? operators.length = some filter.payload ∧
    ((∀ number ∈ filter.payload.floats, number.isFinite = true) →
      ∃ text members, (nest operators filter).value.toText.result = .ok text ∧
        (nest operators filter).value.toDict.result = .ok members ∧
        ∀ document, Json.ofText? text = some document ↔
          document = .object members ∧ filter.payload.depth + 2 * operators.length ≤ 127) := by
  refine ⟨depth_nest operators, fun _ => result_toText_nest operators, peelAll?_nest operators, ?_⟩
  intro hfinite
  have hread := Filter.exists_text_read_iff (built_nest operators built)
    (by rwa [floats_nest])
  rwa [depth_nest] at hread

/-- A flat filter is read back through 63 compounds, and not through 64. -/
theorem CompoundFilter.nest_adds_levels_flat :
    let leaf : Filter := .property (.typed .checkbox (.new .checkbox "done"))
    (∃ text document, (nest (List.replicate 63 "or") leaf).value.toText.result = .ok text ∧
      Json.ofText? text = some document) ∧
    ∃ text, (nest (List.replicate 64 "\"") leaf).value.toText.result = .ok text ∧
      Json.ofText? text = none := by
  intro leaf
  have built : leaf.Built := .typed .checkbox "done"
  have hdepth : leaf.payload.depth = 1 := rfl
  have hfinite : ∀ number ∈ leaf.payload.floats, number.isFinite = true := by decide
  constructor
  · obtain ⟨-, -, -, hread⟩ := nest_adds_levels built (List.replicate 63 "or")
    obtain ⟨text, members, htext, -, hiff⟩ := hread hfinite
    exact ⟨text, .object members, htext, (hiff _).2 ⟨rfl, by simp [hdepth]⟩⟩
  · obtain ⟨-, -, -, hread⟩ := nest_adds_levels built (List.replicate 64 "\"")
    obtain ⟨text, members, htext, -, hiff⟩ := hread hfinite
    refine ⟨text, htext, Option.eq_none_iff_forall_ne_some.2 fun document hsome => ?_⟩
    have hroom := ((hiff document).1 hsome).2
    simp [hdepth] at hroom

end QueryFilter
