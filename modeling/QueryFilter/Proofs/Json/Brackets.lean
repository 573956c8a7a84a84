import Mathlib.Algebra.BigOperators.Group.List.Basic
import QueryFilter.Proofs.Json.Place

set_option autoImplicit false

/-!
# Brackets

Outside of literals each bracket opens or closes a container, and `openContainers` counts how many
are open behind a text. A line is made of pieces, each of which changes that number (`Piece`): keys,
scalars and commas by nothing, brackets by one.
-/

namespace QueryFilter

open Place

/-! ## Counting -/

/-- Does this character begin an array or an object? -/
def isOpening (c : Char) : Bool := c == '[' || c == '\x7b'

/-- Does this character end an array or an object? -/
def isClosing (c : Char) : Bool := c == ']' || c == '\x7d'

theorem eq_of_isOpening {c : Char} (h : isOpening c = true) : c = '[' ∨ c = '\x7b' := by
  simpa [isOpening] using h

theorem eq_of_isClosing {c : Char} (h : isClosing c = true) : c = ']' ∨ c = '\x7d' := by
  simpa [isClosing] using h

/-- By how much a character changes the number of open containers: only outside of literals. -/
def bracketWeight (cell : Place × Char) : Int :=
  if cell.1 ≠ .outside then 0
  else if isOpening cell.2 then 1
  else if isClosing cell.2 then -1
  else 0

/-- No bracket stands in a word. -/
theorem class_of_isWordCharacter {c : Char} (h : JsonToken.isWordCharacter c = true) :
    isOpening c = false ∧ isClosing c = false := by
  refine ⟨Bool.eq_false_iff.2 fun hopening => ?_, Bool.eq_false_iff.2 fun hclosing => ?_⟩
  · rcases eq_of_isOpening hopening with rfl | rfl <;> cases h
  · rcases eq_of_isClosing hclosing with rfl | rfl <;> cases h

/-- How many of the arrays and objects that are opened in a text are not closed in it. -/
def openContainers (text : List Char) : Int := ((outside.scan text).map bracketWeight).sum

theorem openContainers_append {first : List Char} (h : outside.after first = .outside)
    (second : List Char) :
    openContainers (first ++ second) = openContainers first + openContainers second := by
  rw [openContainers, scan_append_of_closed h, List.map_append, List.sum_append]
  rfl

/-- A tight text has no line feed, neither inside of literals nor outside. -/
theorem Tight.oneLine {text : List Char} (h : Tight text) : '\n' ∉ text := by
  intro hmem
  rw [← map_snd_scan outside text] at hmem
  obtain ⟨⟨place, c⟩, hcell, rfl⟩ := List.mem_map.1 hmem
  by_cases hplace : place = .outside
  · cases h.noBlank _ hcell hplace
  · have hcontrol : 0x20 ≤ '\n'.toNat := h.noControl _ hcell hplace
    exact absurd hcontrol (by decide)

/-! ## Pieces of lines -/

/-- A piece of a line, which ends outside of literals and changes the number of open containers by
so many. -/
structure Piece (change : Int) (text : List Char) : Prop where
  closed : outside.after text = .outside
  opened : openContainers text = change
  oneLine : '\n' ∉ text

namespace Piece

variable {text other : List Char} {change change' : Int}

theorem append (h : Piece change text) (h' : Piece change' other) :
    Piece (change + change') (text ++ other) where
  closed := by rw [after_append, h.closed, h'.closed]
  opened := by rw [openContainers_append h.closed, h.opened, h'.opened]
  oneLine hmem := (List.mem_append.1 hmem).elim h.oneLine h'.oneLine

/-- Where no character counts, nothing is opened or closed. -/
theorem openContainers_eq_zero (h : ∀ cell ∈ outside.scan text, bracketWeight cell = 0) :
    openContainers text = 0 := by
  refine List.sum_eq_zero fun weight hweight => ?_
  obtain ⟨cell, hcell, rfl⟩ := List.mem_map.1 hweight
  exact h cell hcell

theorem of_plain (h : ∀ c ∈ text, c ≠ '"' ∧ isOpening c = false ∧ isClosing c = false ∧ c ≠ '\n') :
    Piece 0 text := by
  obtain ⟨hafter, hscan⟩ := scan_of_no_quote fun c hc => (h c hc).1
  refine ⟨hafter, openContainers_eq_zero ?_, fun hmem => (h _ hmem).2.2.2 rfl⟩
  intro cell hcell
  rw [hscan] at hcell
  obtain ⟨c, hc, rfl⟩ := List.mem_map.1 hcell
  obtain ⟨-, hopening, hclosing, -⟩ := h c hc
  simp [bracketWeight, hopening, hclosing]

theorem nil : Piece 0 [] := of_plain (by simp)

theorem spaces (count : Nat) : Piece 0 (List.replicate count ' ') := by
  refine of_plain fun c hc => ?_
  rw [List.eq_of_mem_replicate hc]
  decide

theorem word (h : ∀ c ∈ text, JsonToken.isWordCharacter c = true) : Piece 0 text := by
  refine of_plain fun c hc => ⟨?_, ?_, ?_, ?_⟩
  · rintro rfl
    cases h _ hc
  · exact (class_of_isWordCharacter (h c hc)).1
  · exact (class_of_isWordCharacter (h c hc)).2
  · rintro rfl
    cases h _ hc

/-- The brackets in a literal do not count. -/
theorem quoted (content : List Char) : Piece 0 (QueryFilter.quoted content) := by
  refine ⟨(Tight.quoted content).closed, openContainers_eq_zero fun cell hcell => ?_,
    (Tight.quoted content).oneLine⟩
  rw [scan_quoted] at hcell
  rcases List.mem_cons.1 hcell with rfl | hinside
  · rfl
  rcases List.mem_append.1 hinside with hmem | hlast
  · have hplace := ((Contained.flatMap_escaped content).cells cell hmem).1
    simp [bracketWeight, hplace]
  · rw [List.mem_singleton.1 hlast]
    rfl

theorem opening {c : Char} (h : isOpening c = true) : Piece 1 [c] := by
  rcases eq_of_isOpening h with rfl | rfl
  · exact ⟨rfl, rfl, by decide⟩
  · exact ⟨rfl, rfl, by decide⟩

theorem closing {c : Char} (h : isClosing c = true) : Piece (-1) [c] := by
  rcases eq_of_isClosing h with rfl | rfl
  · exact ⟨rfl, rfl, by decide⟩
  · exact ⟨rfl, rfl, by decide⟩

end Piece

/-! ## Beginnings of lines -/

/-- The text is visible from its first character on, and it does not begin with a closing
bracket. -/
def IsLead (text : List Char) : Prop :=
  ∃ first rest, text = first :: rest ∧ first ≠ ' ' ∧ isClosing first = false

namespace IsLead

theorem append {text : List Char} (h : IsLead text) (more : List Char) : IsLead (text ++ more) := by
  obtain ⟨first, rest, rfl, hspace, hclosing⟩ := h
  exact ⟨first, rest ++ more, rfl, hspace, hclosing⟩

theorem quoted (content : List Char) : IsLead (QueryFilter.quoted content) :=
  ⟨'"', _, rfl, by decide, rfl⟩

theorem word {text : List Char} (hne : text ≠ [])
    (h : ∀ c ∈ text, JsonToken.isWordCharacter c = true) : IsLead text := by
  cases text with
  | nil => exact absurd rfl hne
  | cons first rest =>
      have hfirst := h first List.mem_cons_self
      refine ⟨first, rest, rfl, ?_, (class_of_isWordCharacter hfirst).2⟩
      rintro rfl
      cases hfirst

theorem opening {c : Char} (h : isOpening c = true) : IsLead [c] := by
  rcases eq_of_isOpening h with rfl | rfl
  · exact ⟨_, _, rfl, by decide, rfl⟩
  · exact ⟨_, _, rfl, by decide, rfl⟩

end IsLead

end QueryFilter
