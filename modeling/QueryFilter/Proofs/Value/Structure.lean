import Mathlib.Tactic.Common
import QueryFilter.Proofs.Json.Structure
import QueryFilter.Value.Json

set_option autoImplicit false

/-!
# The structure of filter values

A value is a tree whose leaves are truth values, integers, doubles and texts. This file gives the
induction principle of these trees and three ways to look at them: how deep containers are nested
(`Value.depth`), which doubles occur in document order (`Value.floats`), and whether some object
repeats a key (`Value.DistinctKeys`).
-/

namespace QueryFilter

namespace Value

/-- To show something of every value, one may assume it of the items of an array and of the
values in an object. -/
@[elab_as_elim, induction_eliminator]
theorem induction {motive : Value → Prop}
    (bool : ∀ flag, motive (.bool flag)) (int : ∀ number, motive (.int number))
    (float : ∀ number, motive (.float number)) (text : ∀ content, motive (.text content))
    (array : ∀ items, (∀ item ∈ items, motive item) → motive (.array items))
    (object : ∀ entries, (∀ entry ∈ entries, motive entry.2) → motive (.object entries)) :
    ∀ value, motive value
  | .bool flag => bool flag
  | .int number => int number
  | .float number => float number
  | .text content => text content
  | .array items => array items fun item _ => induction bool int float text array object item
  | .object entries =>
    object entries fun entry _ => induction bool int float text array object entry.2
termination_by value => sizeOf value
decreasing_by
  · rename_i hmem
    have hlt := List.sizeOf_lt_of_mem hmem
    simp only [Value.array.sizeOf_spec]
    omega
  · rename_i hmem
    have hlt := List.sizeOf_lt_of_mem hmem
    obtain ⟨key, value⟩ := entry
    simp only [Prod.mk.sizeOf_spec] at hlt
    simp only [Value.object.sizeOf_spec]
    omega

/-! ## Nesting depth -/

mutual

/-- The nesting depth: scalars have none, and a container one more than the deepest thing in it. -/
def depth : Value → Nat
  | .array items => depthOfItems items + 1
  | .object entries => depthOfEntries entries + 1
  | _ => 0

/-- The depth of the deepest item. -/
def depthOfItems : List Value → Nat
  | [] => 0
  | item :: rest => max (depth item) (depthOfItems rest)

/-- The depth of the deepest value in an object. -/
def depthOfEntries : List (String × Value) → Nat
  | [] => 0
  | (_, value) :: rest => max (depth value) (depthOfEntries rest)

end

/-! ## Doubles -/

mutual

/-- The doubles in a value, in document order: items by their index, entries by the order of their
keys, and everything in one of them before the next. -/
def floats : Value → List Double
  | .float number => [number]
  | .array items => floatsOfItems items
  | .object entries => floatsOfEntries entries
  | _ => []

/-- The doubles in items. -/
def floatsOfItems : List Value → List Double
  | [] => []
  | item :: rest => floats item ++ floatsOfItems rest

/-- The doubles in the entries of an object. -/
def floatsOfEntries : List (String × Value) → List Double
  | [] => []
  | (_, value) :: rest => floats value ++ floatsOfEntries rest

end

theorem mem_floats_array {items : List Value} {number : Double} :
    number ∈ floats (.array items) ↔ ∃ item ∈ items, number ∈ item.floats := by
  rw [floats]
  induction items with
  | nil => simp [floatsOfItems]
  | cons first rest ih => simp [floatsOfItems, ih]

theorem mem_floats_object {entries : Payload} {number : Double} :
    number ∈ floats (.object entries) ↔ ∃ entry ∈ entries, number ∈ entry.2.floats := by
  rw [floats]
  induction entries with
  | nil => simp [floatsOfEntries]
  | cons first rest ih => simp [floatsOfEntries, ih]

theorem mem_floats_of_mem_items {items : List Value} {item : Value} (hmem : item ∈ items)
    {number : Double} (h : number ∈ item.floats) : number ∈ floats (.array items) :=
  mem_floats_array.2 ⟨item, hmem, h⟩

theorem mem_floats_of_mem_entries {entries : Payload} {entry : String × Value}
    (hmem : entry ∈ entries) {number : Double} (h : number ∈ entry.2.floats) :
    number ∈ floats (.object entries) :=
  mem_floats_object.2 ⟨entry, hmem, h⟩

/-! ## Distinct keys -/

/-- No object in the value, at any depth, repeats a key. -/
inductive DistinctKeys : Value → Prop where
  | bool (flag : Bool) : DistinctKeys (.bool flag)
  | int (number : Int64) : DistinctKeys (.int number)
  | float (number : Double) : DistinctKeys (.float number)
  | text (content : String) : DistinctKeys (.text content)
  | array {items : List Value} (hitems : ∀ item ∈ items, DistinctKeys item) :
      DistinctKeys (.array items)
  | object {entries : Payload} (hkeys : entries.keys.Nodup)
      (hvalues : ∀ entry ∈ entries, DistinctKeys entry.2) : DistinctKeys (.object entries)

namespace DistinctKeys

theorem of_mem_items {items : List Value} {item : Value} (h : DistinctKeys (.array items))
    (hmem : item ∈ items) : item.DistinctKeys := by
  cases h with
  | array hitems => exact hitems item hmem

theorem of_mem_entries {entries : Payload} {entry : String × Value}
    (h : DistinctKeys (.object entries)) (hmem : entry ∈ entries) : entry.2.DistinctKeys := by
  cases h with
  | object _ hvalues => exact hvalues entry hmem

theorem keys_nodup {entries : Payload} (h : DistinctKeys (.object entries)) :
    entries.keys.Nodup := by
  cases h with
  | object hkeys _ => exact hkeys

theorem empty : DistinctKeys (.object []) := object List.nodup_nil (by simp)

/-- Insertions keep the keys of an object distinct. -/
theorem insert {entries : Payload} {value : Value} (h : DistinctKeys (.object entries))
    (key : String) (hvalue : value.DistinctKeys) :
    DistinctKeys (.object (entries.insert key value)) := by
  refine object (Entries.keys_insert_nodup h.keys_nodup) fun entry hentry => ?_
  rcases Entries.mem_insert hentry with rfl | hmem
  · exact hvalue
  · exact h.of_mem_entries hmem

theorem insertAll {entries : Payload} (pairs : List (String × Value))
    (h : DistinctKeys (.object entries)) (hpairs : ∀ pair ∈ pairs, pair.2.DistinctKeys) :
    DistinctKeys (.object (entries.insertAll pairs)) := by
  induction pairs generalizing entries with
  | nil => exact h
  | cons pair rest ih =>
      obtain ⟨hpair, hrest⟩ := List.forall_mem_cons.1 hpairs
      exact ih (h.insert pair.1 hpair) hrest

end DistinctKeys

end Value

namespace Payload

/-- The nesting depth of a filter object. -/
def depth (payload : Payload) : Nat := Value.depth (.object payload)

/-- The doubles in a filter object, in document order. -/
def floats (payload : Payload) : List Double := Value.floats (.object payload)

end Payload

end QueryFilter
