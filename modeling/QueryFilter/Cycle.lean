/-!
# Cycles

A list read round and round.
-/

set_option autoImplicit false

namespace QueryFilter

variable {α : Type}

/-- Takes so many items from a list that is repeated without end; from an empty list none. -/
def cycled (times : Nat) (items : List α) : List α :=
  (List.replicate (times / items.length + 1) items).flatten.take times

theorem mem_of_mem_cycled {times : Nat} {items : List α} {item : α}
    (h : item ∈ cycled times items) : item ∈ items := by
  obtain ⟨copy, hcopy, hitem⟩ := List.mem_flatten.1 (List.mem_of_mem_take h)
  exact (List.mem_replicate.1 hcopy).2 ▸ hitem

/-- Cuts a list into pieces of the same size; the last one may be shorter, or empty. -/
def pieces (size : Nat) (items : List α) : List (List α) :=
  (List.range (items.length / size + 1)).map fun index => (items.drop (index * size)).take size

theorem mem_of_mem_pieces {size : Nat} {items piece : List α} {item : α}
    (h : piece ∈ pieces size items) (hitem : item ∈ piece) : item ∈ items := by
  obtain ⟨index, -, rfl⟩ := List.mem_map.1 h
  exact List.mem_of_mem_drop (List.mem_of_mem_take hitem)

end QueryFilter
