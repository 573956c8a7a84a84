/-!
# Insertion-ordered maps

A map from texts to values is kept as its list of entries, in the order in which the keys were
first inserted. `insert` overwrites the value of a key that is already there without moving it,
and appends a new key. Every map made by these functions has pairwise distinct keys
(`keys_insert_nodup`, `keys_ofList_nodup`).
-/

set_option autoImplicit false

namespace QueryFilter

/-- The entries of an insertion-ordered map, first inserted key first. -/
abbrev Entries (α : Type) : Type := List (String × α)

namespace Entries

variable {α : Type}

/-! ## Operations -/

/-- The keys in order. -/
def keys (entries : Entries α) : List String := entries.map Prod.fst

/-- The value of a key. -/
def get? (key : String) : Entries α → Option α
  | [] => none
  | (first, value) :: rest => if first = key then some value else get? key rest

/-- Is the key present? -/
def hasKey (key : String) (entries : Entries α) : Bool := (get? key entries).isSome

/-- Sets the value of a key: in place if the key is present, else at the end. -/
def insert (key : String) (value : α) : Entries α → Entries α
  | [] => [(key, value)]
  | (first, old) :: rest =>
    if first = key then (first, value) :: rest else (first, old) :: insert key value rest

/-- Sets the value of a key and gives the value that it replaces, in one pass. -/
def exchange (key : String) (value : α) : Entries α → Option α × Entries α
  | [] => (none, [(key, value)])
  | (first, old) :: rest =>
    if first = key then (some old, (first, value) :: rest)
    else
      let (previous, changed) := exchange key value rest
      (previous, (first, old) :: changed)

/-- Assigns to a key that is present; `none` if it is not. -/
def assign? (key : String) (value : α) : Entries α → Option (Entries α)
  | [] => none
  | (first, old) :: rest =>
    if first = key then some ((first, value) :: rest)
    else (assign? key value rest).map ((first, old) :: ·)

/-- Inserts pairs in turn into a map. -/
def insertAll (pairs : List (String × α)) (entries : Entries α) : Entries α :=
  pairs.foldl (fun entries pair => insert pair.1 pair.2 entries) entries

/-- The map got by inserting pairs in turn into the empty map. -/
def ofList (pairs : List (String × α)) : Entries α := insertAll pairs []

/-! ## What the operations do to keys and values -/

theorem keys_cons (entry : String × α) (rest : Entries α) :
    keys (entry :: rest) = entry.1 :: keys rest := rfl

theorem keys_append (first second : Entries α) :
    keys (first ++ second) = keys first ++ keys second := List.map_append

theorem length_keys (entries : Entries α) : (keys entries).length = entries.length :=
  List.length_map _

theorem keys_insert (key : String) (value : α) (entries : Entries α) :
    keys (insert key value entries)
      = if key ∈ keys entries then keys entries else keys entries ++ [key] := by
  induction entries with
  | nil => simp [insert, keys]
  | cons entry rest ih =>
      obtain ⟨first, old⟩ := entry
      by_cases h : first = key
      · simp [insert, keys, h]
      · have h' : ¬ key = first := fun e => h e.symm
        rw [insert, if_neg h, keys_cons, ih, keys_cons]
        by_cases hm : key ∈ keys rest
        · simp [hm]
        · simp [hm, h']

theorem get?_insert (key other : String) (value : α) (entries : Entries α) :
    get? other (insert key value entries)
      = if key = other then some value else get? other entries := by
  induction entries with
  | nil => simp [insert, get?]
  | cons entry rest ih =>
      obtain ⟨first, old⟩ := entry
      by_cases h : first = key
      · subst h
        by_cases h' : first = other <;> simp [insert, get?, h']
      · by_cases h' : first = other
        · subst h'
          simp [insert, get?, h, Ne.symm h]
        · simp [insert, get?, h, h', ih]

/-- One pass does the work of a look-up and an insertion. -/
theorem exchange_eq (key : String) (value : α) (entries : Entries α) :
    exchange key value entries = (get? key entries, insert key value entries) := by
  induction entries with
  | nil => rfl
  | cons entry rest ih =>
      obtain ⟨first, old⟩ := entry
      by_cases h : first = key <;> simp [exchange, get?, insert, h, ih]

theorem keys_insert_nodup {key : String} {value : α} {entries : Entries α}
    (h : (keys entries).Nodup) : (keys (insert key value entries)).Nodup := by
  rw [keys_insert]
  split
  · exact h
  · rename_i hm
    rw [List.nodup_append]
    refine ⟨h, by simp, ?_⟩
    intro a ha b hb hab
    rw [List.mem_singleton] at hb
    exact hm (hb ▸ hab ▸ ha)

theorem keys_insertAll_nodup (pairs : List (String × α)) {entries : Entries α}
    (h : (keys entries).Nodup) : (keys (insertAll pairs entries)).Nodup := by
  induction pairs generalizing entries with
  | nil => exact h
  | cons pair rest ih => exact ih (keys_insert_nodup h)

theorem keys_ofList_nodup (pairs : List (String × α)) : (keys (ofList pairs)).Nodup :=
  keys_insertAll_nodup pairs List.nodup_nil

/-! ## Look-ups -/

theorem get?_eq_none_iff {key : String} {entries : Entries α} :
    get? key entries = none ↔ key ∉ keys entries := by
  induction entries with
  | nil => simp [get?, keys]
  | cons entry rest ih =>
      obtain ⟨first, value⟩ := entry
      rw [keys_cons, List.mem_cons, not_or]
      by_cases h : first = key
      · simp [get?, h]
      · rw [get?, if_neg h, ih]
        exact ⟨fun hrest => ⟨fun e => h e.symm, hrest⟩, fun hboth => hboth.2⟩

theorem hasKey_iff {key : String} {entries : Entries α} :
    hasKey key entries = true ↔ key ∈ keys entries := by
  rw [hasKey, Option.isSome_iff_ne_none, ne_eq, get?_eq_none_iff, Decidable.not_not]

/-- The value that is found stands in an entry. -/
theorem mem_of_get?_eq_some {key : String} {value : α} {entries : Entries α}
    (h : get? key entries = some value) : (key, value) ∈ entries := by
  induction entries with
  | nil => cases h
  | cons entry rest ih =>
      obtain ⟨first, old⟩ := entry
      rw [get?] at h
      split at h
      · rename_i hfirst
        cases h
        exact hfirst ▸ List.mem_cons_self
      · exact List.mem_cons_of_mem _ (ih h)

/-- A map is known by its keys, in order, and what is found under them. -/
theorem eq_of_keys_of_get? {first second : Entries α} (hkeys : keys first = keys second)
    (hnodup : (keys first).Nodup)
    (hget : ∀ key ∈ keys first, get? key first = get? key second) : first = second := by
  induction first generalizing second with
  | nil =>
      cases second with
      | nil => rfl
      | cons entry rest => cases hkeys
  | cons entry rest ih =>
      obtain ⟨key, value⟩ := entry
      cases second with
      | nil => cases hkeys
      | cons entry' rest' =>
          obtain ⟨key', value'⟩ := entry'
          obtain ⟨rfl, hrest⟩ := List.cons.inj hkeys
          obtain ⟨hnew, hlater⟩ := List.nodup_cons.1 hnodup
          have hvalue : value = value' := by
            simpa [get?] using hget key List.mem_cons_self
          have htail : rest = rest' := by
            refine ih hrest hlater fun other hother => ?_
            have hne : ¬ key = other := fun e => hnew (e ▸ hother)
            simpa [get?, hne] using hget other (List.mem_cons_of_mem _ hother)
          rw [hvalue, htail]

/-! ## Insertions and assignments -/

/-- A new key goes to the end. -/
theorem insert_of_not_mem {key : String} (value : α) {entries : Entries α}
    (h : key ∉ keys entries) : insert key value entries = entries ++ [(key, value)] := by
  induction entries with
  | nil => rfl
  | cons entry rest ih =>
      obtain ⟨first, old⟩ := entry
      have hboth : ¬ key = first ∧ key ∉ keys rest := by simpa [keys] using h
      rw [insert, if_neg fun e => hboth.1 e.symm, ih hboth.2, List.cons_append]

/-- Entries with other keys in front are left alone. -/
theorem insert_append_of_not_mem {key : String} (value : α) {first : Entries α}
    (h : key ∉ keys first) (second : Entries α) :
    insert key value (first ++ second) = first ++ insert key value second := by
  induction first with
  | nil => rfl
  | cons entry rest ih =>
      obtain ⟨name, old⟩ := entry
      have hboth : ¬ key = name ∧ key ∉ keys rest := by simpa [keys] using h
      rw [List.cons_append, insert, if_neg fun e => hboth.1 e.symm, ih hboth.2, List.cons_append]

/-- A key that differs from those before it goes behind them, and later keys that differ from it are
still new. -/
theorem insert_of_nodup {key : String} {entries : Entries α} {later : List String}
    (h : (keys entries ++ key :: later).Nodup) (value : α) :
    insert key value entries = entries ++ [(key, value)] ∧
      (keys (insert key value entries) ++ later).Nodup := by
  have hnew : key ∉ keys entries := fun hmem =>
    (List.nodup_append.1 h).2.2 key hmem key List.mem_cons_self rfl
  have hinsert := insert_of_not_mem value hnew
  have hkeys : keys (insert key value entries) ++ later = keys entries ++ key :: later := by
    rw [hinsert, keys_append, List.append_assoc]
    rfl
  exact ⟨hinsert, hkeys ▸ h⟩

/-- What stands in a map after an insertion stood there before or is the new entry. -/
theorem mem_insert {key : String} {value : α} {entries : Entries α} {entry : String × α}
    (h : entry ∈ insert key value entries) : entry = (key, value) ∨ entry ∈ entries := by
  induction entries with
  | nil => exact Or.inl (List.mem_singleton.1 h)
  | cons head rest ih =>
      obtain ⟨first, old⟩ := head
      rw [insert] at h
      split at h
      · rename_i hfirst
        rcases List.mem_cons.1 h with rfl | hrest
        · exact Or.inl (by rw [hfirst])
        · exact Or.inr (List.mem_cons_of_mem _ hrest)
      · rcases List.mem_cons.1 h with rfl | hrest
        · exact Or.inr List.mem_cons_self
        · exact (ih hrest).imp_right (List.mem_cons_of_mem _)

/-- An assignment is an insertion that only takes place if the key is there. -/
theorem assign?_eq (key : String) (value : α) (entries : Entries α) :
    assign? key value entries
      = if key ∈ keys entries then some (insert key value entries) else none := by
  induction entries with
  | nil => simp [assign?, keys]
  | cons entry rest ih =>
      obtain ⟨first, old⟩ := entry
      rw [keys_cons, assign?, insert]
      by_cases h : first = key
      · rw [if_pos h, if_pos h, if_pos (List.mem_cons.2 (Or.inl h.symm))]
      · have h' : ¬ key = first := fun e => h e.symm
        rw [if_neg h, if_neg h, ih]
        by_cases hmem : key ∈ keys rest
        · simp [hmem]
        · simp [hmem, h']

end Entries

end QueryFilter
