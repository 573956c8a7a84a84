import Mathlib.Data.Finset.Card
import Mathlib.Data.List.Induction
import QueryFilter.OrderedMap

set_option autoImplicit false

/-!
# Runs of an insertion-ordered map

Callers change a map by three kinds of edits: an insertion that gives the replaced value, an
insertion in a chain of calls, and an assignment to the place of a key. The state after a history
of edits is described without the map: the keys are the inserted ones in the order of their first
insertion, and the value of a key is that of the last write to it. `Reflects` states this and what
the next operation answers; `reflects_run` shows it of every run.
-/

namespace QueryFilter

namespace Entries

variable {α : Type}

/-! ## Edits -/

/-- The ways in which a map is changed. -/
inductive EditKind where
  /-- an insertion that gives the replaced value -/
  | exchange
  /-- an insertion in a chain of calls -/
  | insert
  /-- an assignment to the place of a key, if the key has one -/
  | assign
  deriving DecidableEq

/-- A change of a map by a caller. -/
structure Edit (α : Type) where
  kind : EditKind
  key : String
  value : α

/-- The map after an edit. -/
def Edit.apply (edit : Edit α) (entries : Entries α) : Entries α :=
  match edit.kind with
  | .exchange => (exchange edit.key edit.value entries).2
  | .insert => insert edit.key edit.value entries
  | .assign => (assign? edit.key edit.value entries).getD entries

/-- The map after edits in turn. -/
def run (edits : List (Edit α)) (entries : Entries α) : Entries α :=
  edits.foldl (fun entries edit => edit.apply entries) entries

/-- A pair that is collected counts as an insertion. -/
def Edit.ofPair (pair : String × α) : Edit α := ⟨.insert, pair.1, pair.2⟩

/-- Every edit is an insertion, except that an assignment to a key that is not there does
nothing. -/
theorem Edit.apply_eq (edit : Edit α) (entries : Entries α) :
    edit.apply entries
      = if edit.kind = .assign ∧ edit.key ∉ keys entries then entries
        else insert edit.key edit.value entries := by
  obtain ⟨kind, key, value⟩ := edit
  cases kind with
  | exchange => simp [apply, exchange_eq]
  | insert => simp [apply]
  | assign =>
      by_cases h : key ∈ keys entries
      · simp [apply, assign?_eq, h]
      · simp [apply, assign?_eq, h]

theorem run_append (first second : List (Edit α)) (entries : Entries α) :
    run (first ++ second) entries = run second (run first entries) := List.foldl_append

theorem run_append_singleton (history : List (Edit α)) (edit : Edit α) (entries : Entries α) :
    run (history ++ [edit]) entries = edit.apply (run history entries) := List.foldl_append

/-- Collecting pairs is a run of insertions. -/
theorem run_ofPair (pairs : List (String × α)) (entries : Entries α) :
    run (pairs.map Edit.ofPair) entries = insertAll pairs entries := by
  rw [run, List.foldl_map]
  rfl

/-! ## Histories -/

/-- The keys that are inserted, in order. An assignment inserts none. -/
def insertedKeys (history : List (Edit α)) : List String :=
  (history.filter fun edit => edit.kind ≠ .assign).map Edit.key

/-- The value of the last write to a key, in a history that begins with the latest edit. An
assignment writes only if its key has been inserted earlier. -/
def lastWrite? (key : String) : List (Edit α) → Option α
  | [] => none
  | edit :: earlier =>
    if edit.key = key ∧ (edit.kind = .assign → key ∈ insertedKeys earlier) then some edit.value
    else lastWrite? key earlier

/-- What a map is like after a history of edits, and what it answers. -/
structure Reflects (history : List (Edit α)) (entries : Entries α) : Prop where
  keys_nodup : (keys entries).Nodup
  /-- keys stand in the order of their first insertion -/
  keys_eq : keys entries = (insertedKeys history).eraseDups
  length_eq : entries.length = (insertedKeys history).toFinset.card
  get?_eq : ∀ key, get? key entries = lastWrite? key history.reverse
  get?_eq_none : ∀ key, get? key entries = none ↔ key ∉ insertedKeys history
  /-- an insertion gives the value that a look-up gave just before -/
  exchange_fst : ∀ key value, (exchange key value entries).1 = get? key entries
  /-- an assignment finds the keys that are there -/
  isSome_assign? : ∀ key value, (assign? key value entries).isSome = hasKey key entries
  keys_assign? : ∀ key value assigned, assign? key value entries = some assigned →
    keys assigned = keys entries
  get?_assign? : ∀ key value assigned, assign? key value entries = some assigned →
    ∀ other, get? other assigned = if key = other then some value else get? other entries

/-! ## One edit -/

theorem insertedKeys_append_singleton (history : List (Edit α)) (edit : Edit α) :
    insertedKeys (history ++ [edit])
      = if edit.kind = .assign then insertedKeys history
        else insertedKeys history ++ [edit.key] := by
  by_cases h : edit.kind = .assign <;> simp [insertedKeys, h]

/-- The order of edits does not matter for which keys they insert. -/
theorem mem_insertedKeys_reverse {key : String} {history : List (Edit α)} :
    key ∈ insertedKeys history.reverse ↔ key ∈ insertedKeys history := by
  simp [insertedKeys]

theorem lastWrite?_reverse_append_singleton (history : List (Edit α)) (edit : Edit α)
    (key : String) :
    lastWrite? key (history ++ [edit]).reverse
      = if edit.key = key ∧ (edit.kind = .assign → key ∈ insertedKeys history) then
          some edit.value
        else lastWrite? key history.reverse := by
  rw [List.reverse_append, List.reverse_singleton, List.singleton_append, lastWrite?]
  simp only [mem_insertedKeys_reverse]

theorem eraseDups_append_singleton {β : Type} [DecidableEq β] (names : List β) (name : β) :
    (names ++ [name]).eraseDups
      = if name ∈ names then names.eraseDups else names.eraseDups ++ [name] := by
  have hone : [name].eraseDups = [name] := rfl
  rw [List.eraseDups_append]
  by_cases h : name ∈ names <;> simp [List.removeAll, h, hone]

theorem nodup_eraseDups {β : Type} [DecidableEq β] (names : List β) : names.eraseDups.Nodup := by
  induction names using List.reverseRecOn with
  | nil => exact List.nodup_nil
  | append_singleton names name ih =>
      rw [eraseDups_append_singleton]
      split
      · exact ih
      · rename_i hnew
        refine List.nodup_append.2 ⟨ih, List.nodup_singleton name, ?_⟩
        intro first hfirst second hsecond heq
        rw [List.mem_singleton.1 hsecond] at heq
        exact hnew (List.mem_eraseDups.1 (heq ▸ hfirst))

/-- A run from the empty map has the inserted keys, in the order of their first insertion. -/
theorem keys_run (history : List (Edit α)) :
    keys (run history []) = (insertedKeys history).eraseDups := by
  induction history using List.reverseRecOn with
  | nil => rfl
  | append_singleton history edit ih =>
      rw [run_append_singleton, insertedKeys_append_singleton, Edit.apply_eq]
      by_cases hassign : edit.kind = .assign
      · -- an assignment leaves the keys alone, whether it finds its key or not
        rw [if_pos hassign, ← ih]
        by_cases hkey : edit.key ∈ keys (run history [])
        · rw [if_neg fun h => h.2 hkey, keys_insert, if_pos hkey]
        · rw [if_pos ⟨hassign, hkey⟩]
      · rw [if_neg hassign, if_neg fun h => hassign h.1, keys_insert, eraseDups_append_singleton,
          ih]
        simp only [List.mem_eraseDups]

/-- A run from the empty map gives a key the value of the last write to it. -/
theorem get?_run (history : List (Edit α)) (key : String) :
    get? key (run history []) = lastWrite? key history.reverse := by
  induction history using List.reverseRecOn with
  | nil => rfl
  | append_singleton history edit ih =>
      have hmem : ∀ name, name ∈ insertedKeys history ↔ name ∈ keys (run history []) := by
        intro name
        rw [keys_run, List.mem_eraseDups]
      rw [run_append_singleton, lastWrite?_reverse_append_singleton, ← ih, Edit.apply_eq]
      simp only [hmem]
      by_cases hlost : edit.kind = .assign ∧ edit.key ∉ keys (run history [])
      · -- the assignment does not find its key, so it writes nothing
        rw [if_pos hlost, if_neg]
        rintro ⟨rfl, hwrites⟩
        exact hlost.2 (hwrites hlost.1)
      · rw [if_neg hlost, get?_insert]
        by_cases hkey : edit.key = key
        · subst hkey
          rw [if_pos rfl, if_pos ⟨rfl, fun hassign => not_not.1 fun h => hlost ⟨hassign, h⟩⟩]
        · rw [if_neg hkey, if_neg fun h => hkey h.1]

/-- A run from collected pairs, as a single history of edits. -/
theorem run_ofList (pairs : List (String × α)) (edits : List (Edit α)) :
    run edits (ofList pairs) = run (pairs.map Edit.ofPair ++ edits) [] := by
  rw [run_append, run_ofPair]
  rfl

theorem keys_apply_nodup (edit : Edit α) {entries : Entries α} (h : (keys entries).Nodup) :
    (keys (edit.apply entries)).Nodup := by
  rw [Edit.apply_eq]
  split
  · exact h
  · exact keys_insert_nodup h

theorem keys_run_nodup (history : List (Edit α)) {entries : Entries α} (h : (keys entries).Nodup) :
    (keys (run history entries)).Nodup := by
  induction history generalizing entries with
  | nil => exact h
  | cons edit rest ih => exact ih (keys_apply_nodup edit h)

/-- After any run of edits on collected pairs a map reflects its history. -/
theorem reflects_run (pairs : List (String × α)) (edits : List (Edit α)) :
    Reflects (pairs.map Edit.ofPair ++ edits) (run edits (ofList pairs)) := by
  rw [run_ofList]
  generalize pairs.map Edit.ofPair ++ edits = history
  have hnodup : (keys (run history [])).Nodup := keys_run_nodup history List.nodup_nil
  have hassign : ∀ key value assigned, assign? key value (run history []) = some assigned →
      key ∈ keys (run history []) ∧ assigned = insert key value (run history []) := by
    intro key value assigned h
    rw [assign?_eq] at h
    split at h
    · rename_i hkey
      exact ⟨hkey, (Option.some.inj h).symm⟩
    · cases h
  refine ⟨hnodup, keys_run history, ?_, get?_run history, ?_, ?_, ?_, ?_, ?_⟩
  · -- distinct keys are counted by the finite set of what has been inserted
    rw [← length_keys, ← List.toFinset_card_of_nodup hnodup, keys_run]
    congr 1
    ext key
    simp only [List.mem_toFinset, List.mem_eraseDups]
  · intro key
    rw [get?_eq_none_iff, keys_run, List.mem_eraseDups]
  · intro key value
    rw [exchange_eq]
  · intro key value
    rw [assign?_eq, Bool.eq_iff_iff, hasKey_iff]
    by_cases hkey : key ∈ keys (run history []) <;> simp [hkey]
  · intro key value assigned h
    obtain ⟨hkey, rfl⟩ := hassign key value assigned h
    rw [keys_insert, if_pos hkey]
  · intro key value assigned h other
    obtain ⟨-, rfl⟩ := hassign key value assigned h
    exact get?_insert key other value _

end Entries

end QueryFilter
