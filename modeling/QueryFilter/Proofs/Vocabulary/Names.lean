import Mathlib.Tactic.Common
import QueryFilter.Vocabulary.BoolOperator
import QueryFilter.Vocabulary.PropertyType

set_option autoImplicit false

/-!
# Names that are read back

What the vocabulary writes, it also reads: the names of property types, operations and boolean
operators each spell the thing that they name, and nothing else. So two operations never share a key
of a filter object; nor does an operation have the key of an entry that filter objects begin with.
And the names that are made from identifiers come out as the names that filters use.
-/

namespace QueryFilter

/-! ## Tables of spellings -/

theorem lookup_eq_some_of_mem {α : Type} {spellings : List (String × α)} {spelling : String}
    {value : α} (hdistinct : (spellings.map Prod.fst).Nodup) (h : (spelling, value) ∈ spellings) :
    spellings.lookup spelling = some value := by
  obtain ⟨before, after, rfl⟩ := List.append_of_mem h
  refine List.lookup_eq_some_iff.2 ⟨before, after, rfl, fun entry hentry => ?_⟩
  rw [List.map_append, List.nodup_append] at hdistinct
  have hne := hdistinct.2.2 entry.1 (List.mem_map_of_mem hentry) spelling (by simp)
  exact bne_iff_ne.2 hne.symm

/-- The table lists the names of a vocabulary without their underscores, and no two alike; what is
left of a name is lower-case letters. -/
structure Lists {α : Type} (spellings : List (String × α)) (name : α → String) (all : List α) :
    Prop where
  complete : ∀ value, value ∈ all
  eq_map : spellings = all.map fun value => (String.ofList (plainKey (name value)), value)
  distinct : (spellings.map Prod.fst).Nodup
  /-- a name spells itself -/
  looseKey_name : ∀ value, looseKey (name value) = plainKey (name value)
  isLower : ∀ value, (plainKey (name value)).all Char.isLower = true

namespace Lists

variable {α : Type} {spellings : List (String × α)} {name : α → String} {all : List α}

theorem mem (h : Lists spellings name all) (value : α) :
    (String.ofList (plainKey (name value)), value) ∈ spellings := by
  rw [h.eq_map]
  exact List.mem_map_of_mem (h.complete value)

/-- A text is read as the thing whose name it spells. -/
theorem readName_eq_ok_iff (h : Lists spellings name all) {fault : String → NameError}
    {text : String} {value : α} :
    readName spellings fault text = .ok value ↔ looseKey text = plainKey (name value) := by
  constructor
  · intro hread
    have hmem := mem_of_readName_eq_ok hread
    rw [h.eq_map] at hmem
    obtain ⟨found, -, hentry⟩ := List.mem_map.1 hmem
    obtain ⟨hkey, rfl⟩ := Prod.mk.inj hentry
    exact (String.ofList_injective hkey).symm
  · intro hkey
    rw [readName, hkey, lookup_eq_some_of_mem h.distinct (h.mem value)]

/-- No two names are spelled alike. -/
theorem eq_of_plainKey_eq (h : Lists spellings name all) {first second : α}
    (hkey : plainKey (name first) = plainKey (name second)) : first = second := by
  have hfirst := lookup_eq_some_of_mem h.distinct (h.mem first)
  rw [hkey, lookup_eq_some_of_mem h.distinct (h.mem second)] at hfirst
  exact (Option.some.inj hfirst).symm

theorem injective (h : Lists spellings name all) : Function.Injective name :=
  fun _ _ hname => h.eq_of_plainKey_eq (congrArg plainKey hname)

end Lists

/-! ## Property types -/

namespace PropertyType

theorem lists_spellings : Lists spellings name all where
  complete := mem_all
  eq_map := by decide +kernel
  distinct := by simp [spellings]
  looseKey_name type := by cases type <;> decide
  isLower type := by cases type <;> decide +kernel

theorem parse_eq_ok_iff {text : String} {type : PropertyType} :
    parse text = .ok type ↔ looseKey text = plainKey type.name :=
  lists_spellings.readName_eq_ok_iff

theorem parse_name (type : PropertyType) : parse type.name = .ok type :=
  parse_eq_ok_iff.2 (lists_spellings.looseKey_name type)

theorem wireName_eq_name (type : PropertyType) : type.wireName = type.name := by
  cases type <;> rfl

theorem name_injective : Function.Injective name := lists_spellings.injective

end PropertyType

/-! ## Operations -/

namespace Operation

theorem lists_spellings : Lists spellings name all where
  complete := mem_all
  eq_map := by decide +kernel
  distinct := by simp [spellings]
  looseKey_name operation := by cases operation <;> decide
  isLower operation := by cases operation <;> decide +kernel

theorem parse_eq_ok_iff {text : String} {operation : Operation} :
    parse text = .ok operation ↔ looseKey text = plainKey operation.name :=
  lists_spellings.readName_eq_ok_iff

theorem parse_name (operation : Operation) : parse operation.name = .ok operation :=
  parse_eq_ok_iff.2 (lists_spellings.looseKey_name operation)

theorem wireName_eq_name (operation : Operation) : operation.wireName = operation.name := by
  cases operation <;> rfl

theorem name_injective : Function.Injective name := lists_spellings.injective

/-- The keys of the entries that filter objects begin with are free. -/
theorem name_not_mem_begun (operation : Operation) :
    operation.name ∉ ["property", "type", "timestamp"] := by
  cases operation <;> decide

end Operation

/-! ## Boolean operators -/

namespace BoolOperator

theorem lists_spellings : Lists spellings name all where
  complete := mem_all
  eq_map := by decide +kernel
  distinct := by simp [spellings]
  looseKey_name operator := by cases operator <;> decide
  isLower operator := by cases operator <;> decide +kernel

theorem parse_name (operator : BoolOperator) : parse operator.name = .ok operator :=
  lists_spellings.readName_eq_ok_iff.2 (lists_spellings.looseKey_name operator)

theorem wireName_eq_name (operator : BoolOperator) : operator.wireName = operator.name := by
  cases operator <;> rfl

end BoolOperator

end QueryFilter
