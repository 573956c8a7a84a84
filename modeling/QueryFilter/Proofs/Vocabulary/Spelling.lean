import Mathlib
import QueryFilter.Filter.Dynamic
import QueryFilter.Proofs.Vocabulary.Names

set_option autoImplicit false

/-!
# Loose spellings are told apart from other texts

A text is read as a name of a vocabulary if it spells that name, and refused otherwise. Edits that
put in or take out separators, or change the case of a letter, make no difference to what a text
spells (`looseKey_eq_of_respelled`); any other character makes it unreadable. Main statement: this
holds of all three vocabularies, and a filter whose type is given by a loose spelling is the filter
on the type that is meant (`names_read_loosely`).
-/

namespace QueryFilter

/-! ## Edits of a spelling -/

/-- An edit that makes no difference to what a text spells. -/
inductive Respelled : String → String → Prop where
  | insert {before after : List Char} {c : Char} (h : isNameSeparator c = true) :
      Respelled (.ofList (before ++ after)) (.ofList (before ++ c :: after))
  | delete {before after : List Char} {c : Char} (h : isNameSeparator c = true) :
      Respelled (.ofList (before ++ c :: after)) (.ofList (before ++ after))
  /-- a letter is written in lower case -/
  | lower (before after : List Char) (c : Char) :
      Respelled (.ofList (before ++ c :: after)) (.ofList (before ++ c.toLower :: after))
  /-- a letter is written in upper case -/
  | upper (before after : List Char) (c : Char) :
      Respelled (.ofList (before ++ c :: after)) (.ofList (before ++ c.toUpper :: after))

theorem isNameSeparator_of_isAlpha {c : Char} (h : c.isAlpha = true) :
    isNameSeparator c = false := by
  have hrange : 65 ≤ c.toNat ∧ c.toNat ≤ 90 ∨ 97 ≤ c.toNat ∧ c.toNat ≤ 122 := by
    simpa [Char.isAlpha, Char.isUpper, Char.isLower, UInt32.le_iff_toNat_le] using h
  have hunderscore : c ≠ '_' := by
    rintro rfl
    exact absurd h (by decide)
  have hhyphen : c ≠ '-' := by
    rintro rfl
    exact absurd h (by decide)
  have hblank : isBlank c = false := by
    simp only [isBlank, blankRanges, List.any_cons, List.any_nil, Bool.or_false,
      Bool.or_eq_false_iff, Bool.and_eq_false_iff, decide_eq_false_iff_not]
    omega
  simp [isNameSeparator, hunderscore, hhyphen, hblank]

/-- Characters that differ in their case only are separators both or neither. -/
theorem isNameSeparator_eq_of_toLower_eq {c d : Char} (halpha : c.isAlpha = d.isAlpha)
    (hlower : c.toLower = d.toLower) : isNameSeparator c = isNameSeparator d := by
  cases hletter : d.isAlpha with
  | true =>
      rw [isNameSeparator_of_isAlpha (halpha.trans hletter), isNameSeparator_of_isAlpha hletter]
  | false =>
      -- what is no letter has no case, so the characters are the same
      rw [hletter] at halpha
      have hc : ¬c.isUpper = true := fun h => by simp [Char.isAlpha, h] at halpha
      have hd : ¬d.isUpper = true := fun h => by simp [Char.isAlpha, h] at hletter
      rw [Char.toLower_eq_of_not_isUpper hc, Char.toLower_eq_of_not_isUpper hd] at hlower
      rw [hlower]

theorem looseKey_insert {c : Char} (h : isNameSeparator c = true) (before after : List Char) :
    looseKey (.ofList (before ++ c :: after)) = looseKey (.ofList (before ++ after)) := by
  rw [looseKey, looseKey, String.toList_ofList, String.toList_ofList]
  simp [h]

theorem looseKey_recase {c d : Char} (halpha : c.isAlpha = d.isAlpha)
    (hlower : c.toLower = d.toLower) (before after : List Char) :
    looseKey (.ofList (before ++ c :: after)) = looseKey (.ofList (before ++ d :: after)) := by
  have hseparator := isNameSeparator_eq_of_toLower_eq halpha hlower
  cases h : isNameSeparator d with
  | true => rw [looseKey_insert (hseparator.trans h), looseKey_insert h]
  | false =>
      rw [looseKey, looseKey, String.toList_ofList, String.toList_ofList]
      simp [hseparator, h, hlower]

/-- An edit leaves alone what matters in a spelling. -/
theorem Respelled.looseKey_eq {text text' : String} (h : Respelled text text') :
    looseKey text = looseKey text' := by
  cases h with
  | insert h => exact (looseKey_insert h _ _).symm
  | delete h => exact looseKey_insert h _ _
  | lower before after c => exact looseKey_recase (by simp) (by simp) before after
  | upper before after c => exact looseKey_recase (by simp) (by simp) before after

/-- And so does any run of edits. -/
theorem looseKey_eq_of_respelled {text text' : String}
    (h : Relation.ReflTransGen Respelled text text') : looseKey text = looseKey text' := by
  induction h with
  | refl => rfl
  | tail _ hlast ih => exact ih.trans hlast.looseKey_eq

/-! ## Vocabularies -/

/-- A vocabulary reads every loose spelling of its names, and nothing else. -/
structure ReadsLoosely {α : Type} (label : String) (name : α → String)
    (parse : String → Except NameError α) : Prop where
  /-- a text is read as the thing whose name it spells -/
  eq_ok_iff : ∀ text value, parse text = .ok value ↔ looseKey text = plainKey (name value)
  /-- a text spells one name at most -/
  unambiguous : ∀ text first second, looseKey text = plainKey (name first) →
    looseKey text = plainKey (name second) → first = second
  /-- any other text is refused, and the message repeats it as it was given -/
  refused : ∀ text, (∀ value, looseKey text ≠ plainKey (name value)) →
    ∃ error, parse text = .error error ∧ error.message = "Invalid " ++ label ++ ": " ++ text
  /-- names are read back -/
  name : ∀ value, parse (name value) = .ok value
  /-- edits change neither whether a text is read nor what it is read as -/
  respelled : ∀ text text', Relation.ReflTransGen Respelled text text' →
    (parse text).toOption = (parse text').toOption
  /-- a text with a character that is neither an ASCII letter nor a separator is refused -/
  letters : ∀ text, ∀ c ∈ text.toList, c.isAlpha = false → isNameSeparator c = false →
    (parse text).toOption = none

theorem readName_eq_error_iff {α : Type} {spellings : List (String × α)}
    {fault : String → NameError} {text : String} {error : NameError} :
    readName spellings fault text = .error error ↔
      error = fault text ∧ ∀ value, readName spellings fault text ≠ .ok value := by
  unfold readName
  cases spellings.lookup (String.ofList (looseKey text)) with
  | none => simp [eq_comm]
  | some value => simp

/-- What is left of a readable text is lower-case letters, so it held nothing but letters and
separators. -/
theorem Lists.isAlpha_of_looseKey_eq {α : Type} {spellings : List (String × α)} {name : α → String}
    {all : List α} (h : Lists spellings name all) {text : String} {value : α}
    (hkey : looseKey text = plainKey (name value)) {c : Char} (hmem : c ∈ text.toList)
    (hseparator : isNameSeparator c = false) : c.isAlpha = true := by
  have hleft : c.toLower ∈ looseKey text :=
    List.mem_map_of_mem (List.mem_filter.2 ⟨hmem, by simp [hseparator]⟩)
  have hlower := List.all_eq_true.1 (h.isLower value) _ (hkey ▸ hleft)
  rwa [Char.isLower_toLower_eq_isAlpha] at hlower

/-- A vocabulary whose table lists its names is read loosely. -/
theorem Lists.readsLoosely {α : Type} {spellings : List (String × α)} {name : α → String}
    {all : List α} (h : Lists spellings name all) {fault : String → NameError} {label : String}
    (hmessage : ∀ text, (fault text).message = "Invalid " ++ label ++ ": " ++ text) :
    ReadsLoosely label name (readName spellings fault) where
  eq_ok_iff _ _ := h.readName_eq_ok_iff
  unambiguous _ _ _ hfirst hsecond := h.eq_of_plainKey_eq (hfirst.symm.trans hsecond)
  refused text hnone := by
    refine ⟨fault text, readName_eq_error_iff.2 ⟨rfl, fun value hread => ?_⟩, hmessage text⟩
    exact hnone value (h.readName_eq_ok_iff.1 hread)
  name value := h.readName_eq_ok_iff.2 (h.looseKey_name value)
  respelled text text' hedits := by
    rw [readName, readName, looseKey_eq_of_respelled hedits]
    cases spellings.lookup (String.ofList (looseKey text')) with
    | none => rfl
    | some value => rfl
  letters text c hmem hletter hseparator := by
    cases hread : readName spellings fault text with
    | error error => rfl
    | ok value =>
        have halpha := h.isAlpha_of_looseKey_eq (h.readName_eq_ok_iff.1 hread) hmem hseparator
        rw [hletter] at halpha
        cases halpha

/-! ## Main statement -/

/-- Property types, operations and boolean operators are read from every loose spelling of their
names and from nothing else. A dynamic filter can be begun with such a spelling of its type; it is
the filter on the type that is meant, and holds the name of that type. -/
theorem names_read_loosely :
    ReadsLoosely "PropertyType" PropertyType.name PropertyType.parse ∧
    ReadsLoosely "Operation" Operation.name Operation.parse ∧
    ReadsLoosely "BoolOperator" BoolOperator.name BoolOperator.parse ∧
    ∀ property typeName,
      (∃ type, PropertyType.parse typeName = .ok type ∧
        DynamicFilter.ofTypeName property typeName = .ok (.new property type) ∧
        (DynamicFilter.new property type).payload.get? "type" = some (.text type.name)) ∨
      ∃ error, PropertyType.parse typeName = .error error ∧
        DynamicFilter.ofTypeName property typeName = .error (.invalidValue (.name error)) := by
  refine ⟨PropertyType.lists_spellings.readsLoosely fun _ => rfl,
    Operation.lists_spellings.readsLoosely fun _ => rfl,
    BoolOperator.lists_spellings.readsLoosely fun _ => rfl, fun property typeName => ?_⟩
  cases hparse : PropertyType.parse typeName with
  | ok type => exact Or.inl ⟨type, rfl, by rw [DynamicFilter.ofTypeName, hparse], rfl⟩
  | error error => exact Or.inr ⟨error, rfl, by rw [DynamicFilter.ofTypeName, hparse]⟩

/-- Wide blanks and capitals make no difference, but the Kelvin sign is not the letter `k`. -/
theorem names_read_loosely_kelvin :
    PropertyType.parse "\u3000Multi--SELECT_" = .ok .multiSelect ∧
    (PropertyType.parse "chec\u212Abox").toOption = none := by
  obtain ⟨htypes, -⟩ := names_read_loosely
  refine ⟨(htypes.eq_ok_iff _ _).2 (by decide), ?_⟩
  exact htypes.letters _ '\u212A' (by decide) (by decide) (by decide)

end QueryFilter
