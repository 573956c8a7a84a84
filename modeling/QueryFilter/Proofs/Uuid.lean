import Mathlib.Data.List.Basic
import Mathlib.Tactic.Common
import QueryFilter.Proofs.Text.Places
import QueryFilter.Value.Conversion

set_option autoImplicit false

/-!
# The texts of identifiers

An identifier is written as a run of digits in groups. Hyphens between groups of fixed widths stand
in fixed places (`getElem?_grouped_eq_hyphen_iff`), the digits are found again without them
(`filter_grouped`), and they do not change how two runs compare (`grouped_lt_iff`). Main statement:
the text of an identifier has the hyphenated form, gives back the number, and compares like it
(`Uuid.hyphenated_text_faithful`).
-/

namespace QueryFilter

/-! ## Groups -/

/-- A run of digits in groups of these widths, with hyphens between them. The last group has the
digits that are left. -/
def grouped : (widths : List Nat) → (digits : List Char) → List Char
  | [], digits => digits
  | width :: widths, digits => digits.take width ++ '-' :: grouped widths (digits.drop width)

/-- Where the hyphens behind groups of these widths stand. -/
def hyphenPlaces : (widths : List Nat) → List Nat
  | [] => []
  | width :: widths => width :: (hyphenPlaces widths).map (width + 1 + ·)

theorem mem_of_mem_grouped {widths : List Nat} {digits : List Char} {c : Char}
    (h : c ∈ grouped widths digits) : c = '-' ∨ c ∈ digits := by
  induction widths generalizing digits with
  | nil => exact .inr h
  | cons width widths ih =>
      rcases List.mem_append.1 h with htake | hrest
      · exact .inr (List.mem_of_mem_take htake)
      · rcases List.mem_cons.1 hrest with hhyphen | hlater
        · exact .inl hhyphen
        · exact (ih hlater).imp_right List.mem_of_mem_drop

theorem filter_eq_self_of_hyphen_not_mem {digits : List Char} (h : '-' ∉ digits) :
    digits.filter (· ≠ '-') = digits :=
  List.filter_eq_self.2 fun _ hc => decide_eq_true (ne_of_mem_of_not_mem hc h)

/-- Without the hyphens, the digits are as they were. -/
theorem filter_grouped {digits : List Char} (h : '-' ∉ digits) (widths : List Nat) :
    (grouped widths digits).filter (· ≠ '-') = digits := by
  induction widths generalizing digits with
  | nil => exact filter_eq_self_of_hyphen_not_mem h
  | cons width widths ih =>
      have htake : '-' ∉ digits.take width := mt List.mem_of_mem_take h
      have hdrop : '-' ∉ digits.drop width := mt List.mem_of_mem_drop h
      rw [grouped, List.filter_append, List.filter_cons_of_neg (by decide), ih hdrop,
        filter_eq_self_of_hyphen_not_mem htake, List.take_append_drop]

/-- No hyphen stands within the first group. -/
theorem not_mem_hyphenPlaces {place width : Nat} (h : place < width) (widths : List Nat) :
    place ∉ hyphenPlaces (width :: widths) := by
  rw [hyphenPlaces, List.mem_cons, List.mem_map]
  rintro (rfl | ⟨later, -, rfl⟩)
  · exact Nat.lt_irrefl _ h
  · omega

/-- Behind the first hyphen, places are counted from there. -/
theorem add_mem_hyphenPlaces_iff (width later : Nat) (widths : List Nat) :
    width + 1 + later ∈ hyphenPlaces (width :: widths) ↔ later ∈ hyphenPlaces widths := by
  have hne : width + 1 + later ≠ width := by omega
  rw [hyphenPlaces, List.mem_cons, or_iff_right hne]
  exact List.mem_map_of_injective fun _ _ => Nat.add_left_cancel

/-- If there are digits for all groups, hyphens stand in their places and in no others. -/
theorem getElem?_grouped_eq_hyphen_iff {widths : List Nat} {digits : List Char}
    (h : '-' ∉ digits) (hlength : widths.sum ≤ digits.length) (place : Nat) :
    (grouped widths digits)[place]? = some '-' ↔ place ∈ hyphenPlaces widths := by
  induction widths generalizing digits place with
  | nil => exact iff_of_false (fun hget => h (List.mem_of_getElem? hget)) List.not_mem_nil
  | cons width widths ih =>
      rw [List.sum_cons] at hlength
      have hdrop : '-' ∉ digits.drop width := mt List.mem_of_mem_drop h
      have htake : (digits.take width).length = width := List.length_take_of_le (by omega)
      have hrest : widths.sum ≤ (digits.drop width).length := by
        rw [List.length_drop]
        omega
      rw [grouped]
      rcases Nat.lt_trichotomy place width with hlt | rfl | hgt
      · -- in the first group
        rw [List.getElem?_append_left (by omega)]
        exact iff_of_false (fun hget => h (List.mem_of_mem_take (List.mem_of_getElem? hget)))
          (not_mem_hyphenPlaces hlt widths)
      · -- behind it
        rw [List.getElem?_append_right (by omega), htake, Nat.sub_self]
        exact iff_of_true rfl List.mem_cons_self
      · -- in a later group or behind one
        obtain ⟨later, rfl⟩ := Nat.exists_eq_add_of_le (Nat.succ_le_of_lt hgt)
        have hplace : width + 1 + later - width = later + 1 := by omega
        rw [List.getElem?_append_right (by omega), htake, hplace, List.getElem?_cons_succ,
          ih hdrop hrest, add_mem_hyphenPlaces_iff]

/-- Hyphens in the same places do not change how runs of digits compare. -/
theorem grouped_lt_iff {digits other : List Char} (h : digits.length = other.length)
    (widths : List Nat) : grouped widths digits < grouped widths other ↔ digits < other := by
  induction widths generalizing digits other with
  | nil => rfl
  | cons width widths ih =>
      have htake : (digits.take width).length = (other.take width).length := by
        rw [List.length_take, List.length_take, h]
      have hdrop : (digits.drop width).length = (other.drop width).length := by
        rw [List.length_drop, List.length_drop, h]
      have hirrefl : ¬('-' < '-') := by decide
      calc grouped (width :: widths) digits < grouped (width :: widths) other
          ↔ digits.take width < other.take width ∨
              digits.take width = other.take width ∧ digits.drop width < other.drop width := by
            rw [grouped, grouped, append_lt_append_iff htake, List.cons_lt_cons_iff, ih hdrop]
            simp only [hirrefl, false_or, true_and]
        _ ↔ digits < other := by
            rw [← append_lt_append_iff htake, List.take_append_drop, List.take_append_drop]

namespace Uuid

/-! ## The form -/

/-- The lower-case hexadecimal digits. -/
def hexadecimalDigits : List Char := "0123456789abcdef".toList

/-- Thirty-six characters: hyphens in four places, counted from zero, and lower-case hexadecimal
digits in all others. -/
structure IsHyphenated (text : List Char) : Prop where
  length_eq : text.length = 36
  hyphen_iff (place : Nat) : text[place]? = some '-' ↔ place ∈ [8, 13, 18, 23]
  digit_mem : ∀ c ∈ text, c = '-' ∨ c ∈ hexadecimalDigits

theorem digitCharacter_mem_hexadecimalDigits :
    ∀ digit < 16, digitCharacter digit ∈ hexadecimalDigits := by decide

theorem hyphen_not_mem_hexadecimalDigits : '-' ∉ hexadecimalDigits := by decide

/-! ## Digits -/

variable (id other : Uuid)

/-- Thirty-two digits hold every identifier. -/
theorem toNat_value_lt : id.value.toNat < 16 ^ 32 := id.value.isLt

theorem mem_hexadecimalDigits_of_mem_digits {id : Uuid} {c : Char} (h : c ∈ id.digits) :
    c ∈ hexadecimalDigits := by
  obtain ⟨digit, hdigit, rfl⟩ := exists_digit_of_mem_paddedDigits (by decide) h
  exact digitCharacter_mem_hexadecimalDigits digit hdigit

theorem hyphen_not_mem_digits : '-' ∉ id.digits :=
  fun h => hyphen_not_mem_hexadecimalDigits (mem_hexadecimalDigits_of_mem_digits h)

theorem valueOfHex?_digits : valueOfHex? id.digits = some id.value.toNat := by
  rw [digits, valueOfHex?_paddedDigits, Nat.mod_eq_of_lt id.toNat_value_lt]

theorem digits_lt_iff : id.digits < other.digits ↔ id.value.toNat < other.value.toNat :=
  paddedDigits_lt_iff (by decide) (by decide) id.toNat_value_lt other.toNat_value_lt

/-! ## Texts -/

/-- How many digits stand in front of each hyphen. -/
def groupWidths : List Nat := [8, 4, 4, 4]

theorem text_eq_grouped : id.text = grouped groupWidths id.digits := by
  simp [text, grouped, groupWidths]

theorem isHyphenated_text : IsHyphenated id.text where
  length_eq := id.length_text
  hyphen_iff place := by
    have hlength : groupWidths.sum ≤ id.digits.length := by
      rw [length_digits]
      decide
    rw [text_eq_grouped]
    exact getElem?_grouped_eq_hyphen_iff id.hyphen_not_mem_digits hlength place
  digit_mem c hc := by
    rw [text_eq_grouped] at hc
    exact (mem_of_mem_grouped hc).imp_right mem_hexadecimalDigits_of_mem_digits

theorem valueOfHex?_filter_text : valueOfHex? (id.text.filter (· ≠ '-')) = some id.value.toNat := by
  rw [text_eq_grouped, filter_grouped id.hyphen_not_mem_digits, valueOfHex?_digits]

theorem text_lt_iff : id.text < other.text ↔ id.value.toNat < other.value.toNat := by
  rw [text_eq_grouped, text_eq_grouped, grouped_lt_iff (by rw [length_digits, length_digits]),
    digits_lt_iff]

/-! ## Main statement -/

/-- An identifier becomes a text of the hyphenated form. Its digits without the hyphens are those of
the number in base sixteen, so that different identifiers have different texts, and the texts
compare like the numbers. -/
theorem hyphenated_text_faithful :
    (∀ id : Uuid, ∃ text, (toValue id : Value) = .text text ∧ IsHyphenated text.toList ∧
      valueOfHex? (text.toList.filter (· ≠ '-')) = some id.value.toNat) ∧
    ∀ id other : Uuid, ∃ text text', (toValue id : Value) = .text text ∧
      (toValue other : Value) = .text text' ∧
      (text < text' ↔ id.value.toNat < other.value.toNat) ∧ (text = text' ↔ id = other) := by
  refine ⟨fun id => ?_, fun id other => ?_⟩
  · refine ⟨_, rfl, ?_⟩
    rw [String.toList_ofList]
    exact ⟨id.isHyphenated_text, id.valueOfHex?_filter_text⟩
  · refine ⟨_, _, rfl, rfl, ?_, fun heq => ?_, fun heq => by rw [heq]⟩
    · rw [String.lt_iff, String.toList_ofList, String.toList_ofList]
      exact id.text_lt_iff other
    · have htext : id.text = other.text := String.ofList_injective heq
      have hnumber := eq_of_lt_iff (id.text_lt_iff other) (other.text_lt_iff id) htext
      exact congrArg Uuid.mk (BitVec.eq_of_toNat_eq hnumber)

/-- The zeros in front of each group are kept. -/
example : (⟨0x00000001000200030004000000000005⟩ : Uuid).text =
    "00000001-0002-0003-0004-000000000005".toList := by decide +kernel

end Uuid

end QueryFilter
