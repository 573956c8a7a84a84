import Mathlib.Tactic.Common
import QueryFilter.Calendar.Grammar
import QueryFilter.Calendar.Reading
import QueryFilter.Proofs.Text.Digits

set_option autoImplicit false

/-!
# Digits in fixed places

A number that is written in a fixed number of places is read back from them
(`readNumber?_paddedDigits`), and such numbers compare like their texts (`paddedDigits_lt_iff`).
-/

namespace QueryFilter

/-! ## Reading back -/

/-- In every place stands a digit below the base. -/
theorem exists_digit_of_mem_paddedDigits {base width number : Nat} {c : Char} (hpos : 0 < base)
    (h : c ∈ paddedDigits base width number) : ∃ digit < base, digitCharacter digit = c := by
  induction width generalizing number with
  | zero => cases h
  | succ width ih =>
      rcases List.mem_append.1 h with hleading | hlast
      · exact ih hleading
      · exact ⟨number % base, Nat.mod_lt number hpos, (List.mem_singleton.1 hlast).symm⟩

theorem isDigit_of_mem_paddedDigits {width number : Nat} {c : Char}
    (h : c ∈ paddedDigits 10 width number) : c.isDigit = true := by
  obtain ⟨digit, hdigit, rfl⟩ := exists_digit_of_mem_paddedDigits (by decide) h
  exact isDigit_digitCharacter digit hdigit

/-- Digits have the value of the number, as far as they hold it. -/
theorem valueOfDigits_paddedDigits {width number : Nat} (h : number < 10 ^ width) :
    valueOfDigits (paddedDigits 10 width number) = number := by
  induction width generalizing number with
  | zero =>
      have hzero : number = 0 := by simpa using h
      rw [hzero]
      rfl
  | succ width ih =>
      have hlast := digitValue_digitCharacter (number % 10) (Nat.mod_lt number (by decide))
      have hleading : number / 10 < 10 ^ width := by
        rw [Nat.pow_succ] at h
        omega
      rw [paddedDigits, valueOfDigits_append_singleton, ih hleading, hlast]
      omega

theorem isNumeral_paddedDigits {width number least greatest : Nat} (h : number < 10 ^ width)
    (hleast : least ≤ number) (hgreatest : number ≤ greatest) :
    IsNumeral width least greatest (paddedDigits 10 width number) where
  length_eq := length_paddedDigits 10 width number
  isDigit _ := isDigit_of_mem_paddedDigits
  le_value := by rwa [valueOfDigits_paddedDigits h]
  value_le := by rwa [valueOfDigits_paddedDigits h]

theorem readNumber?_paddedDigits {width number : Nat} (h : number < 10 ^ width)
    (rest : List Char) :
    readNumber? width (paddedDigits 10 width number ++ rest) = some (number, rest) := by
  have hlength : (paddedDigits 10 width number).length = width := length_paddedDigits 10 width _
  have hdigits : (paddedDigits 10 width number).all Char.isDigit = true :=
    List.all_eq_true.2 fun _ => isDigit_of_mem_paddedDigits
  rw [readNumber?, List.take_left' hlength, List.drop_left' hlength, if_pos ⟨hlength, hdigits⟩,
    valueOfDigits_paddedDigits h]

theorem readMark?_cons (mark : Char) (rest : List Char) :
    readMark? mark (mark :: rest) = some rest := if_pos rfl

/-! ## Order -/

/-- Texts that begin with as many characters compare by those first. -/
theorem append_lt_append_iff {first second rest rest' : List Char}
    (h : first.length = second.length) :
    first ++ rest < second ++ rest' ↔ first < second ∨ first = second ∧ rest < rest' := by
  induction first generalizing second with
  | nil =>
      rw [List.length_eq_zero_iff.1 h.symm]
      simp
  | cons c first ih =>
      cases second with
      | nil => cases h
      | cons d second =>
          rw [List.cons_append, List.cons_append, List.cons_lt_cons_iff, List.cons_lt_cons_iff,
            ih (Nat.succ.inj h), List.cons.injEq]
          tauto

theorem digitCharacter_lt_iff :
    ∀ digit < 16, ∀ other < 16, digitCharacter digit < digitCharacter other ↔ digit < other := by
  decide

/-- Numbers compare by their quotients first, and then by their remainders. -/
theorem lt_iff_div_mod {base : Nat} (h : 0 < base) (number other : Nat) :
    number < other ↔ number / base < other / base ∨
      number / base = other / base ∧ number % base < other % base := by
  have hnumber := Nat.div_add_mod number base
  have hother := Nat.div_add_mod other base
  have hrest := Nat.mod_lt number h
  have hrest' := Nat.mod_lt other h
  rcases Nat.lt_trichotomy (number / base) (other / base) with hlt | heq | hgt
  · have hmul := Nat.mul_le_mul_left base (Nat.succ_le_of_lt hlt)
    rw [Nat.mul_succ] at hmul
    omega
  · rw [heq] at hnumber ⊢
    omega
  · have hmul := Nat.mul_le_mul_left base (Nat.succ_le_of_lt hgt)
    rw [Nat.mul_succ] at hmul
    omega

/-- If texts are ordered like their numbers, texts that are equal are of the same number. -/
theorem eq_of_lt_iff {first second : List Char} {number other : Nat}
    (hless : first < second ↔ number < other) (hgreater : second < first ↔ other < number)
    (h : first = second) : number = other := by
  subst h
  have hnot := mt hless.2 (List.lt_irrefl first)
  have hnot' := mt hgreater.2 (List.lt_irrefl first)
  omega

/-- In a fixed number of places, numbers compare like their texts. -/
theorem paddedDigits_lt_iff {base width number other : Nat} (hpos : 0 < base) (hbase : base ≤ 16)
    (hnumber : number < base ^ width) (hother : other < base ^ width) :
    paddedDigits base width number < paddedDigits base width other ↔ number < other := by
  induction width generalizing number other with
  | zero =>
      rw [Nat.pow_zero, Nat.lt_one_iff] at hnumber hother
      rw [hnumber, hother]
      exact iff_of_false (List.lt_irrefl _) (Nat.lt_irrefl _)
  | succ width ih =>
      rw [Nat.pow_succ] at hnumber hother
      have hquotient := Nat.div_lt_of_lt_mul (Nat.mul_comm _ _ ▸ hnumber)
      have hquotient' := Nat.div_lt_of_lt_mul (Nat.mul_comm _ _ ▸ hother)
      have hleading := ih hquotient hquotient'
      have hsame : paddedDigits base width (number / base) = paddedDigits base width (other / base)
          ↔ number / base = other / base :=
        ⟨eq_of_lt_iff hleading (ih hquotient' hquotient), congrArg _⟩
      have hlast := digitCharacter_lt_iff _ ((Nat.mod_lt number hpos).trans_le hbase) _
        ((Nat.mod_lt other hpos).trans_le hbase)
      rw [paddedDigits, paddedDigits,
        append_lt_append_iff (by rw [length_paddedDigits, length_paddedDigits]), hleading, hsame,
        List.cons_lt_cons_iff, hlast, lt_iff_div_mod hpos number other]
      simp

theorem paddedDigits_inj {base width number other : Nat} (hpos : 0 < base) (hbase : base ≤ 16)
    (hnumber : number < base ^ width) (hother : other < base ^ width) :
    paddedDigits base width number = paddedDigits base width other ↔ number = other :=
  ⟨eq_of_lt_iff (paddedDigits_lt_iff hpos hbase hnumber hother)
    (paddedDigits_lt_iff hpos hbase hother hnumber), congrArg _⟩

end QueryFilter
