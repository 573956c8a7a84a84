import QueryFilter.Json.Number
import QueryFilter.Proofs.Number.Shortest
import QueryFilter.Proofs.Text.Digits

set_option autoImplicit false

/-!
# Numerals

A `Numeral` is a text of whole digits, fraction digits and an exponent, given by its parts. The
reader finds the parts in the text (`JsonNumber.ofUnsigned?_text`), and the text of a decimal is a
numeral that reads as the same double (`JsonNumber.exists_numeral`).
-/

namespace QueryFilter

/-! ## Numerals -/

/-- Digits that may stand in front of a point: at least one, and no zero in front of another. -/
structure IsWhole (whole : List Char) : Prop where
  isDigit : ∀ c ∈ whole, c.isDigit = true
  ne_nil : whole ≠ []
  noLeadingZero : whole.length = 1 ∨ whole.head? ≠ some '0'

/-- The checks of whole digits are passed. -/
theorem IsWhole.accepted {whole : List Char} (h : IsWhole whole) :
    (whole.isEmpty || decide (1 < whole.length) && whole.head? == some '0') = false := by
  have hempty : whole.isEmpty = false := by simpa using h.ne_nil
  rw [hempty, Bool.false_or, Bool.and_eq_false_iff]
  rcases h.noLeadingZero with hlength | hhead
  · exact Or.inl (decide_eq_false (by omega))
  · exact Or.inr (by simpa using hhead)

/-- The parts of a number with a fraction or an exponent. -/
structure Numeral where
  whole : List Char
  fraction : List Char
  exponent : Option Int
  isWhole : IsWhole whole
  isDigit_fraction : ∀ c ∈ fraction, c.isDigit = true
  inexact : fraction ≠ [] ∨ exponent ≠ none

namespace Numeral

/-- The text of a fraction, with the point in front of it. -/
def fractionText (fraction : List Char) : List Char :=
  if fraction.isEmpty then [] else '.' :: fraction

/-- The text of an exponent, with the letter in front of it. -/
def exponentText : Option Int → List Char
  | none => []
  | some exponent =>
    'e' :: (if exponent < 0 then '-' else '+') :: decimalDigits exponent.natAbs

/-- The text of a numeral. -/
def text (numeral : Numeral) : List Char :=
  numeral.whole ++ fractionText numeral.fraction ++ exponentText numeral.exponent

/-- What a numeral is compared as. -/
def decimal (numeral : Numeral) : Decimal :=
  JsonNumber.decimalOfParts numeral.whole numeral.fraction (numeral.exponent.getD 0)

end Numeral

namespace JsonNumber

/-! ## Reading the parts -/

theorem splitDigits_append {digits rest : List Char} (hdigits : ∀ c ∈ digits, c.isDigit = true)
    (hrest : ∀ c ∈ rest.head?, c.isDigit = false) :
    splitDigits (digits ++ rest) = (digits, rest) := by
  rw [splitDigits, takeWhile_run hdigits hrest, dropWhile_run hdigits hrest]

/-- The signed digits of an exponent are read as the exponent. -/
theorem exponentOfText?_digits (exponent : Int) :
    exponentOfText? ((if exponent < 0 then '-' else '+') :: decimalDigits exponent.natAbs)
      = some exponent := by
  have hdigits : (decimalDigits exponent.natAbs).all Char.isDigit = true :=
    List.all_eq_true.2 fun _ => isDigit_of_mem_decimalDigits
  have hnonempty : (decimalDigits exponent.natAbs).isEmpty = false := by
    simpa using decimalDigits_ne_nil exponent.natAbs
  have hvalue := valueOfDigits_decimalDigits exponent.natAbs
  by_cases hneg : exponent < 0
  · have habs : -(exponent.natAbs : Int) = exponent := by omega
    rw [if_pos hneg]
    simp only [exponentOfText?, hdigits, hnonempty, hvalue, habs]
    rfl
  · have habs : (exponent.natAbs : Int) = exponent := by omega
    rw [if_neg hneg]
    simp only [exponentOfText?, hdigits, hnonempty, hvalue, habs]
    rfl

theorem fractionOfText?_fractionText {fraction rest : List Char}
    (hfraction : ∀ c ∈ fraction, c.isDigit = true)
    (hrest : ∀ c ∈ rest.head?, c.isDigit = false ∧ c ≠ '.') :
    fractionOfText? (Numeral.fractionText fraction ++ rest) = some (fraction, rest) := by
  have hsplit := splitDigits_append hfraction fun c hc => (hrest c hc).1
  cases fraction with
  | nil =>
      -- without fraction digits there is no point either, so the reader leaves the rest alone
      cases rest with
      | nil => rfl
      | cons c rest => simp [Numeral.fractionText, fractionOfText?, (hrest c rfl).2]
  | cons digit fraction =>
      rw [Numeral.fractionText, if_neg (by simp), List.cons_append, fractionOfText?]
      simp only [hsplit]
      rfl

/-- Digits alone are read as a whole number. -/
theorem ofUnsigned?_whole {whole : List Char} (h : IsWhole whole) (negative : Bool) :
    ofUnsigned? negative whole = ofWhole? negative (valueOfDigits whole) := by
  have hsplit : splitDigits (whole ++ []) = (whole, []) :=
    splitDigits_append h.isDigit (by simp)
  rw [List.append_nil] at hsplit
  simp only [ofUnsigned?, hsplit, h.accepted]
  rfl

/-- The parts of a numeral are found in its text. -/
theorem ofUnsigned?_text (numeral : Numeral) (negative : Bool) :
    ofUnsigned? negative numeral.text = ofDecimal? negative numeral.decimal := by
  obtain ⟨whole, fraction, exponent, hwhole, hfraction, hinexact⟩ := numeral
  have hexponent : ∀ c ∈ (Numeral.exponentText exponent).head?, c.isDigit = false ∧ c ≠ '.' := by
    cases exponent with
    | none => simp [Numeral.exponentText]
    | some exponent => simp [Numeral.exponentText]
  have hrest : ∀ c ∈ (Numeral.fractionText fraction ++ Numeral.exponentText exponent).head?,
      c.isDigit = false := by
    cases fraction with
    | nil => exact fun c hc => (hexponent c hc).1
    | cons digit fraction => simp [Numeral.fractionText]
  -- the reader meets the parts in the order in which they are put together
  have hsplit := splitDigits_append hwhole.isDigit hrest
  have hparts := fractionOfText?_fractionText hfraction hexponent
  have hsome :
      (Numeral.fractionText fraction ++ Numeral.exponentText exponent).isEmpty = false := by
    cases fraction with
    | nil =>
        cases exponent with
        | none => simp at hinexact
        | some exponent => rfl
    | cons digit fraction => rfl
  simp only [Numeral.text, Numeral.decimal, ofUnsigned?, List.append_assoc, hsplit,
    hwhole.accepted, hsome, hparts]
  cases exponent with
  | none => simp [Numeral.exponentText]
  | some exponent => simp [Numeral.exponentText, exponentOfText?_digits]

/-- Fraction digits without a zero at their end are all compared. -/
theorem decimalOfParts_eq {whole fraction : List Char} {exponent : Int}
    (h : fraction.getLast? ≠ some '0') :
    decimalOfParts whole fraction exponent
      = Decimal.condense ⟨valueOfDigits (whole ++ fraction), exponent - fraction.length⟩ := by
  simp only [decimalOfParts, trimZeros_eq_self h]

end JsonNumber

/-! ## Digits that count

The digits of a shortest decimal begin and end with another digit than zero. They are written in
front of zeros, behind zeros, or with a point between them. -/

/-- Digits without a zero in front and without one at the end. -/
structure Significant (digits : List Char) : Prop where
  isDigit : ∀ c ∈ digits, c.isDigit = true
  ne_nil : digits ≠ []
  head?_ne : digits.head? ≠ some '0'
  getLast?_ne : digits.getLast? ≠ some '0'

theorem significant_decimalDigits {number : Nat} (h : number % 10 ≠ 0) :
    Significant (decimalDigits number) where
  isDigit _ := isDigit_of_mem_decimalDigits
  ne_nil := decimalDigits_ne_nil number
  head?_ne := head?_decimalDigits (by omega)
  getLast?_ne := getLast?_decimalDigits h

theorem isDigit_zeros {count : Nat} {c : Char} (h : c ∈ List.replicate count '0') :
    c.isDigit = true := by
  rw [List.eq_of_mem_replicate h]
  rfl

namespace Numeral

variable {digits : List Char}

/-- A zero on either side of the point. -/
def zero : Numeral where
  whole := ['0']
  fraction := ['0']
  exponent := none
  isWhole := ⟨by simp, by simp, Or.inl rfl⟩
  isDigit_fraction := by simp
  inexact := Or.inl (by simp)

/-- Digits behind a point and zeros. -/
def small (h : Significant digits) (zeros : Nat) : Numeral where
  whole := ['0']
  fraction := List.replicate zeros '0' ++ digits
  exponent := none
  isWhole := ⟨by simp, by simp, Or.inl rfl⟩
  isDigit_fraction c hc := (List.mem_append.1 hc).elim isDigit_zeros (h.isDigit c)
  inexact := Or.inl (by simp [h.ne_nil])

/-- Digits in front of zeros and a point. -/
def round (h : Significant digits) (zeros : Nat) : Numeral where
  whole := digits ++ List.replicate zeros '0'
  fraction := ['0']
  exponent := none
  isWhole := by
    refine ⟨fun c hc => (List.mem_append.1 hc).elim (h.isDigit c) isDigit_zeros, ?_, Or.inr ?_⟩
    · simp [h.ne_nil]
    · rw [List.head?_append, Option.or_of_isSome (by simpa using h.ne_nil)]
      exact h.head?_ne
  isDigit_fraction := by simp
  inexact := Or.inl (by simp)

/-- Digits with a point between them, or in front of an exponent. -/
def divided (h : Significant digits) (point : Nat) (hpoint : 0 < point) (exponent : Option Int)
    (hinexact : point < digits.length ∨ exponent ≠ none) : Numeral where
  whole := digits.take point
  fraction := digits.drop point
  exponent := exponent
  isWhole := by
    refine ⟨fun c hc => h.isDigit c (List.mem_of_mem_take hc), ?_, Or.inr ?_⟩
    · simp [h.ne_nil, hpoint.ne']
    · rw [List.head?_take, if_neg hpoint.ne']
      exact h.head?_ne
  isDigit_fraction c hc := h.isDigit c (List.mem_of_mem_drop hc)
  inexact := hinexact.imp_left (by simp)

theorem decimal_zero : zero.decimal = ⟨0, 0⟩ := by
  have htrim : trimZeros ['0'] = [] := rfl
  have hvalue : valueOfDigits ['0'] = 0 := rfl
  simp only [decimal, zero, JsonNumber.decimalOfParts, htrim, List.append_nil, hvalue]
  rw [Decimal.condense_eq_self]
  · rfl
  · rw [digitCount]
    decide

theorem decimal_small (h : Significant digits) (zeros : Nat) :
    (small h zeros).decimal
      = Decimal.condense ⟨valueOfDigits digits, -(zeros + digits.length : Nat)⟩ := by
  have hlast : (List.replicate zeros '0' ++ digits).getLast? ≠ some '0' := by
    rw [List.getLast?_append, Option.or_of_isSome (by simpa using h.ne_nil)]
    exact h.getLast?_ne
  have hvalue : valueOfDigits (['0'] ++ (List.replicate zeros '0' ++ digits))
      = valueOfDigits digits := valueOfDigits_zeros_append (zeros + 1) digits
  rw [decimal, small, JsonNumber.decimalOfParts_eq hlast, hvalue]
  simp

theorem decimal_round (h : Significant digits) (zeros : Nat) :
    (round h zeros).decimal
      = Decimal.condense ⟨valueOfDigits digits * powerOfTen zeros, 0⟩ := by
  have htrim : trimZeros ['0'] = [] := rfl
  have hvalue := valueOfDigits_append_zeros digits zeros
  simp only [decimal, round, JsonNumber.decimalOfParts, htrim, List.append_nil, hvalue]
  rfl

theorem decimal_divided (h : Significant digits) (point : Nat) (hpoint : 0 < point)
    (exponent : Option Int) (hinexact : point < digits.length ∨ exponent ≠ none) :
    (divided h point hpoint exponent hinexact).decimal
      = Decimal.condense
          ⟨valueOfDigits digits, exponent.getD 0 - (digits.length - point : Nat)⟩ := by
  have hlast : (digits.drop point).getLast? ≠ some '0' := by
    rw [List.getLast?_drop]
    split
    · simp
    · exact h.getLast?_ne
  rw [decimal, divided, JsonNumber.decimalOfParts_eq hlast, List.take_append_drop,
    List.length_drop]

end Numeral

namespace JsonNumber

/-! ## Texts of decimals -/

section Texts

variable {digits : List Char} (h : Significant digits) {exponent : Int}

include h

theorem plainText_of_neg (hexponent : exponent < 0) :
    plainText digits exponent = (Numeral.small h (-exponent - 1).toNat).text := by
  have hsome : (List.replicate (-exponent - 1).toNat '0' ++ digits).isEmpty = false := by
    simp [h.ne_nil]
  simp only [plainText, if_pos hexponent, Numeral.text, Numeral.small, Numeral.fractionText, hsome,
    Numeral.exponentText]
  simp

theorem plainText_of_length_le (hexponent : 0 ≤ exponent)
    (hlength : digits.length ≤ exponent.toNat + 1) :
    plainText digits exponent
      = (Numeral.round h (exponent.toNat + 1 - digits.length)).text := by
  simp [plainText, not_lt.2 hexponent, List.take_of_length_le hlength,
    List.drop_of_length_le hlength, Numeral.text, Numeral.round, Numeral.fractionText,
    Numeral.exponentText]

theorem plainText_of_lt_length (hexponent : 0 ≤ exponent)
    (hlength : exponent.toNat + 1 < digits.length) :
    plainText digits exponent
      = (Numeral.divided h (exponent.toNat + 1) (Nat.succ_pos _) none (Or.inl hlength)).text := by
  have hsome : (digits.drop (exponent.toNat + 1)).isEmpty = false := by simpa using hlength
  simp only [plainText, if_neg (not_lt.2 hexponent), hsome, Nat.sub_eq_zero_of_le hlength.le,
    Numeral.text, Numeral.divided, Numeral.fractionText, Numeral.exponentText]
  simp

theorem exponentText_eq :
    exponentText digits exponent
      = (Numeral.divided h 1 Nat.one_pos (some exponent) (Or.inr (by simp))).text := by
  simp [exponentText, Numeral.text, Numeral.divided, Numeral.fractionText, Numeral.exponentText]

end Texts

/-- Around a point, significant digits are a numeral that reads as the decimal. -/
theorem exists_numeral_plainText {value : Nat} (hlast : value % 10 ≠ 0) {shift : Int}
    (hcount : digitCount value ≤ Decimal.decisiveDigits)
    (hgreatest : shift + digitCount value - 1 ≤ plainRange.greatest) :
    ∃ numeral : Numeral,
      plainText (decimalDigits value) (shift + digitCount value - 1) = numeral.text ∧
      numeral.decimal.magnitude? = Decimal.magnitude? ⟨value, shift⟩ := by
  have hdigits := significant_decimalDigits hlast
  have hlength := length_decimalDigits value
  have hvalue := valueOfDigits_decimalDigits value
  have hcountPos := digitCount_pos value
  -- in every form but the last the reader gets the very decimal that is written
  have hcondense : Decimal.condense ⟨value, shift⟩ = ⟨value, shift⟩ :=
    Decimal.condense_eq_self hcount
  rcases Int.lt_or_le (shift + digitCount value - 1) 0 with hneg | hwhole
  · -- zeros stand in front of the digits
    refine ⟨_, plainText_of_neg hdigits hneg, ?_⟩
    have hshift : -(((-(shift + digitCount value - 1) - 1).toNat + digitCount value : Nat) : Int)
        = shift := by omega
    rw [Numeral.decimal_small, hvalue, hlength, hshift, hcondense]
  rcases Nat.lt_or_ge ((shift + digitCount value - 1).toNat + 1) (decimalDigits value).length
    with hlt | hge
  · -- the point stands between the digits
    refine ⟨_, plainText_of_lt_length hdigits hwhole hlt, ?_⟩
    have hshift : (none : Option Int).getD 0
        - ((digitCount value - ((shift + digitCount value - 1).toNat + 1) : Nat) : Int)
        = shift := by
      rw [Option.getD_none]
      omega
    rw [Numeral.decimal_divided, hvalue, hlength, hshift, hcondense]
  · -- zeros stand behind the digits, and the reader counts them among the digits
    refine ⟨_, plainText_of_length_le hdigits hwhole hge, ?_⟩
    rw [hlength] at hge
    have hsmall : digitCount (value * powerOfTen ((shift + digitCount value - 1).toNat + 1
        - digitCount value)) ≤ Decimal.decisiveDigits := by
      have hdecisive : Decimal.decisiveDigits = 768 := rfl
      have hplain : plainRange.greatest = 15 := rfl
      rw [digitCount_mul_powerOfTen (by omega), hdecisive]
      omega
    have hshift : (0 : Int) + (((shift + digitCount value - 1).toNat + 1
        - digitCount value : Nat) : Int) = shift := by omega
    rw [Numeral.decimal_round, hvalue, hlength, Decimal.condense_eq_self hsmall,
      Decimal.magnitude?_mul_powerOfTen, hshift]

/-- In front of an exponent, significant digits are a numeral that reads as the decimal. -/
theorem exists_numeral_exponentText {value : Nat} (hlast : value % 10 ≠ 0) {shift : Int}
    (hcount : digitCount value ≤ Decimal.decisiveDigits) :
    ∃ numeral : Numeral,
      exponentText (decimalDigits value) (shift + digitCount value - 1) = numeral.text ∧
      numeral.decimal.magnitude? = Decimal.magnitude? ⟨value, shift⟩ := by
  refine ⟨_, exponentText_eq (significant_decimalDigits hlast), ?_⟩
  have hcountPos := digitCount_pos value
  have hshift : (some (shift + digitCount value - 1)).getD 0
      - ((digitCount value - 1 : Nat) : Int) = shift := by
    rw [Option.getD_some]
    omega
  rw [Numeral.decimal_divided, valueOfDigits_decimalDigits, length_decimalDigits, hshift,
    Decimal.condense_eq_self hcount]

/-- A decimal of decisive digits, trimmed, is written as a numeral that reads as the same double. -/
theorem exists_numeral {number : Decimal}
    (hlast : 0 < number.digits → number.digits % 10 ≠ 0)
    (hcount : digitCount number.digits ≤ Decimal.decisiveDigits) :
    ∃ numeral : Numeral, decimalText number = numeral.text ∧
      numeral.decimal.magnitude? = number.magnitude? := by
  obtain ⟨value, shift⟩ := number
  rcases Nat.eq_zero_or_pos value with rfl | hpos
  · have hdigits : decimalDigits 0 = ['0'] := by
      rw [decimalDigits]
      rfl
    refine ⟨.zero, ?_, ?_⟩
    · simp [decimalText, hdigits, plainText, Numeral.zero, Numeral.text, Numeral.fractionText,
        Numeral.exponentText]
    · rw [Numeral.decimal_zero, Decimal.magnitude?_zero, Decimal.magnitude?_zero]
  · simp only [decimalText, length_decimalDigits, if_neg (show ¬value = 0 by omega)]
    split
    · rename_i hrange
      exact exists_numeral_plainText (hlast hpos) hcount hrange.2
    · exact exists_numeral_exponentText (hlast hpos) hcount

end JsonNumber

end QueryFilter
