import QueryFilter.Json.Token
import QueryFilter.Proofs.Json.Numeral

set_option autoImplicit false

/-!
# Numbers that are read as they were written

Every number is read back from its text with its class and all its bits
(`JsonNumber.ofText?_text`). The text is a word, so it stays in one piece between other tokens.
-/

namespace QueryFilter

namespace JsonNumber

/-! ## Texts of numbers -/

theorem isWhole_decimalDigits (number : Nat) : IsWhole (decimalDigits number) where
  isDigit _ := isDigit_of_mem_decimalDigits
  ne_nil := decimalDigits_ne_nil number
  noLeadingZero := by
    rcases Nat.eq_zero_or_pos number with rfl | hpos
    · refine Or.inl ?_
      rw [decimalDigits]
      rfl
    · exact Or.inr (head?_decimalDigits hpos)

/-- A text that begins with whole digits has no sign. -/
theorem ofText?_append {whole : List Char} (h : IsWhole whole) (rest : List Char) :
    ofText? (whole ++ rest) = ofUnsigned? false (whole ++ rest) := by
  cases whole with
  | nil => exact absurd rfl h.ne_nil
  | cons c whole =>
      have hsign : c ≠ '-' := by
        rintro rfl
        exact absurd (h.isDigit '-' List.mem_cons_self) (by decide)
      simp [ofText?, hsign]

/-- A decimal that reads as the magnitude of a double makes that double, together with its sign. -/
theorem ofDecimal?_eq {value : Double} (hfinite : value.isFinite = true) {number : Decimal}
    (h : number.magnitude? = some value.magnitude) :
    ofDecimal? value.isNegative number = some (.float value hfinite) := by
  simp only [ofDecimal?, h, Double.ofMagnitude_magnitude, hfinite]
  rfl

theorem ofText?_integerText {value : Int} (lower : leastInteger ≤ value)
    (upper : value < integerBound) :
    ofText? (integerText value) = some (.integer value lower upper) := by
  cases value with
  | ofNat number =>
      have hwhole := isWhole_decimalDigits number
      have htext := ofText?_append hwhole []
      rw [List.append_nil] at htext
      rw [integerText, htext, ofUnsigned?_whole hwhole, valueOfDigits_decimalDigits,
        ofWhole?, if_neg (by simp)]
      exact dif_pos ⟨lower, upper⟩
  | negSucc number =>
      have hwhole := isWhole_decimalDigits (number + 1)
      rw [integerText, ofText?, ofUnsigned?_whole hwhole, valueOfDigits_decimalDigits,
        ofWhole?, if_neg (by simp)]
      exact dif_pos ⟨lower, upper⟩

/-- A finite double is written as a numeral that reads as its magnitude, behind its sign. -/
theorem floatText_eq {value : Double} (hfinite : value.isFinite = true) :
    ∃ numeral : Numeral,
      floatText value = (if value.isNegative then '-' :: numeral.text else numeral.text) ∧
      numeral.decimal.magnitude? = some value.magnitude := by
  have hmagnitude : value.magnitude < infinityMagnitude := of_decide_eq_true hfinite
  obtain ⟨numeral, htext, hread⟩ := exists_numeral digits_shortestDecimal_mod
    (digitCount_shortestDecimal_le hmagnitude)
  refine ⟨numeral, ?_, hread.trans (magnitude?_shortestDecimal hmagnitude)⟩
  simp only [floatText, htext]

theorem ofText?_floatText {value : Double} (hfinite : value.isFinite = true) :
    ofText? (floatText value) = some (.float value hfinite) := by
  obtain ⟨numeral, htext, hread⟩ := floatText_eq hfinite
  have hunsigned : ofUnsigned? value.isNegative numeral.text = some (.float value hfinite) := by
    rw [ofUnsigned?_text, ofDecimal?_eq hfinite hread]
  rw [htext]
  -- the sign is taken off in front of the numeral, which begins with a digit
  cases hsign : value.isNegative with
  | true =>
      rw [hsign] at hunsigned
      exact hunsigned
  | false =>
      rw [hsign] at hunsigned
      have happend := ofText?_append numeral.isWhole
        (Numeral.fractionText numeral.fraction ++ Numeral.exponentText numeral.exponent)
      rw [← List.append_assoc] at happend
      exact happend.trans hunsigned

/-- Every number is read back from its text. -/
theorem ofText?_text (number : JsonNumber) : ofText? number.text = some number := by
  cases number with
  | integer value lower upper => exact ofText?_integerText lower upper
  | float value finite => exact ofText?_floatText finite

end JsonNumber

/-! ## Words -/

open JsonToken

theorem isWordCharacter_of_isDigit {c : Char} (h : c.isDigit = true) :
    isWordCharacter c = true := by
  simp [isWordCharacter, Char.isAlphanum, h]

theorem isWordCharacter_of_mem_decimalDigits {number : Nat} {c : Char}
    (h : c ∈ decimalDigits number) : isWordCharacter c = true :=
  isWordCharacter_of_isDigit (isDigit_of_mem_decimalDigits h)

theorem Numeral.isWordCharacter_of_mem_text (numeral : Numeral) {c : Char}
    (h : c ∈ numeral.text) : isWordCharacter c = true := by
  rcases List.mem_append.1 h with hparts | hexponent
  · rcases List.mem_append.1 hparts with hwhole | hfraction
    · exact isWordCharacter_of_isDigit (numeral.isWhole.isDigit c hwhole)
    · unfold fractionText at hfraction
      split at hfraction
      · cases hfraction
      · rcases List.mem_cons.1 hfraction with rfl | hdigit
        · rfl
        · exact isWordCharacter_of_isDigit (numeral.isDigit_fraction c hdigit)
  · unfold exponentText at hexponent
    split at hexponent
    · cases hexponent
    · rcases List.mem_cons.1 hexponent with rfl | hsigned
      · rfl
      rcases List.mem_cons.1 hsigned with hsign | hdigit
      · rw [hsign]
        split
        · rfl
        · rfl
      · exact isWordCharacter_of_mem_decimalDigits hdigit

theorem isWordCharacter_of_mem_integerText {value : Int} {c : Char} (h : c ∈ integerText value) :
    isWordCharacter c = true := by
  cases value with
  | ofNat number => exact isWordCharacter_of_mem_decimalDigits h
  | negSucc number =>
      rcases List.mem_cons.1 h with rfl | hdigit
      · rfl
      · exact isWordCharacter_of_mem_decimalDigits hdigit

/-- A number is written in one word. -/
theorem JsonNumber.isWordCharacter_of_mem_text (number : JsonNumber) {c : Char}
    (h : c ∈ number.text) : isWordCharacter c = true := by
  cases number with
  | integer value lower upper => exact isWordCharacter_of_mem_integerText h
  | float value finite =>
      obtain ⟨numeral, htext, -⟩ := floatText_eq finite
      rw [text, htext] at h
      split at h
      · rcases List.mem_cons.1 h with rfl | hmem
        · rfl
        · exact numeral.isWordCharacter_of_mem_text hmem
      · exact numeral.isWordCharacter_of_mem_text h

theorem JsonNumber.text_ne_nil (number : JsonNumber) : number.text ≠ [] := by
  intro hnil
  have hread := ofText?_text number
  rw [hnil] at hread
  cases hread

/-- The word of a number is none of the names. -/
theorem JsonToken.ofWord?_text (number : JsonNumber) :
    ofWord? number.text = some (.number number) := by
  have hread := JsonNumber.ofText?_text number
  have hname : ∀ name, JsonNumber.ofText? name = none → number.text ≠ name := by
    rintro name hnone rfl
    rw [hread] at hnone
    cases hnone
  rw [ofWord?, if_neg (hname _ rfl), if_neg (hname _ rfl), if_neg (hname _ rfl), hread]
  rfl

end QueryFilter
