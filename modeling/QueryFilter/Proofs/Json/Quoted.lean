import QueryFilter.Json.Quoted
import QueryFilter.Proofs.Text.Digits

set_option autoImplicit false

/-!
# String literals that are read as they were written

Each character is read back from the way it is written (`readQuoted_escaped`), whether it stands for
itself or is escaped by a letter or by its number; so every text is read back from its literal.
-/

namespace QueryFilter

/-! ## Characters -/

/-- A character that stands for itself is read. -/
theorem readQuoted_plain {c : Char} (hquote : c ≠ '"') (hbackslash : c ≠ '\\')
    (hcontrol : ¬c.toNat < 0x20) (rest : List Char) :
    readQuoted (c :: rest) = consRead c (readQuoted rest) := by
  simp [readQuoted, hbackslash, hcontrol]

/-- A character that is escaped by a letter is read. -/
theorem readQuoted_letter {letter c : Char} (hnumber : letter ≠ 'u')
    (h : unescaped? letter = some c) (rest : List Char) :
    readQuoted ('\\' :: letter :: rest) = consRead c (readQuoted rest) := by
  simp [readQuoted, hnumber, h]

/-- A character that is escaped by its number is read. -/
theorem readQuoted_number {c : Char} (hcontrol : c.toNat < 0x20) (rest : List Char) :
    readQuoted ('\\' :: 'u' :: paddedDigits 16 4 c.toNat ++ rest)
      = consRead c (readQuoted rest) := by
  have hvalue := valueOfHex?_paddedDigits 4 c.toNat
  rw [Nat.mod_eq_of_lt (by omega)] at hvalue
  have hlow : isLowSurrogate c.toNat = false := by
    rw [isLowSurrogate, decide_eq_false (by omega), Bool.false_and]
  have hhigh : isHighSurrogate c.toNat = false := by
    rw [isHighSurrogate, decide_eq_false (by omega), Bool.false_and]
  simp only [paddedDigits, List.nil_append, List.cons_append] at hvalue ⊢
  simp [readQuoted, hvalue, hlow, hhigh]

/-- A character is read back from the way it is written. -/
theorem readQuoted_escaped (c : Char) (rest : List Char) :
    readQuoted (escaped c ++ rest) = consRead c (readQuoted rest) := by
  unfold escaped
  -- the letters in the order in which the writer looks for them
  split
  · subst c
    exact readQuoted_letter (by decide) rfl rest
  split
  · subst c
    exact readQuoted_letter (by decide) rfl rest
  split
  · subst c
    exact readQuoted_letter (by decide) rfl rest
  split
  · subst c
    exact readQuoted_letter (by decide) rfl rest
  split
  · subst c
    exact readQuoted_letter (by decide) rfl rest
  split
  · subst c
    exact readQuoted_letter (by decide) rfl rest
  split
  · subst c
    exact readQuoted_letter (by decide) rfl rest
  split
  · rename_i hcontrol
    exact readQuoted_number hcontrol rest
  · rename_i hquote hbackslash _ _ _ _ _ hcontrol
    exact readQuoted_plain hquote hbackslash hcontrol rest

/-! ## Texts -/

/-- A text is read back from behind the opening quote of its literal. -/
theorem readQuoted_flatMap (text rest : List Char) :
    readQuoted (text.flatMap escaped ++ '"' :: rest) = some (text, rest) := by
  induction text with
  | nil => rfl
  | cons c text ih =>
      rw [List.flatMap_cons, List.append_assoc, readQuoted_escaped, ih]
      rfl

end QueryFilter
