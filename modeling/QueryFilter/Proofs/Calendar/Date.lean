import Mathlib.Data.List.Basic
import Mathlib.Tactic.Common
import QueryFilter.Proofs.Calendar.Chronology
import QueryFilter.Proofs.Number.Decimal
import QueryFilter.Proofs.Text.Places
import QueryFilter.Value.Conversion

set_option autoImplicit false

/-!
# The texts of dates

A date is read back from its text, whatever follows it (`Date.read?_text`). Among the dates whose
year has four digits, the texts have the form of the grammar (`Date.isFullDate_text`) and compare
like the dates (`Date.text_lt_iff`). Main statement: all of this for the value that a date becomes
(`Date.text_faithful`).
-/

namespace QueryFilter

namespace Date

/-! ## Years -/

/-- The years that are written with four digits and no sign. -/
def HasPlainYear (date : Date) : Prop := 0 ≤ date.year ∧ date.year ≤ 9999

instance (date : Date) : Decidable date.HasPlainYear :=
  inferInstanceAs (Decidable (0 ≤ date.year ∧ date.year ≤ 9999))

theorem yearText_of_plain {year : Int} (h : 0 ≤ year ∧ year ≤ 9999) :
    yearText year = paddedDigits 10 4 year.toNat := by
  have hlt : year.natAbs < powerOfTen 4 := by
    show year.natAbs < 10000
    omega
  have hcount := digitCount_le_of_lt (by decide) hlt
  have hnumber : year.natAbs = year.toNat := by omega
  rw [yearText, if_neg (by omega), if_neg (by omega), Nat.max_eq_left hcount, hnumber]

theorem head?_yearText_of_neg {year : Int} (h : year < 0) : (yearText year).head? = some '-' := by
  rw [yearText, if_pos h]
  rfl

theorem head?_yearText_of_large {year : Int} (h : 9999 < year) :
    (yearText year).head? = some '+' := by
  rw [yearText, if_neg (by omega), if_pos h]
  rfl

theorem readSign?_of_isDigit {text : List Char} (h : ∀ c ∈ text.head?, c.isDigit = true) :
    readSign? text = none := by
  cases text with
  | nil => rfl
  | cons c rest =>
      have hdigit : c.isDigit = true := h c rfl
      have hminus : c ≠ '-' := by
        rintro rfl
        cases hdigit
      have hplus : c ≠ '+' := by
        rintro rfl
        cases hdigit
      rw [readSign?, if_neg hminus, if_neg hplus]

/-- A year is read back if what follows it is no digit. -/
theorem readYear?_yearText (year : Int) {rest : List Char}
    (hrest : ∀ c ∈ rest.head?, c.isDigit = false) :
    readYear? (yearText year ++ rest) = some (year, rest) := by
  -- the digits are read alike behind a sign and without one
  have hwidth : 0 < max 4 (digitCount year.natAbs) := by omega
  have hlt : year.natAbs < 10 ^ max 4 (digitCount year.natAbs) := by
    calc year.natAbs < 10 ^ digitCount year.natAbs := lt_powerOfTen_digitCount year.natAbs
      _ ≤ 10 ^ max 4 (digitCount year.natAbs) :=
          Nat.pow_le_pow_right (by decide) (Nat.le_max_right _ _)
  have hlength := length_paddedDigits 10 (max 4 (digitCount year.natAbs)) year.natAbs
  have hvalue := valueOfDigits_paddedDigits hlt
  have hdigits : ∀ c ∈ paddedDigits 10 (max 4 (digitCount year.natAbs)) year.natAbs,
      c.isDigit = true := fun _ => isDigit_of_mem_paddedDigits
  rw [yearText]
  generalize paddedDigits 10 (max 4 (digitCount year.natAbs)) year.natAbs = digits at *
  have hne : digits ≠ [] := List.ne_nil_of_length_pos (hlength ▸ hwidth)
  have hread : ∀ negative text, (readSign? text).getD (false, text) = (negative, digits ++ rest) →
      readYear? text = some (if negative then -(year.natAbs : Int) else year.natAbs, rest) := by
    intro negative text hsign
    rw [readYear?, hsign]
    dsimp only
    rw [takeWhile_run hdigits hrest, dropWhile_run hdigits hrest, hvalue,
      if_neg (by simpa using hne)]
  split_ifs with hnegative hlarge
  · rw [List.cons_append, hread true _ rfl, if_pos rfl]
    congr 2
    omega
  · rw [List.cons_append, hread false _ rfl, if_neg Bool.false_ne_true]
    congr 2
    omega
  · have hnone : readSign? (digits ++ rest) = none := by
      refine readSign?_of_isDigit fun c hc => ?_
      rw [List.head?_append_of_ne_nil _ hne] at hc
      exact hdigits c (List.mem_of_mem_head? hc)
    rw [hread false _ (by rw [hnone, Option.getD_none]), if_neg Bool.false_ne_true]
    congr 2
    omega

/-! ## Reading -/

theorem of?_eq_some (date : Date) : of? date.year date.month date.day = some date := by
  rw [of?, dif_pos ⟨date.day_pos, date.day_le⟩]

theorem day_le_thirtyOne (date : Date) : date.day ≤ 31 := by
  have hle := date.day_le
  unfold daysInMonth at hle
  split_ifs at hle
  all_goals omega

theorem text_append (date : Date) (rest : List Char) :
    date.text ++ rest = yearText date.year ++ '-' :: (paddedDigits 10 2 date.month ++
      '-' :: (paddedDigits 10 2 date.day ++ rest)) := by
  simp only [text, List.append_assoc, List.cons_append]

/-- A date is read back from its text, and what follows it is left. -/
theorem read?_text (date : Date) (rest : List Char) :
    read? (date.text ++ rest) = some (date, rest) := by
  obtain ⟨-, hmonth⟩ := date.month_mem
  have hday := date.day_le_thirtyOne
  rw [read?, text_append, readYear?_yearText _ (by simp)]
  simp only [Option.bind_eq_bind, Option.bind_some, readMark?_cons,
    readNumber?_paddedDigits (show date.month < 10 ^ 2 by omega),
    readNumber?_paddedDigits (show date.day < 10 ^ 2 by omega), of?_eq_some, pure]

theorem ofText?_text (date : Date) : ofText? (String.ofList date.text) = some date := by
  have hread := date.read?_text []
  rw [List.append_nil] at hread
  rw [ofText?, String.toList_ofList, hread]

theorem head?_text_of_neg {date : Date} (h : date.year < 0) : date.text.head? = some '-' := by
  rw [text, List.append_assoc, List.head?_append, head?_yearText_of_neg h, Option.some_or]

theorem head?_text_of_large {date : Date} (h : 9999 < date.year) :
    date.text.head? = some '+' := by
  rw [text, List.append_assoc, List.head?_append, head?_yearText_of_large h, Option.some_or]

/-! ## Plain years -/

variable {date other : Date}

theorem text_of_plain (h : date.HasPlainYear) :
    date.text = paddedDigits 10 4 date.year.toNat ++ '-' :: (paddedDigits 10 2 date.month ++
      '-' :: paddedDigits 10 2 date.day) := by
  have happend := date.text_append []
  rw [List.append_nil, List.append_nil, yearText_of_plain h] at happend
  exact happend

theorem isFullDate_text (h : date.HasPlainYear) : IsFullDate date.text := by
  obtain ⟨hpositive, hlarge⟩ := h
  obtain ⟨hmonth, hmonth'⟩ := date.month_mem
  have hday := date.day_le_thirtyOne
  have hyear : date.year.toNat < 10 ^ 4 := by omega
  have htext := text_of_plain ⟨hpositive, hlarge⟩
  rw [← List.cons_append, ← List.append_assoc] at htext
  rw [htext]
  refine .intro (isNumeral_paddedDigits hyear (Nat.zero_le _) (by omega))
    (isNumeral_paddedDigits (by omega) hmonth hmonth')
    (isNumeral_paddedDigits (by omega) date.day_pos ?_)
  rw [valueOfDigits_paddedDigits hyear, valueOfDigits_paddedDigits (by omega),
    Int.toNat_of_nonneg hpositive]
  exact date.day_le

theorem length_text_of_plain (h : date.HasPlainYear) : date.text.length = 10 := by
  rw [text_of_plain h]
  simp [length_paddedDigits]

/-- Texts of dates with plain years compare like the dates. -/
theorem text_lt_iff (h : date.HasPlainYear) (h' : other.HasPlainYear) :
    date.text < other.text ↔ date.dayNumber < other.dayNumber := by
  obtain ⟨-, hmonth⟩ := date.month_mem
  obtain ⟨-, hmonth'⟩ := other.month_mem
  have hday := date.day_le_thirtyOne
  have hday' := other.day_le_thirtyOne
  have hyears : date.year.toNat < 10 ^ 4 ∧ other.year.toNat < 10 ^ 4 := by
    unfold HasPlainYear at h h'
    omega
  have hmonths : date.month < 10 ^ 2 ∧ other.month < 10 ^ 2 := by omega
  have hdays : date.day < 10 ^ 2 ∧ other.day < 10 ^ 2 := by omega
  -- the hyphens are in the same places
  rw [text_of_plain h, text_of_plain h',
    append_lt_append_iff (by rw [length_paddedDigits, length_paddedDigits]),
    paddedDigits_lt_iff (by decide) (by decide) hyears.1 hyears.2,
    paddedDigits_inj (by decide) (by decide) hyears.1 hyears.2, List.cons_lt_cons_iff,
    append_lt_append_iff (by rw [length_paddedDigits, length_paddedDigits]),
    paddedDigits_lt_iff (by decide) (by decide) hmonths.1 hmonths.2,
    paddedDigits_inj (by decide) (by decide) hmonths.1 hmonths.2, List.cons_lt_cons_iff,
    paddedDigits_lt_iff (by decide) (by decide) hdays.1 hdays.2, dayNumber_lt_iff, Before]
  unfold HasPlainYear at h h'
  have hirrefl : ¬('-' < '-') := by decide
  simp only [hirrefl, false_or, true_and]
  omega

/-! ## Main statement -/

/-- A date is found again in the text that it becomes, so that different dates have different texts.
If its year has four digits, the text is ten characters in the form of a full date, and such texts
compare like the dates; any other year begins with its sign. -/
theorem text_faithful :
    (∀ date : Date, ∃ text, (toValue date : Value) = .text text ∧ ofText? text = some date ∧
      (date.HasPlainYear → text.length = 10 ∧ IsFullDate text.toList) ∧
      (date.year < 0 → text.toList.head? = some '-') ∧
      (9999 < date.year → text.toList.head? = some '+')) ∧
    (∀ date other : Date, (toValue date : Value) = toValue other → date = other) ∧
    ∀ date other : Date, date.HasPlainYear → other.HasPlainYear → ∃ text text',
      (toValue date : Value) = .text text ∧ (toValue other : Value) = .text text' ∧
        (text < text' ↔ date.dayNumber < other.dayNumber) := by
  refine ⟨fun date => ?_, fun date other h => ?_, fun date other h h' => ?_⟩
  · refine ⟨String.ofList date.text, rfl, ofText?_text date, ?_⟩
    rw [String.length_ofList, String.toList_ofList]
    exact ⟨fun h => ⟨length_text_of_plain h, isFullDate_text h⟩, head?_text_of_neg,
      head?_text_of_large⟩
  · have htext : String.ofList date.text = String.ofList other.text := Value.text.inj h
    have hread := ofText?_text date
    rw [htext, ofText?_text other] at hread
    exact (Option.some.inj hread).symm
  · refine ⟨_, _, rfl, rfl, ?_⟩
    rw [String.lt_iff, String.toList_ofList, String.toList_ofList]
    exact text_lt_iff h h'

/-- The first date of a year far before year zero has a sign and six digits, and the leap day of
year zero comes before the last day with a plain year. -/
theorem text_faithful_edges :
    let early : Date := ⟨-262143, 1, 1, by decide, by decide⟩
    let leap : Date := ⟨0, 2, 29, by decide, by decide⟩
    let last : Date := ⟨9999, 12, 31, by decide, by decide⟩
    (toValue early : Value) = .text "-262143-01-01" ∧ ofText? "-262143-01-01" = some early ∧
      "-262143-01-01".toList.head? = some '-' ∧
      (toValue leap : Value) = .text "0000-02-29" ∧ "0000-02-29".length = 10 ∧
      (toValue last : Value) = .text "9999-12-31" ∧ "0000-02-29" < "9999-12-31" := by
  intro early leap last
  obtain ⟨hevery, -, horder⟩ := text_faithful
  have hearly : (toValue early : Value) = .text "-262143-01-01" :=
    congrArg Value.text (by decide +kernel)
  have hleap : (toValue leap : Value) = .text "0000-02-29" :=
    congrArg Value.text (by decide +kernel)
  have hlast : (toValue last : Value) = .text "9999-12-31" :=
    congrArg Value.text (by decide +kernel)
  obtain ⟨text, htext, hread, -, hsign, -⟩ := hevery early
  cases hearly.symm.trans htext
  obtain ⟨text, htext, -, hplain, -⟩ := hevery leap
  cases hleap.symm.trans htext
  obtain ⟨text, text', htext, htext', hless⟩ := horder leap last (by decide) (by decide)
  cases hleap.symm.trans htext
  cases hlast.symm.trans htext'
  exact ⟨hearly, hread, hsign (by decide), hleap, (hplain (by decide)).1, hlast,
    hless.2 (by decide)⟩

end Date

end QueryFilter
