import QueryFilter.Text.Digits

/-!
# Calendar dates

A date of the Gregorian calendar, extended to all years; there is a year zero. Its text is

    YYYY-MM-DD

where a year outside 0 to 9999 has an explicit sign, and every year at least four digits.
-/

set_option autoImplicit false

namespace QueryFilter

/-! ## Lengths of months -/

/-- Does the year have a 29th of February? -/
def isLeapYear (year : Int) : Bool :=
  year % 4 == 0 && (year % 100 != 0 || year % 400 == 0)

/-- The number of days in a month of a year; none in a month that does not exist. -/
def daysInMonth (year : Int) (month : Nat) : Nat :=
  if month = 2 then (if isLeapYear year then 29 else 28)
  else if month ∈ [4, 6, 9, 11] then 30
  else if 1 ≤ month ∧ month ≤ 12 then 31
  else 0

/-- A day of the calendar. -/
structure Date where
  year : Int
  month : Nat
  day : Nat
  day_pos : 1 ≤ day
  day_le : day ≤ daysInMonth year month
  deriving DecidableEq

namespace Date

/-- The date of three numbers, if there is one. -/
def of? (year : Int) (month day : Nat) : Option Date :=
  if h : 1 ≤ day ∧ day ≤ daysInMonth year month then some ⟨year, month, day, h.1, h.2⟩ else none

/-- The month of a date is one of twelve. -/
theorem month_mem (date : Date) : 1 ≤ date.month ∧ date.month ≤ 12 := by
  obtain ⟨year, month, day, hpos, hle⟩ := date
  by_cases h : 1 ≤ month ∧ month ≤ 12
  · exact h
  · have hzero : daysInMonth year month = 0 := by
      simp only [daysInMonth, List.mem_cons, List.not_mem_nil, or_false]
      rw [if_neg (by omega), if_neg (by omega), if_neg h]
    omega

/-! ## Text -/

/-- The digits of a year, at least four, with a sign outside 0 to 9999. -/
def yearText (year : Int) : List Char :=
  let digits := paddedDigits 10 (max 4 (digitCount year.natAbs)) year.natAbs
  if year < 0 then '-' :: digits
  else if 9999 < year then '+' :: digits
  else digits

/-- The text of a date. -/
def text (date : Date) : List Char :=
  yearText date.year ++ '-' :: paddedDigits 10 2 date.month ++ '-' :: paddedDigits 10 2 date.day

end Date

end QueryFilter
