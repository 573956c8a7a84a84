import Mathlib.Tactic.Common
import QueryFilter.Calendar.Timeline

set_option autoImplicit false

/-!
# Dates in their order

The months of a year fill it (`daysThrough_twelve`), the years follow each other without a gap
(`daysBeforeYear_succ`), and a date lies within its month and its year. So the numbers of dates
compare like the dates do, by year, month and day (`Date.dayNumber_lt_iff`).
-/

namespace QueryFilter

/-! ## Months and years -/

theorem daysThrough_mono (year : Int) {months months' : Nat} (h : months ≤ months') :
    daysThrough year months ≤ daysThrough year months' := by
  induction h with
  | refl => exact Nat.le_refl _
  | step _ ih => exact Nat.le_trans ih (Nat.le_add_right _ _)

theorem daysThrough_twelve (year : Int) :
    daysThrough year 12 = if isLeapYear year then 366 else 365 := by
  simp only [daysThrough, daysInMonth]
  cases isLeapYear year with
  | true => rfl
  | false => rfl

/-- A year begins where the one before it ends. -/
theorem daysBeforeYear_succ (year : Int) :
    daysBeforeYear (year + 1) = daysBeforeYear year + daysThrough year 12 := by
  rw [daysThrough_twelve]
  unfold daysBeforeYear
  cases h : isLeapYear year with
  | true =>
      have hleap : year % 4 = 0 ∧ (year % 100 ≠ 0 ∨ year % 400 = 0) := by
        simpa [isLeapYear] using h
      rw [if_pos rfl]
      omega
  | false =>
      have hcommon : year % 4 = 0 → year % 100 = 0 ∧ year % 400 ≠ 0 := by
        simpa [isLeapYear] using h
      rw [if_neg Bool.false_ne_true]
      omega

theorem daysBeforeYear_mono {year year' : Int} (h : year ≤ year') :
    daysBeforeYear year ≤ daysBeforeYear year' := by
  obtain ⟨count, rfl⟩ := Int.le.dest h
  induction count with
  | zero => exact Int.le_of_eq (by simp)
  | succ count ih =>
      have hnext := daysBeforeYear_succ (year + count)
      have hprevious := ih (by omega)
      rw [Int.natCast_succ, ← Int.add_assoc, hnext]
      omega

namespace Date

/-! ## Dates -/

/-- A date lies behind the months before its own and within them and its own. -/
theorem dayNumber_bounds (date : Date) :
    daysBeforeYear date.year + daysThrough date.year (date.month - 1) ≤ date.dayNumber ∧
      date.dayNumber < daysBeforeYear date.year + daysThrough date.year date.month := by
  obtain ⟨hmonth, -⟩ := date.month_mem
  have hday := date.day_pos
  have hlast := date.day_le
  have hmonths : daysThrough date.year date.month
      = daysThrough date.year (date.month - 1) + daysInMonth date.year date.month := by
    obtain ⟨months, hmonths⟩ := Nat.exists_eq_add_of_le' hmonth
    rw [hmonths]
    rfl
  unfold dayNumber
  omega

/-- A date lies within its year. -/
theorem dayNumber_lt_succ (date : Date) : date.dayNumber < daysBeforeYear (date.year + 1) := by
  obtain ⟨-, hmonth⟩ := date.month_mem
  obtain ⟨-, hlt⟩ := date.dayNumber_bounds
  have hmonths := daysThrough_mono date.year hmonth
  rw [daysBeforeYear_succ]
  omega

/-- The date comes first in the order of the calendar. -/
def Before (date other : Date) : Prop :=
  date.year < other.year ∨ date.year = other.year ∧
    (date.month < other.month ∨ date.month = other.month ∧ date.day < other.day)

theorem dayNumber_lt_of_before {date other : Date} (h : date.Before other) :
    date.dayNumber < other.dayNumber := by
  obtain ⟨hother, -⟩ := other.dayNumber_bounds
  rcases h with hyear | ⟨hyear, hmonth | ⟨hmonth, hday⟩⟩
  · have hlt := date.dayNumber_lt_succ
    have hyears := daysBeforeYear_mono (Int.add_one_le_of_lt hyear)
    omega
  · obtain ⟨-, hlt⟩ := date.dayNumber_bounds
    have hmonths := daysThrough_mono date.year (Nat.le_sub_one_of_lt hmonth)
    rw [← hyear] at hother
    omega
  · have hpos := date.day_pos
    unfold dayNumber
    rw [hyear, hmonth]
    omega

theorem before_or_eq_or_before (date other : Date) :
    date.Before other ∨ date = other ∨ other.Before date := by
  have hsame : date.year = other.year → date.month = other.month → date.day = other.day →
      date = other := by
    obtain ⟨year, month, day, hpos, hle⟩ := date
    rintro rfl rfl rfl
    rfl
  unfold Before
  by_cases h : date.year = other.year ∧ date.month = other.month ∧ date.day = other.day
  · exact Or.inr (Or.inl (hsame h.1 h.2.1 h.2.2))
  · omega

/-- Dates compare like the numbers of their days. -/
theorem dayNumber_lt_iff {date other : Date} :
    date.dayNumber < other.dayNumber ↔ date.Before other := by
  refine ⟨fun hlt => ?_, dayNumber_lt_of_before⟩
  rcases before_or_eq_or_before date other with hbefore | rfl | hafter
  · exact hbefore
  · exact absurd hlt (Int.lt_irrefl _)
  · exact absurd (dayNumber_lt_of_before hafter) (Int.not_lt.2 (Int.le_of_lt hlt))

end Date

end QueryFilter
