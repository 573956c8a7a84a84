import QueryFilter.Calendar.Reading

/-!
# The timeline

Dates are numbered by the days that have passed since the beginning of year zero, and instants stand
for a `Moment` of universal time. A leap second belongs to the second before it.
-/

set_option autoImplicit false

namespace QueryFilter

/-! ## Days -/

/-- The days in the first so many months of a year. -/
def daysThrough (year : Int) : (months : Nat) → Nat
  | 0 => 0
  | months + 1 => daysThrough year months + daysInMonth year (months + 1)

/-- The days from the beginning of year zero to the beginning of a year. Among the years between
them, every fourth has one day more, unless it is a hundredth and no four hundredth. -/
def daysBeforeYear (year : Int) : Int :=
  365 * year + (year + 3) / 4 - (year + 99) / 100 + (year + 399) / 400

/-- The days from the beginning of year zero to a date. -/
def Date.dayNumber (date : Date) : Int :=
  daysBeforeYear date.year + daysThrough date.year (date.month - 1) + (date.day - 1 : Nat)

/-! ## Moments -/

/-- A second of universal time, counted from the beginning of year zero, and the nanoseconds that
have passed since it began. Nanoseconds from 10^9 on lie in a leap second behind it. -/
structure Moment where
  second : Int
  nanosecond : Nat
  deriving DecidableEq

/-- The seconds from the beginning of year zero to a date and a time of day on the same clock. -/
def clockSecond (date : Date) (hour minute second : Nat) : Int :=
  86400 * date.dayNumber + (3600 * hour + 60 * minute + second : Nat)

/-- The moment of an instant: its clock is ahead of universal time by the offset. -/
def Instant.moment (instant : Instant) : Moment where
  second := clockSecond instant.date instant.hour instant.minute instant.second - instant.offset
  nanosecond := instant.nanosecond

/-- The moment that the text of an instant denotes. -/
def WrittenInstant.moment (written : WrittenInstant) : Moment :=
  if written.second = 60 then
    ⟨clockSecond written.date written.hour written.minute 59 - written.offset,
      written.nanosecond + nanosecondsPerSecond⟩
  else
    ⟨clockSecond written.date written.hour written.minute written.second - written.offset,
      written.nanosecond⟩

end QueryFilter
