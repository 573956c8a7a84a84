import QueryFilter.Calendar.Date

/-!
# Instants

An instant is a local date and time of day together with its offset from universal time in
seconds. Nanoseconds from 10^9 on, which only second 59 may have, lie in a leap second. The text is

    YYYY-MM-DDTHH:MM:SS[.fff|.ffffff|.fffffffff]+HH:MM

with the year as in the text of a date, as few groups of three fraction digits as are exact, a leap
second written as second 60, and the offset rounded to whole minutes, a half away from zero. An
offset keeps its sign when it rounds to nothing.
-/

set_option autoImplicit false

namespace QueryFilter

/-- How many nanoseconds a second has. -/
def nanosecondsPerSecond : Nat := 1000000000

/-- A point in time as a clock with an offset shows it. -/
structure Instant where
  date : Date
  hour : Nat
  minute : Nat
  second : Nat
  nanosecond : Nat
  offset : Int
  hour_lt : hour < 24
  minute_lt : minute < 60
  second_lt : second < 60
  nanosecond_lt : nanosecond < 2 * nanosecondsPerSecond
  second_of_leap : nanosecondsPerSecond ≤ nanosecond → second = 59
  offset_gt : -86400 < offset
  offset_lt : offset < 86400
  deriving DecidableEq

namespace Instant

/-- The instant of a date, a time of day and an offset, if they are in range. -/
def of? (date : Date) (hour minute second nanosecond : Nat) (offset : Int) : Option Instant :=
  if h : hour < 24 ∧ minute < 60 ∧ second < 60 ∧ nanosecond < 2 * nanosecondsPerSecond ∧
      (nanosecondsPerSecond ≤ nanosecond → second = 59) ∧ -86400 < offset ∧ offset < 86400 then
    some ⟨date, hour, minute, second, nanosecond, offset, h.1, h.2.1, h.2.2.1, h.2.2.2.1,
      h.2.2.2.2.1, h.2.2.2.2.2.1, h.2.2.2.2.2.2⟩
  else none

/-! ## Text -/

/-- The second as it is written: sixty in a leap second. -/
def writtenSecond (instant : Instant) : Nat :=
  instant.second + instant.nanosecond / nanosecondsPerSecond

/-- The fraction of a second: nothing, or a point and three, six or nine digits. -/
def fractionText (instant : Instant) : List Char :=
  let fraction := instant.nanosecond % nanosecondsPerSecond
  if fraction = 0 then []
  else if fraction % 1000000 = 0 then '.' :: paddedDigits 10 3 (fraction / 1000000)
  else if fraction % 1000 = 0 then '.' :: paddedDigits 10 6 (fraction / 1000)
  else '.' :: paddedDigits 10 9 fraction

/-- The size of the offset in whole minutes. -/
def offsetMinutes (instant : Instant) : Nat := (instant.offset.natAbs + 30) / 60

/-- The sign, hours and minutes of the offset. -/
def offsetText (instant : Instant) : List Char :=
  let sign := if instant.offset < 0 then '-' else '+'
  sign :: paddedDigits 10 2 (instant.offsetMinutes / 60) ++
    ':' :: paddedDigits 10 2 (instant.offsetMinutes % 60)

/-- The time of day without the fraction of a second. -/
def clockText (instant : Instant) : List Char :=
  paddedDigits 10 2 instant.hour ++ ':' :: paddedDigits 10 2 instant.minute ++
    ':' :: paddedDigits 10 2 instant.writtenSecond

/-- The text of an instant. -/
def text (instant : Instant) : List Char :=
  instant.date.text ++ 'T' :: instant.clockText ++ instant.fractionText ++ instant.offsetText

/-- The offset rounds to at most twenty-four hours. -/
theorem offsetMinutes_le (instant : Instant) : instant.offsetMinutes ≤ 1440 := by
  have := instant.offset_gt
  have := instant.offset_lt
  unfold offsetMinutes
  omega

/-- The second is written with two digits. -/
theorem writtenSecond_le (instant : Instant) : instant.writtenSecond ≤ 60 := by
  have := instant.second_lt
  have := instant.nanosecond_lt
  unfold nanosecondsPerSecond at *
  unfold writtenSecond nanosecondsPerSecond
  omega

end Instant

end QueryFilter
