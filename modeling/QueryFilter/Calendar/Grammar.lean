import QueryFilter.Calendar.Date

/-!
# The grammar of date-times

The date-times of RFC 3339: a year of four digits, numbers of two digits within their ranges, a
fraction of any length or none, and an offset of hours and minutes or the letter that stands for
none. The two letters may be in either case.

    date-time = full-date "T" partial-time time-offset
    full-date = 4DIGIT "-" 2DIGIT "-" 2DIGIT
    partial-time = 2DIGIT ":" 2DIGIT ":" 2DIGIT [ "." 1*DIGIT ]
    time-offset = "Z" / ( "+" / "-" ) 2DIGIT ":" 2DIGIT
-/

set_option autoImplicit false

namespace QueryFilter

/-- A run of so many digits, with a value within bounds. -/
structure IsNumeral (width least greatest : Nat) (text : List Char) : Prop where
  length_eq : text.length = width
  isDigit : ∀ c ∈ text, c.isDigit = true
  le_value : least ≤ valueOfDigits text
  value_le : valueOfDigits text ≤ greatest

/-- A date: the day is one of the month in the year. -/
inductive IsFullDate : List Char → Prop where
  | intro {year month day : List Char} (hyear : IsNumeral 4 0 9999 year)
      (hmonth : IsNumeral 2 1 12 month)
      (hday : IsNumeral 2 1 (daysInMonth (valueOfDigits year) (valueOfDigits month)) day) :
      IsFullDate (year ++ '-' :: month ++ '-' :: day)

/-- A fraction of a second, or nothing. -/
inductive IsFraction : List Char → Prop where
  | none : IsFraction []
  | some {digits : List Char} (hne : digits ≠ []) (hdigits : ∀ c ∈ digits, c.isDigit = true) :
      IsFraction ('.' :: digits)

/-- A time of day; second 60 is a leap second. -/
inductive IsPartialTime : List Char → Prop where
  | intro {hour minute second fraction : List Char} (hhour : IsNumeral 2 0 23 hour)
      (hminute : IsNumeral 2 0 59 minute) (hsecond : IsNumeral 2 0 60 second)
      (hfraction : IsFraction fraction) :
      IsPartialTime (hour ++ ':' :: minute ++ ':' :: second ++ fraction)

/-- An offset from universal time. -/
inductive IsTimeOffset : List Char → Prop where
  | universal {letter : Char} (hletter : letter = 'Z' ∨ letter = 'z') : IsTimeOffset [letter]
  | numeric {sign : Char} {hour minute : List Char} (hsign : sign = '+' ∨ sign = '-')
      (hhour : IsNumeral 2 0 23 hour) (hminute : IsNumeral 2 0 59 minute) :
      IsTimeOffset (sign :: hour ++ ':' :: minute)

/-- A date and a time of day with its offset. -/
inductive IsDateTime : List Char → Prop where
  | intro {date time offset : List Char} {letter : Char} (hdate : IsFullDate date)
      (hletter : letter = 'T' ∨ letter = 't') (htime : IsPartialTime time)
      (hoffset : IsTimeOffset offset) : IsDateTime (date ++ letter :: time ++ offset)

end QueryFilter
