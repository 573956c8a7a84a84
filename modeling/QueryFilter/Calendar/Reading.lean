import QueryFilter.Calendar.Instant

/-!
# Reading dates and instants

Readers for the texts of dates and instants. Every reader takes what it reads off the front of a
text and gives the rest. `Date.ofText?` finds the date again. An instant is found as it is written,
a `WrittenInstant`: a leap second is second 60, and the offset has a sign and whole minutes.
-/

set_option autoImplicit false

namespace QueryFilter

/-! ## Parts of a text -/

/-- The number in so many digits, and what follows them. -/
def readNumber? (width : Nat) (text : List Char) : Option (Nat × List Char) :=
  let digits := text.take width
  if digits.length = width ∧ digits.all Char.isDigit = true then
    some (valueOfDigits digits, text.drop width)
  else none

/-- What follows a mark. -/
def readMark? (mark : Char) : List Char → Option (List Char)
  | character :: rest => if character = mark then some rest else none
  | [] => none

/-- Is the sign in front of a text a minus, and what follows it? -/
def readSign? : List Char → Option (Bool × List Char)
  | character :: rest =>
    if character = '-' then some (true, rest)
    else if character = '+' then some (false, rest)
    else none
  | [] => none

/-! ## Dates -/

/-- The year in a sign or none and all digits that follow. -/
def readYear? (text : List Char) : Option (Int × List Char) :=
  let (negative, text) := (readSign? text).getD (false, text)
  let digits := text.takeWhile Char.isDigit
  if digits.isEmpty then none
  else
    some (if negative then -(valueOfDigits digits : Int) else valueOfDigits digits,
      text.dropWhile Char.isDigit)

namespace Date

/-- The date in front of a text. -/
def read? (text : List Char) : Option (Date × List Char) := do
  let (year, text) ← readYear? text
  let text ← readMark? '-' text
  let (month, text) ← readNumber? 2 text
  let text ← readMark? '-' text
  let (day, text) ← readNumber? 2 text
  let date ← of? year month day
  return (date, text)

/-- The date that a text says, if that is all it says. -/
def ofText? (text : String) : Option Date :=
  match read? text.toList with
  | some (date, []) => some date
  | _ => none

end Date

/-! ## Instants -/

/-- What the text of an instant says. -/
structure WrittenInstant where
  date : Date
  hour : Nat
  minute : Nat
  /-- sixty in a leap second -/
  second : Nat
  nanosecond : Nat
  /-- does the offset have a minus sign? -/
  isNegative : Bool
  /-- the size of the offset -/
  minutes : Nat
  deriving DecidableEq

/-- The nanoseconds in a point and up to nine digits, none if there is no point. -/
def readFraction? : List Char → Option (Nat × List Char)
  | '.' :: text =>
    let digits := text.takeWhile Char.isDigit
    if digits.isEmpty ∨ 9 < digits.length then none
    else
      some (valueOfDigits (digits ++ List.replicate (9 - digits.length) '0'),
        text.dropWhile Char.isDigit)
  | text => some (0, text)

/-- Hours and minutes, and what follows them. -/
def readHourMinute? (text : List Char) : Option (Nat × Nat × List Char) := do
  let (hour, text) ← readNumber? 2 text
  let text ← readMark? ':' text
  let (minute, text) ← readNumber? 2 text
  return (hour, minute, text)

namespace WrittenInstant

/-- The instant in front of a text. -/
def read? (text : List Char) : Option (WrittenInstant × List Char) := do
  let (date, text) ← Date.read? text
  let text ← readMark? 'T' text
  let (hour, minute, text) ← readHourMinute? text
  let text ← readMark? ':' text
  let (second, text) ← readNumber? 2 text
  let (nanosecond, text) ← readFraction? text
  let (isNegative, text) ← readSign? text
  let (hours, minutes, text) ← readHourMinute? text
  return (⟨date, hour, minute, second, nanosecond, isNegative, 60 * hours + minutes⟩, text)

/-- The instant that a text says, if that is all it says. -/
def ofText? (text : String) : Option WrittenInstant :=
  match read? text.toList with
  | some (written, []) => some written
  | _ => none

/-- The offset in seconds. -/
def offset (written : WrittenInstant) : Int :=
  if written.isNegative then -(60 * written.minutes : Nat) else (60 * written.minutes : Nat)

end WrittenInstant

end QueryFilter
