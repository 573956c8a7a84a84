import QueryFilter.Number.Shortest

/-!
# JSON numbers

A JSON number is an integer that fits a signed or an unsigned 64-bit word, or a finite double.
`JsonNumber.text` writes it; integers have no point and no exponent, and doubles always have one of
the two, so the class of a number can be told from its text. `JsonNumber.ofText?` reads any
spelling of the JSON grammar: a text without point and exponent is an integer if it fits, and every
other one is the nearest double, which must be finite. Minus zero is a double. A tie between two
doubles that is spelled with more digits than `Decimal.decisiveDigits` goes to the one farther from
zero.
-/

set_option autoImplicit false

namespace QueryFilter

/-- The least signed word: -2^63. -/
def leastInteger : Int := -9223372036854775808

/-- The first integer above the unsigned words: 2^64. -/
def integerBound : Int := 18446744073709551616

/-- A number of a JSON document. -/
inductive JsonNumber where
  | integer (value : Int) (lower : leastInteger ≤ value) (upper : value < integerBound)
  | float (value : Double) (finite : value.isFinite = true)
  deriving DecidableEq

namespace JsonNumber

/-! ## Writing doubles -/

/-- The least and the greatest exponent of the first digit for which the digits are written
around a point; outside them an exponent is written. -/
structure PlainRange where
  least : Int
  greatest : Int

/-- From 0.00001 up to 9999999999999998.0 numbers are written without an exponent. -/
def plainRange : PlainRange := ⟨-5, 15⟩

/-- Digits around a point: at least one on either side. -/
def plainText (digits : List Char) (exponent : Int) : List Char :=
  if exponent < 0 then '0' :: '.' :: List.replicate (-exponent - 1).toNat '0' ++ digits
  else
    let whole := exponent.toNat + 1
    let fraction := digits.drop whole
    digits.take whole ++ List.replicate (whole - digits.length) '0' ++
      '.' :: (if fraction.isEmpty then ['0'] else fraction)

/-- Digits with a signed exponent: a point only in front of further digits. -/
def exponentText (digits : List Char) (exponent : Int) : List Char :=
  let fraction := digits.drop 1
  let sign := if exponent < 0 then '-' else '+'
  digits.take 1 ++ (if fraction.isEmpty then [] else '.' :: fraction) ++
    'e' :: sign :: decimalDigits exponent.natAbs

/-- The text of a decimal that is not negative. -/
def decimalText (number : Decimal) : List Char :=
  let digits := decimalDigits number.digits
  let exponent := number.exponent + digits.length - 1
  if number.digits = 0 then plainText digits 0
  else if plainRange.least ≤ exponent ∧ exponent ≤ plainRange.greatest then
    plainText digits exponent
  else exponentText digits exponent

/-- The text of a finite double: the fewest digits that read back. -/
def floatText (value : Double) : List Char :=
  let digits := decimalText (shortestDecimal value.magnitude)
  if value.isNegative then '-' :: digits else digits

/-- The text of a number. -/
def text : JsonNumber → List Char
  | .integer value _ _ => integerText value
  | .float value _ => floatText value

/-! ## Reading -/

/-- The double of a sign and a decimal, if it is finite. -/
def ofDecimal? (negative : Bool) (number : Decimal) : Option JsonNumber :=
  match number.magnitude? with
  | none => none
  | some magnitude =>
    let value := Double.ofMagnitude negative magnitude
    if finite : value.isFinite = true then some (.float value finite) else none

/-- The number of a sign and whole digits: an integer if it fits, else a double. -/
def ofWhole? (negative : Bool) (whole : Nat) : Option JsonNumber :=
  let value : Int := if negative then -whole else whole
  -- an integer has no sign to keep when it is zero
  if negative = true ∧ whole = 0 then ofDecimal? negative ⟨whole, 0⟩
  else if h : leastInteger ≤ value ∧ value < integerBound then some (.integer value h.1 h.2)
  else ofDecimal? negative ⟨whole, 0⟩

/-- The exponent that follows the letter `e`: a sign or none, then digits. -/
def exponentOfText? (text : List Char) : Option Int :=
  let (negative, digits) := match text with
    | '-' :: rest => (true, rest)
    | '+' :: rest => (false, rest)
    | rest => (false, rest)
  if digits.isEmpty || !digits.all Char.isDigit then none
  else some (if negative then -(valueOfDigits digits : Int) else valueOfDigits digits)

/-- Splits a text in front of its first character that is no digit. -/
def splitDigits (text : List Char) : List Char × List Char :=
  (text.takeWhile Char.isDigit, text.dropWhile Char.isDigit)

/-- The fraction digits behind a point, if there is one, and what follows them. A point needs a
digit behind it. -/
def fractionOfText? : List Char → Option (List Char × List Char)
  | '.' :: rest =>
    let (fraction, rest) := splitDigits rest
    if fraction.isEmpty then none else some (fraction, rest)
  | rest => some ([], rest)

/-- The decimal that whole digits, fraction digits and an exponent are compared as. Zeros at the end
of the fraction are no digits of it, but zeros at the end of the whole digits are. -/
def decimalOfParts (whole fraction : List Char) (exponent : Int) : Decimal :=
  let fraction := trimZeros fraction
  Decimal.condense ⟨valueOfDigits (whole ++ fraction), exponent - fraction.length⟩

/-- The number that a text without sign spells. -/
def ofUnsigned? (negative : Bool) (text : List Char) : Option JsonNumber :=
  let (whole, rest) := splitDigits text
  if whole.isEmpty || decide (1 < whole.length) && whole.head? == some '0' then none
  else if rest.isEmpty then ofWhole? negative (valueOfDigits whole)
  else
    match fractionOfText? rest with
    | none => none
    | some (fraction, rest) =>
      match rest with
      | [] => ofDecimal? negative (decimalOfParts whole fraction 0)
      | letter :: rest =>
        if letter = 'e' ∨ letter = 'E' then
          match exponentOfText? rest with
          | none => none
          | some exponent => ofDecimal? negative (decimalOfParts whole fraction exponent)
        else none

/-- The number that a text spells: a minus sign or none, digits without a leading zero, a fraction
or none, an exponent or none, and nothing else. -/
def ofText? : List Char → Option JsonNumber
  | '-' :: rest => ofUnsigned? true rest
  | text => ofUnsigned? false text

/-! ## Numbers from words -/

/-- A signed 64-bit word as a number. -/
def ofInt64 (value : Int64) : JsonNumber :=
  .integer value.toInt
    (by
      have := Int64.le_toInt value
      unfold leastInteger
      omega)
    (by
      have := Int64.toInt_lt value
      unfold integerBound
      omega)

/-- An unsigned 64-bit word as a number. -/
def ofUInt64 (value : UInt64) : JsonNumber :=
  .integer value.toNat
    (by
      unfold leastInteger
      omega)
    (by
      have := value.toNat_lt
      unfold integerBound
      omega)

/-- The word that a number is: an integer that is not negative. -/
def toUInt64? : JsonNumber → Option UInt64
  | .integer value _ _ => if value < 0 then none else some (UInt64.ofNat value.toNat)
  | .float _ _ => none

end JsonNumber

end QueryFilter
