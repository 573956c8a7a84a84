import QueryFilter.Text.Digits

/-!
# JSON string literals

`quoted` writes a text between quotes. Only the quote, the backslash and the controls below U+0020
are escaped: five controls by a letter, the others by `\u` and four lower-case hexadecimal digits.
`readQuoted` reads what stands behind an opening quote, up to the closing one, and gives the rest.
It takes every escape of the JSON grammar; two escapes that spell a surrogate pair make one
character, a lone surrogate is refused, and so is a raw control character.
-/

set_option autoImplicit false

namespace QueryFilter

/-! ## Writing -/

/-- How a character is written inside quotes. -/
def escaped (character : Char) : List Char :=
  if character = '"' then ['\\', '"']
  else if character = '\\' then ['\\', '\\']
  else if character = '\x08' then ['\\', 'b']
  else if character = '\x0c' then ['\\', 'f']
  else if character = '\n' then ['\\', 'n']
  else if character = '\r' then ['\\', 'r']
  else if character = '\t' then ['\\', 't']
  else if character.toNat < 0x20 then '\\' :: 'u' :: paddedDigits 16 4 character.toNat
  else [character]

/-- A text between quotes. -/
def quoted (text : List Char) : List Char := '"' :: text.flatMap escaped ++ ['"']

/-! ## Reading -/

/-- The character that a backslash and a letter spell. -/
def unescaped? : Char → Option Char
  | '"' => some '"'
  | '\\' => some '\\'
  | '/' => some '/'
  | 'b' => some '\x08'
  | 'f' => some '\x0c'
  | 'n' => some '\n'
  | 'r' => some '\r'
  | 't' => some '\t'
  | _ => none

/-- Is this code unit the first half of a surrogate pair? -/
def isHighSurrogate (unit : Nat) : Bool := decide (0xD800 ≤ unit) && decide (unit < 0xDC00)

/-- Is this code unit the second half of a surrogate pair? -/
def isLowSurrogate (unit : Nat) : Bool := decide (0xDC00 ≤ unit) && decide (unit < 0xE000)

/-- The character of a surrogate pair. -/
def ofSurrogates (high low : Nat) : Char :=
  Char.ofNat (0x10000 + (high - 0xD800) * 0x400 + (low - 0xDC00))

/-- Puts a character in front of what has been read. -/
def consRead (character : Char) (read : Option (List Char × List Char)) :
    Option (List Char × List Char) :=
  read.map fun result => (character :: result.1, result.2)

/-- Reads a literal behind its opening quote: its text, and what follows the closing quote. -/
def readQuoted : List Char → Option (List Char × List Char)
  | [] => none
  | '"' :: rest => some ([], rest)
  | '\\' :: 'u' :: a :: b :: c :: d :: rest =>
    match valueOfHex? [a, b, c, d] with
    | none => none
    | some unit =>
      -- the halves of a surrogate pair stand together, the high one first
      if isLowSurrogate unit then none
      else if isHighSurrogate unit then
        match rest with
        | '\\' :: 'u' :: a' :: b' :: c' :: d' :: rest' =>
          match valueOfHex? [a', b', c', d'] with
          | none => none
          | some low =>
            if isLowSurrogate low then consRead (ofSurrogates unit low) (readQuoted rest') else none
        | _ => none
      else consRead (Char.ofNat unit) (readQuoted rest)
  | '\\' :: letter :: rest =>
    match unescaped? letter with
    | none => none
    | some character => consRead character (readQuoted rest)
  -- a control character has to be escaped
  | character :: rest =>
    if character.toNat < 0x20 then none else consRead character (readQuoted rest)

/-- Reading a literal leaves less than it was given. -/
theorem length_of_readQuoted {text content rest : List Char}
    (h : readQuoted text = some (content, rest)) : rest.length < text.length := by
  fun_induction readQuoted text generalizing content <;>
    simp_all [consRead, Option.map_eq_some_iff] <;> grind

end QueryFilter
