import QueryFilter.Sample.Sampler

/-!
# Sampled texts

Names of properties, of formula and rollup types, and of object keys, and texts of any characters on
one line.
-/

set_option autoImplicit false

namespace QueryFilter

/-! ## Letters -/

/-- Capital letters. -/
def capitalLetters : List Char := "ABCDEFGHIJKLMNOPQRSTUVWXYZ".toList

/-- Small letters. -/
def smallLetters : List Char := "abcdefghijklmnopqrstuvwxyz".toList

/-- The ten digits. -/
def decimalCharacters : List Char := "0123456789".toList

/-- What the name of a property can begin with. -/
def nameBeginnings : List Char := capitalLetters ++ smallLetters ++ "ÄÖÜäöü".toList

/-- What the name of a property can go on with. -/
def nameContinuations : List Char :=
  capitalLetters ++ smallLetters ++ decimalCharacters ++ " _äöü".toList

/-- What the key of a sampled object consists of. -/
def keyCharacters : List Char := smallLetters ++ ['_']

/-! ## Samplers -/

namespace Sampler

/-- Texts of so many characters. -/
def texts (least greatest : Nat) (character : Sampler Char) : Sampler String :=
  (lists least greatest character).map String.ofList

/-- The name of a property: a letter and up to fifteen further characters. -/
def propertyName : Sampler String :=
  (both (elements nameBeginnings) (lists 0 15 (elements nameContinuations))).map
    fun (first, rest) => String.ofList (first :: rest)

/-- The name of a type inside a formula or a rollup. -/
def typeName : Sampler String := texts 1 10 (elements smallLetters)

/-- The key of an object. -/
def key : Sampler String := texts 1 8 (elements keyCharacters)

/-- Any character that ends no line. -/
def lineCharacter : Sampler Char :=
  ⟨(· ≠ '\n'), ['a', '"', '\\', '\t', '\x00', '\x7f', 'ß', '\u2028', '\ufffd', '😀'], by simp⟩

/-- Up to twenty-four characters on one line. -/
def line : Sampler String := texts 0 24 lineCharacter

end Sampler

end QueryFilter
