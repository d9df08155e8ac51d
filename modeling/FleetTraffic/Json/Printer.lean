import FleetTraffic.Json.Basic

/-!
# JSON trees as text

A tree is written without blanks. Printing works in front of a given text, so that a value in the
middle of a document is printed without copying what follows it.
-/

namespace FleetTraffic

open Text

namespace Glyph

/-- The lower-case hexadecimal digit for a number below sixteen. -/
def hexDigit (value : Nat) : Char := Nat.digitChar (value % 16)

/-- The letter or sign after the backslash for an escaped character. -/
def escapeSign (c : Char) : Char :=
  if c = '\x08' then 'b'
  else if c = '\x0C' then 'f'
  else if c = '\n' then 'n'
  else if c = '\r' then 'r'
  else if c = '\t' then 't'
  else c

/-- One glyph as it is written, in front of a text. -/
def print (rest : List Char) : Glyph → List Char
  | .plain c => c :: rest
  | .escaped c => '\\' :: escapeSign c :: rest
  | .unit value =>
    '\\' :: 'u' :: hexDigit (value / 4096) :: hexDigit (value / 256) :: hexDigit (value / 16) ::
      hexDigit value :: rest
  | .damaged => '\uFFFD' :: rest

/-- A quoted string in front of a text. -/
def printAll (glyphs : List Glyph) (rest : List Char) : List Char :=
  '"' :: glyphs.foldr (fun glyph rest => glyph.print rest) ('"' :: rest)

end Glyph

namespace Json

/-- The digits of a number in front of a text, with a point before the last `places` of them. -/
def printPlaces (value places : Nat) (rest : List Char) : List Char :=
  let whole := digits (value / Nat.pow 10 places)
  if places = 0 then whole ++ rest
  else whole ++ '.' :: paddedDigits places (value % Nat.pow 10 places) ++ rest

/-- A number with an exponent in front of a text. -/
def printDecimal (negative : Bool) (value places : Nat) (exponent : Int) (rest : List Char) :
    List Char :=
  let sign (isMinus : Bool) (rest : List Char) := if isMinus then '-' :: rest else rest
  sign negative
    (printPlaces value places ('e' :: sign (exponent < 0) (digits exponent.natAbs ++ rest)))

mutual

/-- A value in front of a text. -/
def print : Json → List Char → List Char
  | .null, rest => "null".toList ++ rest
  | .bool true, rest => "true".toList ++ rest
  | .bool false, rest => "false".toList ++ rest
  | .natural value, rest => digits value ++ rest
  | .decimal negative value places exponent, rest =>
    printDecimal negative value places exponent rest
  | .text glyphs, rest => Glyph.printAll glyphs rest
  | .array items closed, rest => '[' :: printItems items (if closed then ']' :: rest else rest)
  | .object fields closed, rest =>
    '\x7b' :: printFields fields (if closed then '\x7d' :: rest else rest)
  | .broken, rest => rest

/-- The items of an array, separated by commas, in front of a text. -/
def printItems : List Json → List Char → List Char
  | [], rest => rest
  | [item], rest => print item rest
  | item :: other :: items, rest => print item (',' :: printItems (other :: items) rest)

/-- The fields of an object, separated by commas, in front of a text. -/
def printFields : List (List Glyph × Json) → List Char → List Char
  | [], rest => rest
  | [(key, value)], rest => Glyph.printAll key (':' :: print value rest)
  | (key, value) :: other :: fields, rest =>
    Glyph.printAll key (':' :: print value (',' :: printFields (other :: fields) rest))

end

/-- The text of a value. -/
def toText (value : Json) : String := String.ofList (value.print [])

end Json

end FleetTraffic
