import FleetTraffic.Text.Digits

/-!
# JSON trees

A JSON text becomes a tree even when it is malformed: the tree then holds what stood in front of the
first fault, every container around the fault is marked as not closed, and `broken` stands for a
value that did not come. A decoder that walks such a tree from left to right meets the faults of the
text in the order in which they stand there.

Strings keep how they were written, glyph by glyph, since some rules look at the spelling and a
string that nobody decodes need not be well-formed Unicode.
-/

namespace FleetTraffic

/-- One position of a JSON string as it was written. -/
inductive Glyph where
  /-- A character that stands for itself. -/
  | plain (c : Char)
  /-- A backslash and one letter or sign, here the character that it stands for. -/
  | escaped (c : Char)
  /-- A backslash, `u` and four hexadecimal digits: a UTF-16 code unit. -/
  | unit (value : Nat)
  /-- Bytes that are no well-formed UTF-8. -/
  | damaged
  deriving DecidableEq

/-- A JSON value, as far as its text could be read. -/
inductive Json where
  | null
  | bool (value : Bool)
  /-- A number literal of digits alone. -/
  | natural (value : Nat)
  /-- Any other number literal: digits of which the last `places` stand behind the point, times
  `10^exponent`, negative if there is a minus sign. -/
  | decimal (negative : Bool) (digits places : Nat) (exponent : Int)
  | text (glyphs : List Glyph)
  | array (items : List Json) (closed : Bool)
  | object (fields : List (List Glyph × Json)) (closed : Bool)
  /-- A value was expected and did not come. -/
  | broken
  deriving Inhabited

namespace Glyph

/-- Whether a number is a leading UTF-16 surrogate. -/
def isLeadingSurrogate (value : Nat) : Bool := 0xD800 ≤ value && value < 0xDC00

/-- Whether a number is a trailing UTF-16 surrogate. -/
def isTrailingSurrogate (value : Nat) : Bool := 0xDC00 ≤ value && value < 0xE000

/-- The characters that glyphs stand for. There are none if a glyph is damaged or a surrogate stands
without its partner. -/
def decode? : List Glyph → Option (List Char)
  | [] => some []
  | .plain c :: rest => (decode? rest).map (c :: ·)
  | .escaped c :: rest => (decode? rest).map (c :: ·)
  | .unit leading :: .unit trailing :: rest =>
    if isLeadingSurrogate leading then
      if isTrailingSurrogate trailing then
        (decode? rest).map
          (Char.ofNat (0x10000 + (leading - 0xD800) * 0x400 + (trailing - 0xDC00)) :: ·)
      else none
    else if isTrailingSurrogate leading then none
    else (decode? (.unit trailing :: rest)).map (Char.ofNat leading :: ·)
  | .unit value :: rest =>
    if isLeadingSurrogate value || isTrailingSurrogate value then none
    else (decode? rest).map (Char.ofNat value :: ·)
  | .damaged :: _ => none

/-- How a character is written: quote, backslash and the control characters are escaped, with a
letter where there is one. -/
def encodeChar (c : Char) : Glyph :=
  if c = '"' ∨ c = '\\' ∨ c = '\n' ∨ c = '\r' ∨ c = '\t' ∨ c = '\x08' ∨ c = '\x0C' then .escaped c
  else if c.toNat < 0x20 then .unit c.toNat
  else .plain c

/-- How a text is written. -/
def encode (text : List Char) : List Glyph := text.map encodeChar

end Glyph

namespace Json

/-- The string value for a text. -/
def ofText (text : String) : Json := .text (Glyph.encode text.toList)

/-- A closed array. -/
def ofItems (items : List Json) : Json := .array items true

/-- A closed object with the given field names and values. -/
def ofFields (fields : List (String × Json)) : Json :=
  .object (fields.map fun field => (Glyph.encode field.1.toList, field.2)) true

/-- Whether the text of this value was read to its end. A fault inside a container leaves every
container around it open, so it is enough to look at the outermost. -/
def isWhole : Json → Bool
  | .array _ closed => closed
  | .object _ closed => closed
  | .broken => false
  | _ => true

end Json

end FleetTraffic
