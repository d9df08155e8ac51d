import FleetTraffic.Text.Digits

/-!
# Percent encoding

A byte may be written as a percent sign and two hexadecimal digits. Writing escapes the characters of
a class and everything outside ASCII; reading leaves alone what is no complete escape.
-/

namespace FleetTraffic.Text

/-- The bytes of a text in UTF-8. -/
def utf8Bytes (text : List Char) : List UInt8 := text.flatMap String.utf8EncodeChar

/-- The upper-case hexadecimal digit of a value below 16. -/
def upperHexDigit (value : Nat) : Char :=
  if value < 10 then Char.ofNat ('0'.toNat + value) else Char.ofNat ('A'.toNat + value - 10)

/-- A byte as an escape. -/
def escapedByte (byte : UInt8) : List Char :=
  ['%', upperHexDigit (byte.toNat / 16), upperHexDigit (byte.toNat % 16)]

/-- A text with the characters of a class and those outside ASCII escaped. -/
def percentEncode (escapes : Char → Bool) (text : List Char) : List Char :=
  text.flatMap fun c =>
    if 0x80 ≤ c.toNat || escapes c then (String.utf8EncodeChar c).flatMap escapedByte else [c]

/-- The byte that two hexadecimal digits stand for. -/
def hexByte? (high low : UInt8) : Option UInt8 := do
  let high ← hexDigit? (Char.ofNat high.toNat)
  let low ← hexDigit? (Char.ofNat low.toNat)
  return UInt8.ofNat (16 * high + low)

/-- Bytes with each complete escape replaced by the byte that it stands for. -/
def percentDecode : List UInt8 → List UInt8
  | mark :: high :: low :: rest =>
    match if mark = 0x25 then hexByte? high low else none with
    | some byte => byte :: percentDecode rest
    | none => mark :: percentDecode (high :: low :: rest)
  | byte :: rest => byte :: percentDecode rest
  | [] => []

/-- The text that is written with escapes, if its bytes are well formed. -/
def percentDecodeText? (text : List Char) : Option String :=
  String.fromUTF8? ⟨(percentDecode (utf8Bytes text)).toArray⟩

end FleetTraffic.Text
