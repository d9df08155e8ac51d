/-!
# Decimal digits

Runs of ASCII digits and the numbers they stand for, and single hexadecimal digits. Writing pads with
zeros on the left to a least width; reading takes at most a given number of digits.
-/

namespace FleetTraffic.Text

/-- Whether a character is one of the ten ASCII digits. -/
def isDigit (c : Char) : Bool := c.isDigit

/-- The longest run of digits in front of a text, and what follows it. -/
def spanDigits (text : List Char) : List Char × List Char :=
  (text.takeWhile isDigit, text.dropWhile isDigit)

/-- The longest run of at most `limit` digits in front of a text, and what follows it. -/
def takeDigits : Nat → List Char → List Char × List Char
  | 0, text => ([], text)
  | _ + 1, [] => ([], [])
  | limit + 1, c :: rest =>
    if isDigit c then
      let taken := takeDigits limit rest
      (c :: taken.1, taken.2)
    else ([], c :: rest)

/-- The number that a run of digits stands for. -/
def number (digits : List Char) : Nat := Nat.ofDigitChars 10 digits 0

/-- The digits of a number, without leading zeros. -/
def digits (number : Nat) : List Char := Nat.toDigits 10 number

/-- The digits of a number with zeros in front, up to a least width. -/
def paddedDigits (width number : Nat) : List Char :=
  List.replicate (width - (digits number).length) '0' ++ digits number

/-- The value of a hexadecimal digit. -/
def hexDigit? (c : Char) : Option Nat :=
  if '0' ≤ c ∧ c ≤ '9' then some (c.toNat - '0'.toNat)
  else if 'a' ≤ c ∧ c ≤ 'f' then some (c.toNat - 'a'.toNat + 10)
  else if 'A' ≤ c ∧ c ≤ 'F' then some (c.toNat - 'A'.toNat + 10)
  else none

/-- Whether a character is a hexadecimal digit. -/
def isHexDigit (c : Char) : Bool := (hexDigit? c).isSome

/-- The digits of a number stand for it. -/
theorem number_digits (value : Nat) : number (digits value) = value :=
  Nat.ofDigitChars_ten_toDigits

/-- Zeros in front do not change what digits stand for. -/
theorem number_paddedDigits (width value : Nat) : number (paddedDigits width value) = value := by
  simp [number, paddedDigits, digits, Nat.ofDigitChars_append, Nat.ofDigitChars_replicate_zero]

end FleetTraffic.Text
