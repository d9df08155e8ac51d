import FleetTraffic.Text.Digits

/-!
# The range of double precision

A decimal number can be held in double precision unless it rounds to infinity. The test compares
whole numbers and never computes a power of ten with more digits than the number has.

A number can also be estimated as the product of two doubles: its leading digits, as many as 64 bits
hold, and a power of ten. The estimate may be infinite where the number is not, and the other way
around.
-/

namespace FleetTraffic.Text

/-- The least number that rounds to infinity in double precision: half a step above the greatest
finite double. -/
def doubleLimit : Nat := Nat.pow 2 1024 - Nat.pow 2 970

/-- Whether `value · 10^exponent` is finite in double precision. -/
def isFiniteDouble (value : Nat) (exponent : Int) : Bool :=
  if value = 0 then true
  else if 0 ≤ exponent then exponent ≤ 400 && value * Nat.pow 10 exponent.toNat < doubleLimit
  else
    let places := exponent.natAbs
    (digits value).length ≤ places || value < doubleLimit * Nat.pow 10 places

/-- The number with 53 significant binary digits that is nearest to a number. Of two, it is the one
with an even last digit. -/
def nearestDouble (value : Nat) : Nat :=
  let step := Nat.pow 2 (value.log2 + 1 - 53)
  let count := value / step
  let rest := value % step
  if 2 * rest < step ∨ (2 * rest = step ∧ count % 2 = 0) then count * step else (count + 1) * step

/-- Take digits into a number for as long as it has at most 64 bits. The digits from the first one on
that does not fit are left over. -/
def takeSignificant (significand : Nat) : List Char → Nat × List Char
  | [] => (significand, [])
  | digit :: digits =>
    let extended := 10 * significand + number [digit]
    if extended < UInt64.size then takeSignificant extended digits else (significand, digit :: digits)

/-- Whether the estimate of a number is finite. The last `places` of its digits stand behind the point.
Digits in front of the point that do not fit into 64 bits are taken for zeros, and digits behind it are
tried once more. -/
def isFiniteEstimate (value places : Nat) (exponent : Int) : Bool :=
  let fraction := if places = 0 then [] else paddedDigits places (value % Nat.pow 10 places)
  let (significand, skipped) := takeSignificant 0 (digits (value / Nat.pow 10 places))
  let (significand, dropped) := takeSignificant significand fraction
  let exponent := exponent + skipped.length - (places - dropped.length)
  significand = 0 || exponent < 0 ||
    (exponent ≤ 308 &&
      nearestDouble significand * nearestDouble (Nat.pow 10 exponent.toNat) < doubleLimit)

end FleetTraffic.Text
