import FleetTraffic.Text.Digits
import FleetTraffic.Url.Domain.Mapping

/-!
# Labels in ASCII

A label with characters outside ASCII is written with its ASCII characters first and then digits that
tell where which other character goes. The digits stand for the numbers of steps of a machine that goes
through all characters in ascending order, and for each of them through all places in the label; numbers
are written to the base 36 with fewer digits for the likely ones.
-/

namespace FleetTraffic.Domain

open Text

/-- The digit with a value below 36. -/
def digit (value : Nat) : Char :=
  if value < 26 then Char.ofNat ('a'.toNat + value) else Char.ofNat ('0'.toNat + value - 26)

/-- The value of a digit. -/
def digitValue? (c : Char) : Option Nat :=
  if 'a' ≤ c ∧ c ≤ 'z' then some (c.toNat - 'a'.toNat)
  else if '0' ≤ c ∧ c ≤ '9' then some (c.toNat - '0'.toNat + 26)
  else none

/-- A digit has the value that it was written for. -/
theorem digitValue?_digit {value : Nat} (small : value < 36) :
    digitValue? (digit value) = some value := by
  have all : ∀ each ∈ List.range 36, digitValue? (digit each) = some each := by decide
  exact all value (List.mem_range.mpr small)

/-- The least value that is followed by another digit, at the place `place` counted in steps of 36. -/
def threshold (bias place : Nat) : Nat :=
  if place ≤ bias then 1 else if bias + 26 ≤ place then 26 else place - bias

/-- There is always a value below the threshold and one from it on. -/
theorem threshold_bounds (bias place : Nat) :
    1 ≤ threshold bias place ∧ threshold bias place ≤ 26 := by
  unfold threshold
  split
  · omega
  · split <;> omega

/-- The digits of a number from a place on, the lowest first. -/
def numberDigits (bias place number : Nat) : List Char :=
  let least := threshold bias place
  if number < least then [digit number]
  else
    digit (least + (number - least) % (36 - least)) ::
      numberDigits bias (place + 36) ((number - least) / (36 - least))
  termination_by number
  decreasing_by
    have bounds := threshold_bounds bias place
    have smaller := Nat.div_le_self (number - threshold bias place) (36 - threshold bias place)
    omega

/-- A number divided by 35 until it is at most 455, and the number of divisions. -/
def scaled (number : Nat) : Nat × Nat :=
  if 455 < number then
    let (rest, count) := scaled (number / 35)
    (rest, count + 1)
  else (number, 0)
  termination_by number

/-- The bias after a number of steps, with `count` characters placed. -/
def nextBias (first : Bool) (steps count : Nat) : Nat :=
  let halved := if first then steps / 700 else steps / 2
  let (rest, divisions) := scaled (halved + halved / count)
  36 * divisions + 36 * rest / (rest + 38)

/-- The machine between two characters. -/
structure Machine where
  /-- The steps since the last character was placed. -/
  steps : Nat
  bias : Nat
  /-- The number of characters placed so far. -/
  placed : Nat
  written : List Char

/-- Go past one character of the label while characters with the code `code` are placed. -/
def Machine.pass (basics code : Nat) (machine : Machine) (c : Char) : Machine :=
  if c.toNat < code then { machine with steps := machine.steps + 1 }
  else if c.toNat = code then
    { steps := 0
      bias := nextBias (machine.placed = basics) machine.steps (machine.placed + 1)
      placed := machine.placed + 1
      written := machine.written ++ numberDigits machine.bias 36 machine.steps }
  else machine

/-- Place the characters with the given codes, which ascend. `next` is the code after the last one. -/
def Machine.placeAll (label : List Char) (basics : Nat) : List Nat → Nat → Machine → Machine
  | [], _, machine => machine
  | code :: codes, next, machine =>
    let skipped := { machine with steps := machine.steps + (code - next) * (machine.placed + 1) }
    let passed := label.foldl (Machine.pass basics code) skipped
    placeAll label basics codes (code + 1) { passed with steps := passed.steps + 1 }

/-- The ASCII characters and digits of a label. -/
def encodeLabel (label : List Char) : List Char :=
  let basics := label.filter isBasic
  let codes := ((label.filter fun c => !isBasic c).map Char.toNat).mergeSort.eraseDups
  let machine := Machine.placeAll label basics.length codes 0x80 ⟨0, 72, basics.length, []⟩
  basics ++ (if basics.isEmpty then [] else ['-']) ++ machine.written

/-- Numbers of steps have 32 bits. -/
def stepLimit : Nat := UInt32.size

/-- Add a number to `steps`, with its digits from a place on and the weight of the first of them. What
follows the digits remains. -/
def addDigits? (bias : Nat) : Nat → Nat → Nat → List Char → Option (Nat × List Char)
  | _, _, _, [] => none
  | place, weight, steps, c :: rest =>
    match digitValue? c with
    | none => none
    | some value =>
      let least := threshold bias place
      let sum := steps + value * weight
      if stepLimit ≤ sum then none
      else if value < least then some (sum, rest)
      else if stepLimit ≤ weight * (36 - least) then none
      else addDigits? bias (place + 36) (weight * (36 - least)) sum rest

/-- A number has at least one digit. -/
theorem addDigits?_length {bias place weight steps : Nat} {digits : List Char}
    {added : Nat × List Char} (read : addDigits? bias place weight steps digits = some added) :
    added.2.length < digits.length := by
  fun_induction addDigits? bias place weight steps digits with
  | case1 => simp at read
  | case2 => simp at read
  | case3 => simp at read
  | case4 =>
    cases read
    simp
  | case5 => simp at read
  | case6 _ _ _ _ _ _ _ _ _ _ _ _ inductionHypothesis =>
    have shorter := inductionHypothesis read
    simp only [List.length_cons]
    omega

/-- The character with a code. Codes of halves of characters stand for none. -/
def charOf? (code : Nat) : Option Char :=
  if code.isValidChar then some (Char.ofNat code) else none

/-- Put characters into a label as digits tell. `code` is the one of the last character placed and
`steps` the place after it. -/
def decodeInto (bias code steps : Nat) (label : List Char) (digits : List Char) :
    Option (List Char) :=
  match digits with
  | [] => some label
  | c :: rest =>
    match _read : addDigits? bias 36 1 steps (c :: rest) with
    | none => none
    | some (sum, rest') => do
      let count := label.length + 1
      let code := code + sum / count
      let placed ← charOf? code
      decodeInto (nextBias (steps = 0) (sum - steps) count) code (sum % count + 1)
        (label.insertIdx (sum % count) placed) rest'
  termination_by digits.length
  decreasing_by exact addDigits?_length _read

/-- The label that ASCII characters and digits stand for. The last hyphen divides them. -/
def decodeLabel? (written : List Char) : Option (List Char) :=
  let digits := (written.reverse.takeWhile (· != '-')).reverse
  let basics := written.take (written.length - digits.length - 1)
  decodeInto 72 0x80 0 basics digits

end FleetTraffic.Domain
