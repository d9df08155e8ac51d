import FleetTraffic.Text.Digits
import FleetTraffic.Text.Pieces
import FleetTraffic.Url.Error

/-!
# Internet addresses

The written forms of addresses of 32 and of 128 bits. An address of 32 bits is read from one to four
numbers, of which the last one fills the bytes that are left, and written as four. One of 128 bits is
eight pieces of 16 bits, of which a run of zeros may be left out.
-/

namespace FleetTraffic

open Text

/-- The number that hexadecimal digits stand for, if they are all digits below a base. -/
def numberIn? (base : Nat) (written : List Char) : Option Nat :=
  written.foldlM
    (fun value c => do
      let digit ← hexDigit? c
      if digit < base then some (base * value + digit) else none)
    0

/-- An address of 32 bits. -/
structure Ipv4 where
  value : UInt32
  deriving DecidableEq

namespace Ipv4

/-- The number that one part of an address stands for. `0x` marks hexadecimal digits and `0` octal
ones. -/
def part? : List Char → Option Nat
  | [] => none
  | '0' :: 'x' :: rest => numberIn? 16 rest
  | '0' :: 'X' :: rest => numberIn? 16 rest
  | ['0'] => some 0
  | '0' :: rest => numberIn? 8 rest
  | written => numberIn? 10 written

/-- The parts of a host, without the empty one after a last dot. -/
def partsOf (host : List Char) : List (List Char) :=
  let parts := piecesBetween '.' host
  if parts.getLast? = some [] ∧ 1 < parts.length then parts.dropLast else parts

/-- Whether a host can only be an address: its last part is a number. -/
def looksLike (host : List Char) : Bool :=
  match (partsOf host).getLast? with
  | none => false
  | some last => (last.all isDigit && !last.isEmpty) || (part? last).isSome

/-- The address that numbers make up. All but the last one fill a byte each. -/
def ofNumbers? (numbers : List Nat) : Option Ipv4 :=
  match numbers.getLast? with
  | none => none
  | some last =>
    let bytes := numbers.dropLast
    if bytes.length ≤ 3 ∧ bytes.all (· < 256) ∧ last < Nat.pow 256 (4 - bytes.length) then
      let high := bytes.foldl (fun value byte => 256 * value + byte) 0
      some ⟨UInt32.ofNat (high * Nat.pow 256 (4 - bytes.length) + last)⟩
    else none

/-- Read an address. -/
def ofHost (host : List Char) : Except UrlError Ipv4 :=
  match (partsOf host).mapM part? >>= ofNumbers? with
  | some address => .ok address
  | none => .error .invalidIpv4

/-- Read an address in its usual form: four numbers below 256 without leading zeros. -/
def ofDotted? (written : List Char) : Option Ipv4 := do
  let parts := piecesBetween '.' written
  let numbers ← parts.mapM fun part =>
    if part.all isDigit ∧ part ≠ [] ∧ (part.length = 1 ∨ part.head? ≠ some '0') then
      some (number part)
    else none
  if numbers.length = 4 then ofNumbers? numbers else none

/-- The bytes of an address, the highest first. -/
def bytes (address : Ipv4) : List Nat :=
  let value := address.value.toNat
  [value / 16777216, value / 65536 % 256, value / 256 % 256, value % 256]

/-- An address in its usual form. -/
def text (address : Ipv4) : List Char := joinedBy '.' (address.bytes.map digits)

end Ipv4

/-- An address of 128 bits, as its pieces. -/
structure Ipv6 where
  pieces : List UInt16
  deriving DecidableEq

namespace Ipv6

/-- The pieces of a part of an address without an omission. Only the last of them may be an address of
32 bits. -/
def pieces? (written : List Char) : Option (List UInt16) := do
  if written = [] then return []
  let parts := piecesBetween ':' written
  let number? (part : List Char) : Option UInt16 := do
    if part = [] ∨ 4 < part.length then none
    return UInt16.ofNat (← numberIn? 16 part)
  let front ← parts.dropLast.mapM number?
  let last ← parts.getLast?
  if last.contains '.' then
    let address ← Ipv4.ofDotted? last
    let value := address.value.toNat
    return front ++ [UInt16.ofNat (value / UInt16.size), UInt16.ofNat (value % UInt16.size)]
  else return front ++ [← number? last]

/-- A text in front of the first pair of colons, and what follows them. -/
def splitOmission? : List Char → Option (List Char × List Char)
  | ':' :: ':' :: rest => some ([], rest)
  | c :: rest => (splitOmission? rest).map fun (front, back) => (c :: front, back)
  | [] => none

/-- Read an address. A pair of colons stands for one or more pieces of zero. -/
def ofText (written : List Char) : Except UrlError Ipv6 :=
  let address? : Option Ipv6 := do
    match splitOmission? written with
    | none => do
      let pieces ← pieces? written
      if pieces.length = 8 then return ⟨pieces⟩ else none
    | some (front, back) => do
      if front.contains '.' then none
      let front ← pieces? front
      let back ← pieces? back
      if front.length + back.length ≤ 7 then
        return ⟨front ++ List.replicate (8 - (front.length + back.length)) 0 ++ back⟩
      else none
  match address? with
  | some address => .ok address
  | none => .error .invalidIpv6

/-- The hexadecimal digits of a piece. -/
def pieceText (piece : UInt16) : List Char := Nat.toDigits 16 piece.toNat

/-- The length of the longest run of zeros in a list of pieces. -/
def longestRun (pieces : List UInt16) : Nat :=
  let step : Nat × Nat → UInt16 → Nat × Nat := fun (current, longest) piece =>
    if piece = 0 then (current + 1, max longest (current + 1)) else (0, longest)
  (pieces.foldl step (0, 0)).2

/-- The pieces in front of the first run of zeros of a length, and the pieces after it. -/
def splitRun (length : Nat) : List UInt16 → List UInt16 × List UInt16
  | [] => ([], [])
  | piece :: rest =>
    if (piece :: rest).take length = List.replicate length 0 then ([], (piece :: rest).drop length)
    else
      let (front, back) := splitRun length rest
      (piece :: front, back)

/-- An address in its usual form. The first of the longest runs of at least two zeros is left out. -/
def text (address : Ipv6) : List Char :=
  let written (pieces : List UInt16) : List Char := joinedBy ':' (pieces.map pieceText)
  let length := longestRun address.pieces
  if length < 2 then written address.pieces
  else
    let (front, back) := splitRun length address.pieces
    written front ++ [':', ':'] ++ written back

end Ipv6

end FleetTraffic
