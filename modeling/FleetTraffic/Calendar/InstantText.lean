import FleetTraffic.Calendar.Instant
import FleetTraffic.Text.Blank
import FleetTraffic.Text.Digits

/-!
# Instants as text

An instant is written as `2024-01-31T23:59:60.250Z`: the year with four digits, or with a sign and
at least four outside 0 to 9999; the fraction left out when it is zero and otherwise with the fewest
of 3, 6 and 9 digits that hold it; a leap second as `:60`.

Reading is laxer. Numbers need no leading zeros, blanks may stand before each number, before each
`-` and `:`, before the offset and at both ends, a `t` or a blank may stand for the `T`, digits of
the fraction past the ninth are dropped, and an offset other than `Z` moves the instant to UTC.
-/

namespace FleetTraffic.Instant

open Text

/-- The digits of a year: four of them in 0 to 9999, otherwise a sign and at least four. -/
def yearText (year : Int) : List Char :=
  if 0 ≤ year ∧ year ≤ 9999 then paddedDigits 4 year.toNat
  else (if year < 0 then '-' else '+') :: paddedDigits 4 year.natAbs

/-- The point and the fewest of 3, 6 and 9 digits that hold a number of nanoseconds; nothing for
zero. -/
def fractionText (nanos : Nat) : List Char :=
  if nanos = 0 then []
  else if nanos % 1000000 = 0 then '.' :: paddedDigits 3 (nanos / 1000000)
  else if nanos % 1000 = 0 then '.' :: paddedDigits 6 (nanos / 1000)
  else '.' :: paddedDigits 9 nanos

/-- The text of an instant. -/
def text (instant : Instant) : List Char :=
  let leap := if nanosPerSecond ≤ instant.nano then 1 else 0
  yearText instant.date.year ++ '-' :: paddedDigits 2 instant.date.month ++
    '-' :: paddedDigits 2 instant.date.day ++
    'T' :: paddedDigits 2 (instant.second / 3600) ++
    ':' :: paddedDigits 2 (instant.second / 60 % 60) ++
    ':' :: paddedDigits 2 (instant.second % 60 + leap) ++
    fractionText (instant.nano % nanosPerSecond) ++ ['Z']

/-- A number of one digit to `limit` digits, and the text after it. -/
def readNumber (limit : Nat) (source : List Char) : Option (Nat × List Char) :=
  match takeDigits limit source with
  | ([], _) => none
  | (taken, rest) => some (number taken, rest)

/-- A number of one or two digits that is at most `most`, with blanks in front of it. -/
def readPart (most : Nat) (source : List Char) : Option (Nat × List Char) := do
  let (value, rest) ← readNumber 2 (trimStart source)
  if value ≤ most then some (value, rest) else none

/-- A mark with blanks in front of it. -/
def readMark (mark : Char) (source : List Char) : Option (List Char) :=
  match trimStart source with
  | [] => none
  | c :: rest => if c = mark then some rest else none

/-- A year: one to four digits, or a sign and any number of digits. -/
def readYear (source : List Char) : Option (Int × List Char) :=
  match trimStart source with
  | '-' :: rest => (readNumber rest.length rest).map fun (value, rest) => (-value, rest)
  | '+' :: rest => (readNumber rest.length rest).map fun (value, rest) => (value, rest)
  | rest => (readNumber 4 rest).map fun (value, rest) => (value, rest)

/-- A date that exists. -/
def readDate (source : List Char) : Option (Date × List Char) := do
  let (year, rest) ← readYear source
  let rest ← readMark '-' rest
  let (month, rest) ← readPart 12 rest
  let rest ← readMark '-' rest
  let (day, rest) ← readPart 31 rest
  let date ← Date.of? year month day
  return (date, rest)

/-- A fraction of a second in nanoseconds, zero where no point follows. Digits past the ninth are
dropped. -/
def readFraction (source : List Char) : Option (Nat × List Char) :=
  match source with
  | '.' :: rest =>
    match takeDigits 9 rest with
    | ([], _) => none
    | (taken, rest) => some (number taken * Nat.pow 10 (9 - taken.length), rest.dropWhile isDigit)
  | _ => some (0, source)

/-- A time of day as second and fraction. Second 60 is the leap second after second 59. -/
def readTime (source : List Char) : Option ((Nat × Nat) × List Char) := do
  let (hour, rest) ← readPart 23 source
  let rest ← readMark ':' rest
  let (minute, rest) ← readPart 59 rest
  let rest ← readMark ':' rest
  let (second, rest) ← readPart 60 rest
  let (nano, rest) ← readFraction rest
  let minutes := (hour * 60 + minute) * 60
  if second = 60 then return ((minutes + 59, nano + nanosPerSecond), rest)
  else return ((minutes + second, nano), rest)

/-- Exactly two digits, the first of them at most `most`. -/
def readTwoDigits (most : Char) (source : List Char) : Option (Nat × List Char) :=
  match source with
  | tens :: ones :: rest =>
    if isDigit tens && isDigit ones && tens ≤ most then some (number [tens, ones], rest) else none
  | _ => none

/-- The seconds of an offset written as a sign, two digits of hours, colons or blanks, and two
digits of minutes. The sign for west of UTC may also be the mathematical minus. -/
def readSignedOffset (source : List Char) : Option (Int × List Char) := do
  let (sign, rest) ← match source with
    | '+' :: rest => some ((1 : Int), rest)
    | '-' :: rest => some (-1, rest)
    | '\u2212' :: rest => some (-1, rest)
    | _ => none
  let (hours, rest) ← readTwoDigits '9' rest
  let (minutes, rest) ← readTwoDigits '5' (rest.dropWhile fun c => c == ':' || isBlank c)
  let seconds := (hours * 60 + minutes) * 60
  if seconds < secondsPerDay then return (sign * seconds, rest) else none

/-- The seconds that a place's clock is ahead of UTC: `Z` or `UTC` in either case, or a signed
offset. -/
def readOffset (source : List Char) : Option (Int × List Char) :=
  match source with
  | 'Z' :: rest => some (0, rest)
  | 'z' :: rest => some (0, rest)
  | u :: t :: c :: rest =>
    if [u, t, c].map Char.toLower = ['u', 't', 'c'] then some (0, rest) else readSignedOffset source
  | _ => readSignedOffset source

/-- The instant that a text stands for. -/
def ofText? (source : List Char) : Option Instant := do
  let (date, rest) ← readDate source
  let rest ← match rest with
    | 'T' :: rest => some rest
    | 't' :: rest => some rest
    | ' ' :: rest => some rest
    | _ => none
  let ((second, nano), rest) ← readTime rest
  let (offset, rest) ← readOffset (trimStart rest)
  if isAllBlank rest then
    let here ← of? date second nano
    here.shiftBack? offset
  else none

end FleetTraffic.Instant
