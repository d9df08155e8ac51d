import FleetTraffic.Calendar.Date
import FleetTraffic.Text.Pieces
import FleetTraffic.Toml.Lexical
import FleetTraffic.Toml.Value

/-!
# Numbers, truth values and dates of TOML

What is neither a string nor a container stands up to the next blank, line end or mark, and its
spelling alone decides what it is. Digits may be separated by single underscores; decimal numbers have
no leading zeros. After an underscore an integer is not looked at closely: its spelling is checked
only next to underscores, and digits of another base may stand there. Such an integer is unreadable.
-/

namespace FleetTraffic.Toml

open Text

/-- Whether underscores separate digits: none stands in front, at the end or next to another one, what
follows one begins with a digit, and what stands before one ends with a digit or is a single
character. -/
def underscoresFit (isDigit : Char → Bool) (spelling : List Char) : Bool :=
  match piecesBetween '_' spelling with
  | first :: second :: others =>
    !first.isEmpty &&
      (second :: others).all (fun piece => piece.head?.any isDigit) &&
      (first :: second :: others).dropLast.all fun piece =>
        piece.length ≤ 1 || piece.getLast?.any isDigit
  | _ => true

/-- A text without its underscores. -/
def withoutUnderscores (text : List Char) : List Char := text.filter (· != '_')

/-- Whether digits start with a zero that is not the only one. -/
def hasLeadingZero : List Char → Bool
  | '0' :: _ :: _ => true
  | _ => false

/-- A sign, if there is one, and what follows it. -/
def splitSign : List Char → Bool × List Char
  | '-' :: rest => (true, rest)
  | '+' :: rest => (false, rest)
  | rest => (false, rest)

/-- Whether a character is a digit below a base. -/
def isDigitBelow (base : Nat) (c : Char) : Bool := (hexDigit? c).any (· < base)

/-- The base that a letter after a zero stands for. -/
def base? : Char → Option Nat
  | 'x' => some 16
  | 'o' => some 8
  | 'b' => some 2
  | _ => none

/-- An integer in a base given by a letter after a zero. It may lack its digits. -/
def basedInteger? : List Char → Option TomlValue
  | '0' :: letter :: rest => do
    let base ← base? letter
    if rest.all (fun c => isDigitBelow base c || c == '_') && underscoresFit isHexDigit rest then
      match withoutUnderscores rest with
      | [] => return .unreadable
      | digits =>
        return .integer
          (digits.foldl (fun value c => base * value + (hexDigit? c).getD 0) 0 : Nat)
    else none
  | _ => none

/-- A decimal integer. -/
def decimalInteger? (spelling : List Char) : Option TomlValue := do
  let (negative, unsigned) := splitSign spelling
  let isLoose := match unsigned.dropWhile isDigit with
    | [] => !unsigned.isEmpty
    | '_' :: rest => !rest.any (".eE ".toList.contains ·) && underscoresFit isHexDigit spelling
    | _ => false
  if isLoose && !hasLeadingZero unsigned then
    let digits := withoutUnderscores unsigned
    if digits.all isDigit then
      return .integer (if negative then -(number digits : Int) else (number digits : Int))
    else return .unreadable
  else none

/-- The digits in front of a text, with the underscores among them. There must be a digit. -/
def readDigits : Reader (List Char) := fun text =>
  let isPart := fun c => isDigit c || c == '_'
  let run := text.takeWhile isPart
  if run.any isDigit then some (run, text.dropWhile isPart) else none

/-- The fraction of a float, if there is a point. -/
def readFraction : Reader (List Char)
  | '.' :: rest => readDigits rest
  | rest => some ([], rest)

/-- The exponent of a float, if there is an `e`. -/
def readExponent : Reader (Option Int)
  | c :: rest =>
    if c = 'e' ∨ c = 'E' then do
      let (negative, rest) := splitSign rest
      let (run, rest) ← readDigits rest
      let value := number (withoutUnderscores run)
      return (some (if negative then -(value : Int) else value), rest)
    else some (none, c :: rest)
  | [] => some (none, [])

/-- A float with digits. -/
def decimalFloat? (spelling : List Char) : Option TomlValue := do
  let (whole, rest) ← readDigits (splitSign spelling).2
  let (fraction, rest) ← readFraction rest
  let (exponent, rest) ← readExponent rest
  let hasLeadingZero := whole.head? = some '0' ∧ 1 < (withoutUnderscores whole).length
  if rest ≠ [] ∨ (fraction = [] ∧ exponent = none) ∨ hasLeadingZero then none
  else if underscoresFit isDigit spelling then
    let fraction := withoutUnderscores fraction
    return .float (number (withoutUnderscores whole ++ fraction))
      (exponent.getD 0 - fraction.length)
  else none

/-- An infinity or a not-a-number. -/
def special? (text : List Char) : Option TomlValue :=
  let name := (splitSign text).2
  if name = "inf".toList ∨ name = "nan".toList then some .nonFinite else none

/-- Exactly two digits in front of a text. -/
def twoDigits : Reader Nat
  | a :: b :: rest => if isDigit a && isDigit b then some (number [a, b], rest) else none
  | _ => none

/-- A date that exists in a year of four digits. -/
def readDate (text : List Char) : Option (Unit × List Char) := do
  let year := text.take 4
  if year.length = 4 ∧ year.all isDigit then
    let rest ← mark '-' (text.drop 4)
    let (month, rest) ← twoDigits rest
    let rest ← mark '-' rest
    let (day, rest) ← twoDigits rest
    let _ ← Date.of? (number year) month day
    return ((), rest)
  else none

/-- A time of day. The seconds may be left out. -/
def readTime (text : List Char) : Option (Unit × List Char) := do
  let (hour, rest) ← twoDigits text
  let rest ← mark ':' rest
  let (minute, rest) ← twoDigits rest
  if hour ≤ 23 ∧ minute ≤ 59 then
    match rest with
    | ':' :: rest =>
      let (second, rest) ← twoDigits rest
      if second ≤ 60 then
        match rest with
        | '.' :: rest =>
          let fraction := rest.takeWhile isDigit
          if fraction.isEmpty then none else return ((), rest.drop fraction.length)
        | _ => return ((), rest)
      else none
    | _ => return ((), rest)
  else none

/-- Whether a text is a whole offset from UTC, or nothing. -/
def isOffset (text : List Char) : Bool :=
  match text with
  | [] => true
  | ['Z'] => true
  | ['z'] => true
  | sign :: rest =>
    (sign == '+' || sign == '-') &&
      match twoDigits rest with
      | some (hours, ':' :: rest) =>
        match twoDigits rest with
        | some (minutes, []) => hours ≤ 23 && minutes ≤ 59
        | _ => false
      | _ => false

/-- Whether a text is a date, a time of day, or both, then with an offset or without. -/
def isDateTime (text : List Char) : Bool :=
  match readDate text with
  | none => (readTime text).any fun (_, rest) => rest.isEmpty
  | some (_, []) => true
  | some (_, separator :: rest) =>
    (separator == 'T' || separator == 't' || separator == ' ') &&
      match readTime rest with
      | some (_, rest) => isOffset rest
      | none => false

/-- What a spelling stands for. -/
def scalar? (spelling : List Char) : Option TomlValue :=
  if spelling = "true".toList then some (.bool true)
  else if spelling = "false".toList then some (.bool false)
  else
    (decimalInteger? spelling).or <|
      (basedInteger? spelling).or <|
      (decimalFloat? spelling).or <|
      (special? spelling).or <|
      if isDateTime spelling then some (.dateTime (String.ofList spelling)) else none

/-- Whether a character ends a spelling. -/
def endsSpelling (c : Char) : Bool := " \t\n\r,[]\x7b\x7d#=\"'".toList.contains c

/-- Whether a text begins with a time of day. -/
def startsTime : List Char → Bool
  | a :: b :: ':' :: _ => isDigit a && isDigit b
  | _ => false

/-- A number, truth value or date in front of a text. A blank between a date and a time belongs to
them. -/
def readScalar (text : List Char) : Option (TomlValue × List Char) := do
  let spelling := text.takeWhile fun c => !endsSpelling c
  let rest := text.dropWhile fun c => !endsSpelling c
  match rest with
  | ' ' :: time =>
    if (readDate spelling).any (fun (_, rest) => rest.isEmpty) && startsTime time then
      let more := time.takeWhile fun c => !endsSpelling c
      let value ← scalar? (spelling ++ ' ' :: more)
      return (value, time.drop more.length)
    else
      let value ← scalar? spelling
      return (value, rest)
  | _ =>
    let value ← scalar? spelling
    return (value, rest)

end FleetTraffic.Toml
