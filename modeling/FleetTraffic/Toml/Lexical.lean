import FleetTraffic.Text.Digits

/-!
# The characters of TOML

Blanks, line ends, comments, keys and strings. A reader takes what it reads from the front of a text
and answers with the rest; it answers with nothing where the text breaks a rule.
-/

namespace FleetTraffic.Toml

open Text

/-- Takes something from the front of a text. -/
abbrev Reader (α : Type) : Type := List Char → Option (α × List Char)

/-- Whether a character is a blank within a line. -/
def isSpace (c : Char) : Bool := c == ' ' || c == '\t'

/-- The text after the blanks in front of it. -/
def skipSpace (text : List Char) : List Char := text.dropWhile isSpace

/-- Whether a character may stand in a comment or a string: no control character but the tabulator. -/
def isTextChar (c : Char) : Bool := c == '\t' || (0x20 ≤ c.toNat && c.toNat != 0x7F)

/-- The text after a line end. -/
def lineEnd? : List Char → Option (List Char)
  | '\n' :: rest => some rest
  | '\r' :: '\n' :: rest => some rest
  | _ => none

/-- The text after blanks, line ends and comments. The flag says whether a comment has begun. -/
def skipGaps : Bool → List Char → List Char
  | _, [] => []
  | _, '\r' :: '\n' :: rest => skipGaps false rest
  | _, '\n' :: rest => skipGaps false rest
  | true, c :: rest => if isTextChar c then skipGaps true rest else c :: rest
  | false, c :: rest =>
    if c = '#' then skipGaps true rest
    else if isSpace c then skipGaps false rest
    else c :: rest

/-- The text after the end of a statement: blanks and a comment up to a line end or the end of the
text. -/
def endStatement (text : List Char) : Option (List Char) :=
  let rest := match skipSpace text with
    | '#' :: comment => comment.dropWhile isTextChar
    | rest => rest
  if rest.isEmpty then some [] else lineEnd? rest

/-- The text after a mark. -/
def mark (c : Char) : List Char → Option (List Char)
  | [] => none
  | first :: rest => if first = c then some rest else none

/-- The character with the code that a number of hexadecimal digits gives. -/
def hexChar (width : Nat) (text : List Char) : Option (Char × List Char) := do
  let taken := text.take width
  if taken.length = width then
    let values ← taken.mapM hexDigit?
    let code := values.foldl (fun code value => code * 16 + value) 0
    if code < 0xD800 ∨ (0xE000 ≤ code ∧ code < 0x110000) then
      some (Char.ofNat code, text.drop width)
    else none
  else none

/-- The character of an escape, after its backslash. -/
def readEscape : Reader Char
  | 'b' :: rest => some ('\x08', rest)
  | 't' :: rest => some ('\t', rest)
  | 'n' :: rest => some ('\n', rest)
  | 'f' :: rest => some ('\x0C', rest)
  | 'r' :: rest => some ('\r', rest)
  | 'e' :: rest => some ('\x1B', rest)
  | '"' :: rest => some ('"', rest)
  | '\\' :: rest => some ('\\', rest)
  | 'x' :: rest => hexChar 2 rest
  | 'u' :: rest => hexChar 4 rest
  | 'U' :: rest => hexChar 8 rest
  | _ => none

/-- Put a character in front of what is read after it. -/
def prepend (c : Char) (read : Option (List Char × List Char)) : Option (List Char × List Char) :=
  read.map fun (text, rest) => (c :: text, rest)

/-- The rest of a string in double quotes, on one line. -/
def readBasic : Nat → Reader (List Char)
  | 0, _ => none
  | _ + 1, [] => none
  | _ + 1, '"' :: rest => some ([], rest)
  | fuel + 1, '\\' :: rest => do
    let (c, rest) ← readEscape rest
    prepend c (readBasic fuel rest)
  | fuel + 1, c :: rest => if isTextChar c then prepend c (readBasic fuel rest) else none

/-- The rest of a string in single quotes, on one line. -/
def readLiteral : Reader (List Char)
  | [] => none
  | '\'' :: rest => some ([], rest)
  | c :: rest => if isTextChar c then prepend c (readLiteral rest) else none

/-- The end of a string in three quotes: the string may end with up to two more. -/
def closing? (quote : Char) (text : List Char) : Option (List Char × List Char) :=
  let quotes := (text.takeWhile (· == quote)).length
  if quotes < 3 then none
  else
    let inside := min (quotes - 3) 2
    some (List.replicate inside quote, text.drop (inside + 3))

/-- The text after blanks and line ends. -/
def skipBlankLines : List Char → List Char
  | '\n' :: rest => skipBlankLines rest
  | '\r' :: '\n' :: rest => skipBlankLines rest
  | c :: rest => if isSpace c then skipBlankLines rest else c :: rest
  | [] => []

/-- The rest of a string in three double quotes. A backslash at the end of a line takes the line end
and the blanks after it away. -/
def readMultilineBasic : Nat → Reader (List Char)
  | 0, _ => none
  | fuel + 1, text =>
    match closing? '"' text with
    | some closed => some closed
    | none =>
      match text with
      | [] => none
      | '\\' :: rest =>
        match lineEnd? (skipSpace rest) with
        | some rest => readMultilineBasic fuel (skipBlankLines rest)
        | none => do
          let (c, rest) ← readEscape rest
          prepend c (readMultilineBasic fuel rest)
      | '\r' :: '\n' :: rest => prepend '\r' (prepend '\n' (readMultilineBasic fuel rest))
      | c :: rest =>
        if isTextChar c || c == '\n' then prepend c (readMultilineBasic fuel rest) else none

/-- The rest of a string in three single quotes. -/
def readMultilineLiteral : Nat → Reader (List Char)
  | 0, _ => none
  | fuel + 1, text =>
    match closing? '\'' text with
    | some closed => some closed
    | none =>
      match text with
      | [] => none
      | '\r' :: '\n' :: rest => prepend '\r' (prepend '\n' (readMultilineLiteral fuel rest))
      | c :: rest =>
        if isTextChar c || c == '\n' then prepend c (readMultilineLiteral fuel rest) else none

/-- The text after the line end that may follow three opening quotes. -/
def skipFirstLineEnd (text : List Char) : List Char := (lineEnd? text).getD text

/-- A string of any of the four kinds. -/
def readString (text : List Char) : Option (String × List Char) :=
  let made := fun (read : Option (List Char × List Char)) =>
    read.map fun (value, rest) => (String.ofList value, rest)
  match text with
  | '"' :: '"' :: '"' :: rest => made (readMultilineBasic (rest.length + 1) (skipFirstLineEnd rest))
  | '\'' :: '\'' :: '\'' :: rest =>
    made (readMultilineLiteral (rest.length + 1) (skipFirstLineEnd rest))
  | '"' :: rest => made (readBasic (rest.length + 1) rest)
  | '\'' :: rest => made (readLiteral rest)
  | _ => none

/-- Whether a character may stand in a key without quotes. -/
def isBareKeyChar (c : Char) : Bool :=
  c.isAlphanum || c == '_' || c == '-'

/-- One part of a key: bare, or a string on one line. -/
def readSimpleKey (text : List Char) : Option (String × List Char) :=
  match text with
  | '"' :: '"' :: '"' :: _ => none
  | '\'' :: '\'' :: '\'' :: _ => none
  | '"' :: _ => readString text
  | '\'' :: _ => readString text
  | _ =>
    match text.takeWhile isBareKeyChar with
    | [] => none
    | key => some (String.ofList key, text.dropWhile isBareKeyChar)

/-- The parts of a key after its first one, each behind a point. -/
def readKeyParts : Nat → Reader (List String)
  | 0, _ => none
  | fuel + 1, text =>
    match skipSpace text with
    | '.' :: rest => do
      let (part, rest) ← readSimpleKey (skipSpace rest)
      let (parts, rest) ← readKeyParts fuel rest
      return (part :: parts, rest)
    | rest => some ([], rest)

/-- The greatest number of parts of a key. -/
def mostParts : Nat := 80

/-- A key: the parts before the last one, and the last one. -/
def readKey (text : List Char) : Option ((List String × String) × List Char) := do
  let (first, rest) ← readSimpleKey (skipSpace text)
  let (parts, rest) ← readKeyParts (rest.length + 1) rest
  let key := first :: parts
  if mostParts < key.length then none
  else return ((key.dropLast, key.getLast?.getD first), rest)

end FleetTraffic.Toml
