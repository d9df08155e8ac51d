import FleetTraffic.Toml.Scalar
import FleetTraffic.Toml.Table

/-!
# TOML documents

A document is a sequence of statements, one a line: values under keys, and headers that say to which
table the following ones belong. Arrays and inline tables may go over several lines and may end with
a comma, and lie at most eighty deep inside each other.
-/

namespace FleetTraffic.Toml

/-- Values in brackets or braces: separated by commas, with gaps around each, up to a closing mark. -/
def readSeparated {α : Type} (read : Reader α) (close : Char) : Nat → Reader (List α)
  | 0, _ => none
  | fuel + 1, text =>
    match mark close (skipGaps false text) with
    | some rest => some ([], rest)
    | none => do
      let (value, rest) ← read (skipGaps false text)
      let rest := skipGaps false rest
      match mark close rest with
      | some rest => return ([value], rest)
      | none =>
        let rest ← mark ',' rest
        let (values, rest) ← readSeparated read close fuel rest
        return (value :: values, rest)

/-- A value under a key. -/
def readEntry (readValue : Reader TomlValue) (text : List Char) :
    Option ((List String × String × TomlValue) × List Char) := do
  let ((path, key), rest) ← readKey text
  let rest ← mark '=' (skipSpace rest)
  let (value, rest) ← readValue (skipSpace rest)
  return ((path, key, value), rest)

/-- The table of values under keys in braces. -/
def inlineTable (entries : List (List String × String × TomlValue)) : Option TomlValue := do
  let table ← entries.foldlM
    (fun table (path, key, value) => addValue path key value .header table) []
  return .table (entriesToValues table)

/-- A value with at most `depth` containers inside each other. -/
def readValue (depth : Nat) : Reader TomlValue := fun text =>
  match depth, text with
  | _, '"' :: _ => (readString text).map fun (value, rest) => (.text value, rest)
  | _, '\'' :: _ => (readString text).map fun (value, rest) => (.text value, rest)
  | depth + 1, '[' :: rest =>
    (readSeparated (readValue depth) ']' (rest.length + 1) rest).map fun (items, rest) =>
      (.array items, rest)
  | depth + 1, '\x7b' :: rest => do
    let (entries, rest) ← readSeparated (readEntry (readValue depth)) '\x7d' (rest.length + 1) rest
    let table ← inlineTable entries
    return (table, rest)
  | _, _ => readScalar text

/-- The greatest number of containers inside each other. -/
def deepest : Nat := 80

/-- A line of a document. -/
inductive Statement where
  /-- A value under a key. -/
  | entry (path : List String) (key : String) (value : TomlValue)
  /-- The header of a table. -/
  | table (path : List String) (key : String)
  /-- The header of the next table of an array. -/
  | element (path : List String) (key : String)

/-- A statement in front of a text. -/
def readStatement : Reader Statement
  | '[' :: '[' :: rest => do
    let ((path, key), rest) ← readKey rest
    let rest ← mark ']' (skipSpace rest)
    let rest ← mark ']' rest
    return (.element path key, rest)
  | '[' :: rest => do
    let ((path, key), rest) ← readKey rest
    let rest ← mark ']' (skipSpace rest)
    return (.table path key, rest)
  | text => do
    let ((path, key, value), rest) ← readEntry (readValue deepest) text
    return (.entry path key value, rest)

/-- All statements of a text. -/
def readStatements : Nat → List Char → Option (List Statement)
  | 0, _ => none
  | fuel + 1, text =>
    match skipGaps false text with
    | [] => some []
    | text => do
      let (statement, rest) ← readStatement text
      let rest ← endStatement rest
      let statements ← readStatements fuel rest
      return statement :: statements

/-- The table that statements make, and the path of the table that is open. -/
def build : List Statement → List String → Entries → Option Entries
  | [], _, entries => some entries
  | .entry path key value :: rest, opened, entries => do
    let entries ← changeAt false opened (addValue path key value) .header entries
    build rest opened entries
  | .table path key :: rest, _, entries => do
    let entries ← changeAt false path (fun _ => openTable key) .header entries
    build rest (path ++ [key]) entries
  | .element path key :: rest, _, entries => do
    let entries ← changeAt false path (fun _ => openElement key) .header entries
    build rest (path ++ [key]) entries

/-- The entries of a document, in ascending order of their keys. A mark of byte order may stand in
front. -/
def parse? (text : String) : Option TomlValue := do
  let chars := match text.toList with
    | '\uFEFF' :: rest => rest
    | chars => chars
  let statements ← readStatements (chars.length + 1) chars
  let entries ← build statements [] []
  return .table (entriesToValues entries)

end FleetTraffic.Toml
