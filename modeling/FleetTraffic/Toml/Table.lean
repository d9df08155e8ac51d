import FleetTraffic.Toml.Value

/-!
# Tables under construction

A table may be opened by a header, implied by a longer header, or implied by a dotted key, and this
decides what may still be added to it: a header may open an implied table once, a dotted key may only
add to tables that dotted keys have made, and no key may be given twice. Values written in brackets or
braces are closed for good.
-/

namespace FleetTraffic.Toml

/-- What a table was made by. -/
inductive Origin where
  /-- A header of its own, or the document. -/
  | header
  /-- A header of a table below it. -/
  | implied
  /-- A dotted key. -/
  | dotted
  deriving DecidableEq

/-- A place in a document under construction. -/
inductive Node where
  /-- A value that is closed. -/
  | leaf (value : TomlValue)
  | table (origin : Origin) (entries : List (String × Node))
  /-- The tables of an array that headers open one after the other. -/
  | tables (earlier : List (List (String × Node))) (last : List (String × Node))

/-- Entries in ascending order of their keys. -/
abbrev Entries : Type := List (String × Node)

/-- Put an entry in its place, instead of one with the same key. -/
def put (key : String) (node : Node) : Entries → Entries
  | [] => [(key, node)]
  | (other, present) :: rest =>
    match compare key other with
    | .lt => (key, node) :: (other, present) :: rest
    | .eq => (key, node) :: rest
    | .gt => (other, present) :: put key node rest

/-- Change the table at the end of a path, making the tables on the way that do not exist. A dotted
path does not pass through tables that a header has opened. -/
def changeAt (isDotted : Bool) : List String → (Origin → Entries → Option Entries) → Origin →
    Entries → Option Entries
  | [], change, origin, entries => change origin entries
  | key :: path, change, _, entries =>
    match entries.lookup key with
    | none => do
      let made := if isDotted then Origin.dotted else .implied
      let inner ← changeAt isDotted path change made []
      return put key (.table made inner) entries
    | some (.leaf _) => none
    | some (.table origin inner) =>
      if isDotted ∧ origin = .header then none
      else do
        let inner ← changeAt isDotted path change origin inner
        return put key (.table origin inner) entries
    | some (.tables earlier last) => do
      let last ← changeAt isDotted path change .header last
      return put key (.tables earlier last) entries

/-- Add a value under a key, dotted or not, to a table. -/
def addValue (path : List String) (key : String) (value : TomlValue) (origin : Origin)
    (entries : Entries) : Option Entries :=
  changeAt true path
    (fun origin entries =>
      if path ≠ [] ∧ origin ≠ .dotted then none
      else if (entries.lookup key).isSome then none
      else some (put key (.leaf value) entries))
    origin entries

/-- Open a table by a header. -/
def openTable (key : String) (entries : Entries) : Option Entries :=
  match entries.lookup key with
  | none => some (put key (.table .header []) entries)
  | some (.table .implied inner) => some (put key (.table .header inner) entries)
  | some _ => none

/-- Open the next table of an array by a header. -/
def openElement (key : String) (entries : Entries) : Option Entries :=
  match entries.lookup key with
  | none => some (put key (.tables [] []) entries)
  | some (.tables earlier last) => some (put key (.tables (earlier ++ [last]) []) entries)
  | some _ => none

mutual

/-- The finished value of a place. -/
def Node.toValue : Node → TomlValue
  | .leaf value => value
  | .table _ entries => .table (entriesToValues entries)
  | .tables earlier last => .array (tablesToValues earlier ++ [.table (entriesToValues last)])

/-- The finished values of entries. -/
def entriesToValues : List (String × Node) → List (String × TomlValue)
  | [] => []
  | (key, node) :: rest => (key, node.toValue) :: entriesToValues rest

/-- The finished tables of an array. -/
def tablesToValues : List (List (String × Node)) → List TomlValue
  | [] => []
  | entries :: rest => .table (entriesToValues entries) :: tablesToValues rest

end

end FleetTraffic.Toml
