import FleetTraffic.SortedMap
import FleetTraffic.Text.Magnitude

/-!
# TOML values

A TOML document is a table of values under keys. Integers keep their exact value, whatever its size;
a float keeps the decimal number that it was written as; dates and times keep their text, since no
setting is one. An integer whose digits make no number is no fault of the document, but of whoever
looks at it.
-/

namespace FleetTraffic

/-- A value of a TOML document. -/
inductive TomlValue where
  | text (value : String)
  | integer (value : Int)
  /-- An integer whose digits make no number. -/
  | unreadable
  /-- A finite number: `digits · 10^exponent`, up to its sign. -/
  | float (digits : Nat) (exponent : Int)
  /-- An infinity or a not-a-number. -/
  | nonFinite
  | bool (value : Bool)
  | dateTime (text : String)
  | array (items : List TomlValue)
  /-- The entries are in ascending order of their keys. -/
  | table (entries : List (String × TomlValue))
  deriving Inhabited

namespace TomlValue

mutual

/-- Whether every number in a value can be held: integers in 128 bits, with or without sign, and
floats in double precision. -/
def isHoldable : TomlValue → Bool
  | .integer value => -(2 ^ 127) ≤ value && value < 2 ^ 128
  | .unreadable => false
  | .float digits exponent => Text.isFiniteDouble digits exponent
  | .array items => areHoldable items
  | .table entries => entriesAreHoldable entries
  | _ => true

/-- Whether every number in a list of values can be held. -/
def areHoldable : List TomlValue → Bool
  | [] => true
  | item :: items => isHoldable item && areHoldable items

/-- Whether every number in the entries of a table can be held. -/
def entriesAreHoldable : List (String × TomlValue) → Bool
  | [] => true
  | (_, value) :: entries => isHoldable value && entriesAreHoldable entries

end

end TomlValue

end FleetTraffic
