import FleetTraffic.Json.Basic
import FleetTraffic.Text.Magnitude

/-!
# Values read without a type

A value whose type is not known yet has to be held as it is. That asks more of it than skipping it
does: its strings must be Unicode, its numbers must be finite when they are estimated in double
precision, and it must not be nested too deeply.
-/

namespace FleetTraffic.Json

mutual

/-- Whether a value can be held as it is, with at most `depth` containers inside each other. -/
def isHoldable (depth : Nat) : Json → Bool
  | .null => true
  | .bool _ => true
  | .natural value => Text.isFiniteEstimate value 0 0
  | .decimal _ digits places exponent => Text.isFiniteEstimate digits places exponent
  | .text glyphs => (Glyph.decode? glyphs).isSome
  | .array items closed => closed && 0 < depth && areHoldable (depth - 1) items
  | .object fields closed => closed && 0 < depth && fieldsAreHoldable (depth - 1) fields
  | .broken => false

/-- Whether all items can be held. -/
def areHoldable (depth : Nat) : List Json → Bool
  | [] => true
  | item :: items => isHoldable depth item && areHoldable depth items

/-- Whether all fields can be held. -/
def fieldsAreHoldable (depth : Nat) : List (List Glyph × Json) → Bool
  | [] => true
  | (key, value) :: fields =>
    (Glyph.decode? key).isSome && isHoldable depth value && fieldsAreHoldable depth fields

end

end FleetTraffic.Json
