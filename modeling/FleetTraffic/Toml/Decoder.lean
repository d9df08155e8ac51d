import FleetTraffic.Codec.Record
import FleetTraffic.Toml.Document

/-!
# Decoding TOML values

Readers of typed values. A record is a table; its entries are met in the order of their keys. It may
also be an array of its values, whose surplus is not looked at. A date is a record without any of the
fields.
-/

namespace FleetTraffic

/-- Reads values of a type from TOML. -/
structure TomlDecoder (α : Type) where
  read : TomlValue → Except Fault α

instance : Format TomlDecoder TomlValue := ⟨TomlDecoder.read⟩

namespace TomlDecoder

variable {α : Type}

/-- Text. -/
def text : TomlDecoder String where
  read
    | .text value => .ok value
    | _ => .error .malformed

/-- True or false. -/
def bool : TomlDecoder Bool where
  read
    | .bool value => .ok value
    | _ => .error .malformed

/-- Whole numbers from zero to below a limit. -/
def naturalBelow (limit : Nat) : TomlDecoder Nat where
  read
    | .integer value =>
      if 0 ≤ value ∧ value < limit then .ok value.toNat else .error .malformed
    | _ => .error .malformed

/-- Whole numbers of 16 bits. -/
def word16 : TomlDecoder UInt16 :=
  ⟨fun value => ((naturalBelow UInt16.size).read value).map UInt16.ofNat⟩

/-- Whole numbers of 32 bits. -/
def word32 : TomlDecoder UInt32 :=
  ⟨fun value => ((naturalBelow UInt32.size).read value).map UInt32.ofNat⟩

/-- Whole numbers of 64 bits. -/
def word64 : TomlDecoder UInt64 :=
  ⟨fun value => ((naturalBelow UInt64.size).read value).map UInt64.ofNat⟩

/-- A value that is there. -/
def present (decoder : TomlDecoder α) : TomlDecoder (Option α) :=
  ⟨fun value => (decoder.read value).map some⟩

/-- Whether a value is an empty table or array. -/
def isEmpty : TomlValue → Bool
  | .table [] => true
  | .array [] => true
  | _ => false

/-- One of a few values, given by its name, or by a table with the name as its only key and nothing
under it. -/
def enumeration (names : List (String × α)) : TomlDecoder α where
  read
    | .text name => Fault.ofName names name
    | .table [(name, content)] => do
      let value ← Fault.ofName names name
      if isEmpty content then return value else .error .malformed
    | _ => .error .malformed

/-- Fill slots from the entries of a table in turn. In an entry that no slot takes, only the numbers
are looked at. -/
def fillSlots (fields : List (Field TomlDecoder)) :
    List (String × TomlValue) → Slots fields → Except Fault (Slots fields)
  | [], slots => .ok slots
  | (name, content) :: rest, slots => do
    match ← slots.fill fields name content with
    | some slots => fillSlots fields rest slots
    | none => if content.isHoldable then fillSlots fields rest slots else .error .malformed

/-- The values of a record. -/
def readValues (fields : List (Field TomlDecoder)) : TomlValue → Except Fault (Values fields)
  | .table entries => do
    let slots ← fillSlots fields entries (Slots.vacant fields)
    slots.finish fields
  | .array items => (Values.ofList fields items).map Prod.fst
  | .dateTime _ => (Slots.vacant fields).finish fields
  | _ => .error .malformed

/-- The record with the given fields, made of their values. -/
def record (fields : List (Field TomlDecoder)) (ofValues : Values fields → α) : TomlDecoder α :=
  ⟨fun value => (readValues fields value).map ofValues⟩

/-- The value that a whole document stands for. -/
def decode (decoder : TomlDecoder α) (text : String) : Except Fault α :=
  match Toml.parse? text with
  | none => .error .malformed
  | some value => decoder.read value

end TomlDecoder

end FleetTraffic
