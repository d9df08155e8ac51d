import FleetTraffic.Codec.Record
import FleetTraffic.Json.Document
import FleetTraffic.SortedMap
import FleetTraffic.Calendar.InstantText

/-!
# JSON codecs

A codec writes values of a type as JSON trees and reads them back. Reading is strict about types: a
whole number is a literal of digits alone and in range, a string is well-formed Unicode, and a field
that may be absent may still not be `null` unless its type is optional.
-/

namespace FleetTraffic

/-- Writes values as JSON and reads them back. -/
structure JsonCodec (α : Type) where
  write : α → Json
  read : Json → Except Fault α

instance : Format JsonCodec Json := ⟨JsonCodec.read⟩

namespace JsonCodec

open Text

variable {α β : Type}

/-- The text that the glyphs of a string stand for. -/
def readGlyphs (glyphs : List Glyph) : Except Fault String :=
  match Glyph.decode? glyphs with
  | some text => .ok (String.ofList text)
  | none => .error .malformed

/-- The value of one type for one of another, where reading may refuse. -/
def convert (codec : JsonCodec α) (toOther : α → Option β) (ofOther : β → α) : JsonCodec β where
  write value := codec.write (ofOther value)
  read json := do
    match toOther (← codec.read json) with
    | some value => return value
    | none => .error .malformed

/-- Text. -/
def text : JsonCodec String where
  write := Json.ofText
  read
    | .text glyphs => readGlyphs glyphs
    | _ => .error .malformed

/-- True or false. -/
def bool : JsonCodec Bool where
  write := .bool
  read
    | .bool value => .ok value
    | _ => .error .malformed

/-- Whole numbers from zero. -/
def natural : JsonCodec Nat where
  write := .natural
  read
    | .natural value => .ok value
    | _ => .error .malformed

/-- Whole numbers of 64 bits. -/
def word64 : JsonCodec UInt64 :=
  natural.convert (fun value => if value < UInt64.size then some (UInt64.ofNat value) else none)
    UInt64.toNat

/-- Whole numbers of 32 bits. -/
def word32 : JsonCodec UInt32 :=
  natural.convert (fun value => if value < UInt32.size then some (UInt32.ofNat value) else none)
    UInt32.toNat

/-- Instants, written as text. -/
def instant : JsonCodec Instant :=
  text.convert (fun source => Instant.ofText? source.toList) fun instant => String.ofList instant.text

/-- A value that may be `null`. -/
def optional (codec : JsonCodec α) : JsonCodec (Option α) where
  write
    | none => .null
    | some value => codec.write value
  read
    | .null => .ok none
    | json => (codec.read json).map some

/-- A list of values. -/
def list (codec : JsonCodec α) : JsonCodec (List α) where
  write values := Json.ofItems (values.map codec.write)
  read
    | .array items closed => do
      let values ← items.mapM codec.read
      if closed then return values else .error .malformed
    | _ => .error .malformed

/-- One of a few values, each written as its name. A name with `null` as the only field of an object
is read as well. -/
def enumeration (names : List (String × α)) (nameOf : α → String) : JsonCodec α where
  write value := Json.ofText (nameOf value)
  read
    | .text glyphs => do Fault.ofName names (← readGlyphs glyphs)
    | .object ((key, content) :: rest) closed => do
      let value ← Fault.ofName names (← readGlyphs key)
      match content, rest, closed with
      | .null, [], true => return value
      | _, _, _ => .error .malformed
    | _ => .error .malformed

/-- The entries of an object in turn, each put into a map under its key. -/
def readEntries {κ : Type} [Ord κ] [Std.TransOrd κ] (readKey : List Glyph → Except Fault κ)
    (codec : JsonCodec α) : List (List Glyph × Json) → SortedMap κ α → Except Fault (SortedMap κ α)
  | [], map => .ok map
  | (key, content) :: rest, map => do
    let key ← readKey key
    let value ← codec.read content
    readEntries readKey codec rest (map.insert key value)

/-- A map, written as an object. Of several entries with one key the last counts. -/
def mapWith {κ : Type} [Ord κ] [Std.TransOrd κ] (writeKey : κ → String)
    (readKey : List Glyph → Except Fault κ) (codec : JsonCodec α) : JsonCodec (SortedMap κ α) where
  write map := Json.ofFields (map.entries.map fun entry => (writeKey entry.1, codec.write entry.2))
  read
    | .object fields closed => do
      let map ← readEntries readKey codec fields .empty
      if closed then return map else .error .malformed
    | _ => .error .malformed

/-- A map with text as keys. -/
def map (codec : JsonCodec α) : JsonCodec (SortedMap String α) := mapWith id readGlyphs codec

/-- The characters of glyphs that all stand for themselves. -/
def plain? : List Glyph → Option (List Char)
  | [] => some []
  | .plain c :: rest => (plain? rest).map (c :: ·)
  | _ => none

/-- A number of 16 bits written as its decimal digits, without escapes and leading zeros. -/
def readPort (glyphs : List Glyph) : Except Fault UInt16 :=
  match plain? glyphs with
  | none => .error .malformed
  | some key =>
    if key.all isDigit ∧ key ≠ [] ∧ (key.length = 1 ∨ key.head? ≠ some '0') ∧
        number key < UInt16.size then
      .ok (UInt16.ofNat (number key))
    else .error .malformed

/-- A map with port numbers as keys. -/
def portMap (codec : JsonCodec α) : JsonCodec (SortedMap UInt16 α) :=
  mapWith (fun port => String.ofList (digits port.toNat)) readPort codec

/-- Fill slots from the fields of an object, in the order in which they stand. A field that no slot
takes has only to be well formed. -/
def fillSlots (fields : List (Field JsonCodec)) :
    List (List Glyph × Json) → Slots fields → Except Fault (Slots fields)
  | [], slots => .ok slots
  | (key, content) :: rest, slots => do
    let name ← readGlyphs key
    match ← slots.fill fields name content with
    | some slots => fillSlots fields rest slots
    | none => if content.isWhole then fillSlots fields rest slots else .error .malformed

/-- The values of a record, from an object or from an array in the order of the declaration. -/
def readValues (fields : List (Field JsonCodec)) : Json → Except Fault (Values fields)
  | .object entries closed => do
    let slots ← fillSlots fields entries (Slots.vacant fields)
    if closed then slots.finish fields else .error .malformed
  | .array items closed => do
    let (values, rest) ← Values.ofList fields items
    if closed && rest.isEmpty then return values else .error .malformed
  | _ => .error .malformed

/-- The record with the given fields, as a structure that can be made of their values and taken apart
into them. -/
def record (fields : List (Field JsonCodec)) (ofValues : Values fields → α)
    (toValues : α → Values fields) : JsonCodec α where
  write value := Json.ofFields (Values.toFields JsonCodec.write fields (toValues value))
  read json := (readValues fields json).map ofValues

/-- The value that a whole document stands for. Nothing but blanks may follow it. -/
def decode (codec : JsonCodec α) (document : Document) : Except Fault α := do
  let value ← codec.read document.root
  if document.alone then return value else .error .malformed

end JsonCodec

end FleetTraffic
