import FleetTraffic.Codec.Fault

/-!
# Records

A record is a list of fields, each with a name, a type and a way to read its value from a document.
From the list follow the types of the slots that are filled while a record is read field by field
(`Slots`) and of the finished values (`Values`), and the rules that all records share: unknown names
are ignored, a second occurrence of a field is a fault before its value is looked at, missing fields
are noticed at the end in the order of the declaration, and a record may also be written as the list
of its values, of which the last ones may be left out if they have a default.

The definitions are parametric in the document format: `κ α` reads values of type `α` and `ν` is the
type of the documents.
-/

namespace FleetTraffic

/-- A document format: readers `κ α` of values of type `α` from documents of type `ν`. -/
class Format (κ : Type → Type) (ν : outParam Type) where
  read : {α : Type} → κ α → ν → Except Fault α

/-- A field of a record. -/
structure Field (κ : Type → Type) where
  name : String
  type : Type
  reader : κ type
  /-- The value of the field when its name does not occur. -/
  absent : Option type
  /-- The value of the field when the list of values ends before it. -/
  unlisted : Option type
  /-- The values for which the field is left out when a record is written. -/
  omits : type → Bool

namespace Field

variable {κ : Type → Type} {α : Type}

/-- A field that must occur. -/
def required (name : String) (reader : κ α) : Field κ :=
  ⟨name, α, reader, none, none, fun _ => false⟩

/-- A field that may be left out by the one who writes, and then has the given value. -/
def withDefault (name : String) (reader : κ α) (value : α) : Field κ :=
  ⟨name, α, reader, some value, some value, fun _ => false⟩

/-- A field that is left out for some values, all of them standing for the given one. -/
def omittedWhen (name : String) (reader : κ α) (value : α) (omits : α → Bool) : Field κ :=
  ⟨name, α, reader, some value, some value, omits⟩

/-- A field that has the given value when its name does not occur, but must be listed. -/
def namedOrDefault (name : String) (reader : κ α) (value : α) : Field κ :=
  ⟨name, α, reader, some value, none, fun _ => false⟩

end Field

/-- A place for each field of a record, empty until the field occurs. -/
def Slots {κ : Type → Type} : List (Field κ) → Type
  | [] => Unit
  | field :: fields => Option field.type × Slots fields

/-- A value for each field of a record. -/
def Values {κ : Type → Type} : List (Field κ) → Type
  | [] => Unit
  | field :: fields => field.type × Values fields

namespace Slots

variable {κ : Type → Type}

/-- The slots before any field has occurred. -/
def vacant : (fields : List (Field κ)) → Slots fields
  | [] => ()
  | _ :: fields => (none, vacant fields)

/-- Fill the slot of a name from a document. The answer is `none` for a name that no field has. -/
def fill {ν : Type} [Format κ ν] :
    (fields : List (Field κ)) → Slots fields → String → ν → Except Fault (Option (Slots fields))
  | [], _, _, _ => .ok none
  | field :: fields, (slot, slots), name, document =>
    if name = field.name then
      match slot with
      | some _ => .error (.duplicateField field.name)
      | none => (Format.read field.reader document).map fun value => some (some value, slots)
    else (fill fields slots name document).map fun filled => filled.map fun slots => (slot, slots)

/-- The finished values, with defaults for the slots that are still empty. -/
def finish : (fields : List (Field κ)) → Slots fields → Except Fault (Values fields)
  | [], _ => .ok ()
  | field :: fields, (slot, slots) =>
    match slot.or field.absent with
    | none => .error (.missingField field.name)
    | some value => (finish fields slots).map fun values => (value, values)

end Slots

namespace Values

variable {κ : Type → Type}

/-- The values of a record that is written as a list, and the documents left over. -/
def ofList {ν : Type} [Format κ ν] :
    (fields : List (Field κ)) → List ν → Except Fault (Values fields × List ν)
  | [], documents => .ok ((), documents)
  | field :: fields, [] =>
    match field.unlisted with
    | none => .error .malformed
    | some value => (ofList fields []).map fun (values, rest) => ((value, values), rest)
  | field :: fields, document :: documents => do
    let value ← Format.read field.reader document
    let (values, rest) ← ofList fields documents
    return ((value, values), rest)

/-- The documents of the fields by name, in the order of the declaration, without those that are left
out. -/
def toFields {ν : Type} (write : {α : Type} → κ α → α → ν) :
    (fields : List (Field κ)) → Values fields → List (String × ν)
  | [], _ => []
  | field :: fields, (value, values) =>
    if field.omits value then toFields write fields values
    else (field.name, write field.reader value) :: toFields write fields values

end Values

end FleetTraffic
