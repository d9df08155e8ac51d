import FleetTraffic.Json.Codec
import FleetTraffic.Proofs.Json.Reading
import FleetTraffic.SortedMap.Lemmas

/-!
# Codecs that read what they write

A codec is faithful if the trees that it writes are written trees and it reads the value back from each of
them. Then it also reads the value back from the bytes of the text. Every way of making codecs out of others
keeps them faithful, under conditions that can be checked once where a codec is declared.
-/

namespace FleetTraffic.JsonCodec

open Text

variable {α β : Type}

/-- A codec that reads back what it writes. -/
structure Faithful (codec : JsonCodec α) : Prop where
  written : ∀ value, (codec.write value).Written
  read_write : ∀ value, codec.read (codec.write value) = .ok value

/-- A faithful codec reads a value back from the bytes of its text. -/
theorem decode_toUTF8 {codec : JsonCodec α} (faithful : codec.Faithful) (value : α) :
    codec.decode (Document.ofBytes (codec.write value).toText.toUTF8) = .ok value := by
  rw [Document.ofBytes_toText (faithful.written value), decode, faithful.read_write]
  rfl

/-- The glyphs of a text are read as this text. -/
theorem readGlyphs_encode (text : String) : readGlyphs (Glyph.encode text.toList) = .ok text := by
  rw [readGlyphs, Glyph.decode?_encode]
  exact congrArg Except.ok (String.ofList_toList)

/-! ## Values -/

/-- Text is read back. -/
theorem faithful_text : text.Faithful := ⟨.text, readGlyphs_encode⟩

/-- True and false are read back. -/
theorem faithful_bool : bool.Faithful := ⟨.bool, fun _ => rfl⟩

/-- Whole numbers are read back. -/
theorem faithful_natural : natural.Faithful := ⟨.natural, fun _ => rfl⟩

/-- Values that are read back from those of another type are read back. -/
theorem faithful_convert {codec : JsonCodec α} (faithful : codec.Faithful) {toOther : α → Option β}
    {ofOther : β → α} (back : ∀ value, toOther (ofOther value) = some value) :
    (codec.convert toOther ofOther).Faithful where
  written value := faithful.written (ofOther value)
  read_write value := by
    simp only [convert, faithful.read_write, bind, Except.bind, back]
    rfl

/-- Words of 64 bits are read back. -/
theorem faithful_word64 : word64.Faithful :=
  faithful_convert faithful_natural fun value => by
    rw [if_pos value.toNat_lt, UInt64.ofNat_toNat]

/-- Words of 32 bits are read back. -/
theorem faithful_word32 : word32.Faithful :=
  faithful_convert faithful_natural fun value => by
    rw [if_pos value.toNat_lt, UInt32.ofNat_toNat]

/-- One of a few values is read back, if its name stands for it. -/
theorem faithful_enumeration {names : List (String × α)} {nameOf : α → String}
    (back : ∀ value, names.lookup (nameOf value) = some value) : (enumeration names nameOf).Faithful where
  written value := .text (nameOf value)
  read_write value := by
    simp only [enumeration, Json.ofText, readGlyphs_encode, bind, Except.bind, Fault.ofName, back]

/-- A value that may be missing is read back, if no value is written as `null`. -/
theorem faithful_optional {codec : JsonCodec α} (faithful : codec.Faithful)
    (present : ∀ value, codec.write value ≠ .null) : codec.optional.Faithful where
  written
    | none => .null
    | some value => faithful.written value
  read_write
    | none => rfl
    | some value => by
      have shown := present value
      simp only [optional, faithful.read_write]
      rfl

/-! ## Lists and maps -/

/-- A list is read back, if its values are. -/
theorem faithful_list {codec : JsonCodec α} (faithful : codec.Faithful) : codec.list.Faithful where
  written values := by
    refine .items _ fun item member => ?_
    obtain ⟨value, _, rfl⟩ := List.mem_map.mp member
    exact faithful.written value
  read_write values := by
    have each : (values.map codec.write).mapM codec.read = .ok values := by
      induction values with
      | nil => rfl
      | cons value values induction =>
        rw [List.map_cons, List.mapM_cons, faithful.read_write, induction]
        rfl
    simp only [list, Json.ofItems, each, bind, Except.bind, if_true]
    rfl

/-- The entries of a map are read back one after the other. -/
theorem readEntries_write {κ : Type} [Ord κ] [Std.TransOrd κ] {codec : JsonCodec α}
    (faithful : codec.Faithful) {writeKey : κ → String} {readKey : List Glyph → Except Fault κ}
    (back : ∀ key, readKey (Glyph.encode (writeKey key).toList) = .ok key) (entries : List (κ × α))
    (map : SortedMap κ α) :
    readEntries readKey codec
        (entries.map fun entry => (Glyph.encode (writeKey entry.1).toList, codec.write entry.2)) map =
      .ok (entries.foldl (fun map entry => map.insert entry.1 entry.2) map) := by
  induction entries generalizing map with
  | nil => rfl
  | cons entry rest induction =>
    simp only [List.map_cons, readEntries, back, faithful.read_write, bind, Except.bind, induction,
      List.foldl_cons]

/-- A map is read back, if its keys are. -/
theorem faithful_mapWith {κ : Type} [Ord κ] [DecidableEq κ] [Std.TransOrd κ] [Std.LawfulEqOrd κ]
    {codec : JsonCodec α} (faithful : codec.Faithful) {writeKey : κ → String}
    {readKey : List Glyph → Except Fault κ}
    (back : ∀ key, readKey (Glyph.encode (writeKey key).toList) = .ok key) :
    (mapWith writeKey readKey codec).Faithful where
  written map := by
    refine .fields _ fun field member => ?_
    obtain ⟨entry, _, rfl⟩ := List.mem_map.mp member
    exact faithful.written entry.2
  read_write map := by
    have entries := readEntries_write faithful back map.entries .empty
    have whole : map.entries.foldl (fun map entry => map.insert entry.1 entry.2) .empty = map :=
      SortedMap.ofList_entries map
    simp only [mapWith, Json.ofFields, List.map_map, Function.comp_def, entries, whole, bind, Except.bind,
      if_true]
    rfl

/-- A map with text as keys is read back. -/
theorem faithful_map {codec : JsonCodec α} (faithful : codec.Faithful) : codec.map.Faithful :=
  faithful_mapWith faithful readGlyphs_encode

/-- The digits of a number stand for themselves. -/
theorem plain?_encode_digits {run : List Char} (all : ∀ c ∈ run, isDigit c = true) :
    plain? (Glyph.encode run) = some run := by
  induction run with
  | nil => rfl
  | cons digit run induction =>
    have onward := induction fun c member => all c (List.mem_cons_of_mem digit member)
    have plain : Glyph.encodeChar digit = .plain digit := by
      have shown := all digit List.mem_cons_self
      rw [Glyph.encodeChar, if_neg, if_neg]
      · simp only [isDigit, Char.isDigit, Bool.and_eq_true, decide_eq_true_eq,
          UInt32.le_iff_toNat_le] at shown
        have least : 48 ≤ digit.toNat := shown.1
        omega
      · rintro (rfl | rfl | rfl | rfl | rfl | rfl | rfl) <;> cases shown
    rw [Glyph.encode, List.map_cons, plain, plain?, ← Glyph.encode, onward, Option.map_some]

/-- The number of a port is read back. -/
theorem readPort_digits (port : UInt16) :
    readPort (Glyph.encode (String.ofList (digits port.toNat)).toList) = .ok port := by
  have all : ∀ c ∈ digits port.toNat, isDigit c = true := fun c member => isDigit_of_mem_digits member
  have canonical : (digits port.toNat).length = 1 ∨ (digits port.toNat).head? ≠ some '0' := by
    by_cases zero : port.toNat = 0
    · exact .inl (by rw [zero]; rfl)
    · exact .inr fun front => zero ((digits_zero_iff _).mp front)
  have inRange : number (digits port.toNat) < UInt16.size := by
    rw [number_digits]
    exact port.toNat_lt
  rw [String.toList_ofList, readPort, plain?_encode_digits all]
  simp only
  rw [if_pos ⟨List.all_eq_true.mpr all, digits_ne_nil _, canonical, inRange⟩, number_digits,
    UInt16.ofNat_toNat]

/-- A map with port numbers as keys is read back. -/
theorem faithful_portMap {codec : JsonCodec α} (faithful : codec.Faithful) : codec.portMap.Faithful :=
  faithful_mapWith faithful readPort_digits

/-! ## Records -/

/-- A field that is read back, also where it is left out. -/
structure FaithfulField (field : Field JsonCodec) : Prop where
  reader : field.reader.Faithful
  omitted : ∀ value, field.omits value = true → field.absent = some value

/-- The slots of written values: those of the fields that are left out stay empty. -/
def writtenSlots : (fields : List (Field JsonCodec)) → Values fields → Slots fields
  | [], _ => ()
  | field :: fields, (value, values) =>
    (if field.omits value then none else some value, writtenSlots fields values)

/-- What is written for a record is written by the codec of one of its fields, under the name of the field. -/
theorem field_of_mem_toFields {fields : List (Field JsonCodec)} {values : Values fields}
    {entry : String × Json} (member : entry ∈ Values.toFields JsonCodec.write fields values) :
    ∃ field ∈ fields, entry.1 = field.name ∧ ∃ value, entry.2 = field.reader.write value := by
  induction fields with
  | nil => cases member
  | cons field fields induction =>
    obtain ⟨value, values⟩ := values
    have later (member : entry ∈ Values.toFields JsonCodec.write fields values) :
        ∃ other ∈ field :: fields, entry.1 = other.name ∧ ∃ value, entry.2 = other.reader.write value := by
      obtain ⟨other, listed, written⟩ := induction member
      exact ⟨other, List.mem_cons_of_mem field listed, written⟩
    rw [Values.toFields] at member
    split at member
    next => exact later member
    next =>
      rcases List.mem_cons.mp member with rfl | other
      · exact ⟨field, List.mem_cons_self, rfl, value, rfl⟩
      · exact later other

/-- Entries under other names pass a slot by. -/
theorem fillSlots_other {field : Field JsonCodec} {fields : List (Field JsonCodec)}
    (entries : List (String × Json)) (other : ∀ entry ∈ entries, entry.1 ≠ field.name)
    (slot : Option field.type) (slots : Slots fields) :
    fillSlots (field :: fields) (entries.map Json.writeField) (slot, slots) =
      (fillSlots fields (entries.map Json.writeField) slots).map fun filled => (slot, filled) := by
  induction entries generalizing slots with
  | nil => rfl
  | cons entry entries induction =>
    have onward := induction fun entry member => other entry (List.mem_cons_of_mem _ member)
    have name := other entry List.mem_cons_self
    simp only [List.map_cons, Json.writeField, fillSlots, readGlyphs_encode, bind, Except.bind,
      Slots.fill, if_neg name]
    cases Slots.fill fields slots entry.1 entry.2 with
    | error fault => rfl
    | ok filled? =>
      cases filled? with
      | some filled => exact onward filled
      | none =>
        cases entry.2.isWhole with
        | true => exact onward slots
        | false => rfl

/-- The fields of a record fill their slots, by induction on the fields: each is told from the later ones by
its name. -/
theorem fillSlots_toFields {fields : List (Field JsonCodec)} (each : ∀ field ∈ fields, FaithfulField field)
    (distinct : (fields.map Field.name).Nodup) (values : Values fields) :
    fillSlots fields ((Values.toFields JsonCodec.write fields values).map Json.writeField)
      (Slots.vacant fields) = .ok (writtenSlots fields values) := by
  induction fields with
  | nil => rfl
  | cons field fields induction =>
    obtain ⟨value, values⟩ := values
    obtain ⟨fresh, distinct⟩ := List.nodup_cons.mp distinct
    have reader := (each field List.mem_cons_self).reader
    have onward := induction (fun other member => each other (List.mem_cons_of_mem field member)) distinct
      values
    have other (entry : String × Json) (member : entry ∈ Values.toFields JsonCodec.write fields values) :
        entry.1 ≠ field.name := by
      intro same
      obtain ⟨later, listed, name, _⟩ := field_of_mem_toFields member
      exact fresh (List.mem_map.mpr ⟨later, listed, name.symm.trans same⟩)
    have others (slot : Option field.type) := fillSlots_other
      (Values.toFields JsonCodec.write fields values) other slot (Slots.vacant fields)
    rw [Values.toFields, writtenSlots]
    split
    next => exact (others none).trans (by rw [onward]; rfl)
    next =>
      have filled : Slots.fill (field :: fields) (Slots.vacant (field :: fields)) field.name
          (field.reader.write value) = .ok (some (some value, Slots.vacant fields)) := by
        rw [Slots.vacant, Slots.fill, if_pos rfl]
        exact congrArg (Except.map _) (reader.read_write value)
      rw [List.map_cons, Json.writeField, fillSlots, readGlyphs_encode]
      simp only [bind, Except.bind, filled]
      exact (others (some value)).trans (by rw [onward]; rfl)

/-- The values of a record are finished as they were, those of the fields that are left out by default. -/
theorem finish_writtenSlots {fields : List (Field JsonCodec)}
    (each : ∀ field ∈ fields, FaithfulField field) (values : Values fields) :
    Slots.finish fields (writtenSlots fields values) = .ok values := by
  induction fields with
  | nil => rfl
  | cons field fields induction =>
    obtain ⟨value, values⟩ := values
    have onward := induction (fun other member => each other (List.mem_cons_of_mem field member)) values
    have here : (if field.omits value then none else some value).or field.absent = some value := by
      split
      next omits => exact (each field List.mem_cons_self).omitted value omits
      next => rfl
    rw [writtenSlots, Slots.finish, here]
    simp only [onward]
    rfl

/-- A record is read back, if its fields are and have different names. -/
theorem faithful_record {fields : List (Field JsonCodec)} (each : ∀ field ∈ fields, FaithfulField field)
    (distinct : (fields.map Field.name).Nodup) {ofValues : Values fields → α}
    {toValues : α → Values fields} (back : ∀ value, ofValues (toValues value) = value) :
    (record fields ofValues toValues).Faithful where
  written value := by
    refine .fields _ fun entry member => ?_
    obtain ⟨field, listed, _, value, written⟩ := field_of_mem_toFields member
    rw [written]
    exact (each field listed).reader.written value
  read_write value := by
    have filled := fillSlots_toFields each distinct (toValues value)
    have finished := finish_writtenSlots each (toValues value)
    have read : readValues fields (Json.ofFields (Values.toFields JsonCodec.write fields (toValues value))) =
        .ok (toValues value) := by
      exact (congrArg (Except.bind · _) filled).trans finished
    simp only [record, read]
    exact congrArg Except.ok (back value)

/-! ## Fields -/

/-- A field that must occur is read back. -/
theorem faithfulField_required (name : String) {codec : JsonCodec α} (faithful : codec.Faithful) :
    FaithfulField (.required name codec) := ⟨faithful, fun _ => nofun⟩

/-- A field with a default is read back, since it is always written. -/
theorem faithfulField_withDefault (name : String) {codec : JsonCodec α} (faithful : codec.Faithful)
    (value : α) : FaithfulField (.withDefault name codec value) := ⟨faithful, fun _ => nofun⟩

/-- A field with a default for its name alone is read back, since it is always written. -/
theorem faithfulField_namedOrDefault (name : String) {codec : JsonCodec α} (faithful : codec.Faithful)
    (value : α) : FaithfulField (.namedOrDefault name codec value) := ⟨faithful, fun _ => nofun⟩

/-- A field that is left out for one value alone is read back. -/
theorem faithfulField_omittedWhen (name : String) {codec : JsonCodec α} (faithful : codec.Faithful)
    {value : α} {omits : α → Bool} (only : ∀ other, omits other = true → other = value) :
    FaithfulField (.omittedWhen name codec value omits) :=
  ⟨faithful, fun other omitted => congrArg some (only other omitted).symm⟩

end FleetTraffic.JsonCodec
