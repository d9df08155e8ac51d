import FleetTraffic.Delivery.Client
import FleetTraffic.Proofs.Wire.RoundTrip
import FleetTraffic.Service.Answer

/-!
# What an agent takes for an acknowledgement

An agent reads a response as an acknowledgement only if the status is 200 and the body is an object that says
`success`. What the service shows to others comes with status 200 as well, but no such object: none of its
fields is called so, and a list of agents does not begin with true or false. So the answer to a question is
never mistaken for the answer to a submission.
-/

namespace FleetTraffic

namespace JsonCodec

section FirstField

variable {α β : Type} {name : String} {codec : JsonCodec β} {fields : List (Field JsonCodec)}
  {ofValues : Values (.required name codec :: fields) → α}
  {toValues : α → Values (.required name codec :: fields)}

/-- An object without the first field of a record, which must occur, does not read as the record. -/
theorem read_ofFields_of_absent {entries : List (String × Json)}
    (absent : ∀ entry ∈ entries, entry.1 ≠ name) :
    ∃ fault, (record (.required name codec :: fields) ofValues toValues).read (Json.ofFields entries) =
      .error fault := by
  have passed : fillSlots (.required name codec :: fields) (entries.map Json.writeField)
      (Slots.vacant (.required name codec :: fields)) = _ :=
    fillSlots_other entries absent none (Slots.vacant fields)
  have reading : (record (.required name codec :: fields) ofValues toValues).read (Json.ofFields entries) =
      ((fillSlots (.required name codec :: fields) (entries.map Json.writeField)
        (Slots.vacant (.required name codec :: fields))).bind fun slots =>
          slots.finish (.required name codec :: fields)).map ofValues := rfl
  rw [reading, passed]
  cases fillSlots fields (entries.map Json.writeField) (Slots.vacant fields) with
  | error fault => exact ⟨fault, rfl⟩
  | ok slots => exact ⟨_, rfl⟩

/-- A list does not read as a record, if its first item does not read as the first field of the record, which
must be listed. -/
theorem read_ofItems_of_first {items : List Json}
    (first : ∀ item, items.head? = some item → ∃ fault, codec.read item = .error fault) :
    ∃ fault, (record (.required name codec :: fields) ofValues toValues).read (Json.ofItems items) =
      .error fault := by
  cases items with
  | nil => exact ⟨_, rfl⟩
  | cons item rest =>
    obtain ⟨fault, refused⟩ := first item rfl
    refine ⟨fault, ?_⟩
    have reading : (record (.required name codec :: fields) ofValues toValues).read
        (Json.ofItems (item :: rest)) =
          ((Values.ofList (.required name codec :: fields) (item :: rest)).bind fun values =>
            if true && values.2.isEmpty then .ok values.1 else .error .malformed).map ofValues := rfl
    have listed : Values.ofList (.required name codec :: fields) (item :: rest) =
        (codec.read item).bind fun value =>
          (Values.ofList fields rest).bind fun values => .ok ((value, values.1), values.2) := rfl
    rw [reading, listed, refused]
    rfl

end FirstField

/-- An object without the field `success` does not read as a response. -/
theorem response_ofFields_of_absent {entries : List (String × Json)}
    (absent : ∀ entry ∈ entries, entry.1 ≠ "success") :
    ∃ fault, response.read (Json.ofFields entries) = .error fault :=
  read_ofFields_of_absent absent

/-- A list of objects does not read as a response. -/
theorem response_ofItems_of_objects {items : List Json}
    (objects : ∀ item ∈ items, ∃ entries, item = Json.ofFields entries) :
    ∃ fault, response.read (Json.ofItems items) = .error fault := by
  refine read_ofItems_of_first fun item front => ?_
  obtain ⟨entries, rfl⟩ := objects item (List.mem_of_head? front)
  exact ⟨.malformed, rfl⟩

/-- What does not read as a value is not decoded from its text. -/
theorem decode_of_unreadable {α : Type} {codec : JsonCodec α} {json : Json} (written : json.Written)
    {fault : Fault} (unreadable : codec.read json = .error fault) :
    codec.decode (Document.ofBytes json.toText.toUTF8) = .error fault := by
  rw [Document.ofBytes_toText written, decode, unreadable]
  rfl

end JsonCodec

namespace HttpResponse

/-- An agent takes the response for the acknowledgement of its submission. -/
def Acknowledges (response : HttpResponse) : Prop := ∃ answer, Client.readResponse response = .ok answer

/-- An acknowledgement has status 200, and its body says that the submission succeeded. -/
theorem acknowledges_iff (response : HttpResponse) :
    response.Acknowledges ↔ response.status = 200 ∧
      ∃ answer, JsonCodec.response.decode (Document.ofBytes response.body) = .ok answer ∧
        answer.success = true := by
  rw [Acknowledges, Client.readResponse]
  by_cases status : response.status = 200
  · rw [if_pos status]
    cases JsonCodec.response.decode (Document.ofBytes response.body) with
    | error fault => simp
    | ok answer => cases succeeded : answer.success <;> simp [status, succeeded]
  · simp [status]

/-- The answer to a submission that was taken acknowledges it. -/
theorem acknowledges_accepted (message : String) (now : Instant) :
    (accepted message now).Acknowledges :=
  (acknowledges_iff _).mpr
    ⟨rfl, _, JsonCodec.decode_toUTF8 JsonCodec.faithful_response _, rfl⟩

/-- No answer with another status acknowledges anything. -/
theorem not_acknowledges_of_status {response : HttpResponse} (status : response.status ≠ 200) :
    ¬response.Acknowledges := by
  rw [acknowledges_iff]
  exact fun acknowledged => status acknowledged.1

/-- No answer whose body does not read as a response acknowledges anything. -/
theorem not_acknowledges_of_fault {response : HttpResponse}
    (unreadable : ∃ fault, JsonCodec.response.decode (Document.ofBytes response.body) = .error fault) :
    ¬response.Acknowledges := by
  obtain ⟨fault, refused⟩ := unreadable
  rw [acknowledges_iff, refused]
  rintro ⟨-, answer, found, -⟩
  cases found

/-- An empty body acknowledges nothing. -/
theorem not_acknowledges_of_empty {response : HttpResponse} (empty : response.body = .empty) :
    ¬response.Acknowledges := by
  have nothing : Document.ofBytes .empty = ⟨.broken, true⟩ := by
    have source : Text.Source.ofBytes .empty = Text.Source.ofChars [] := Text.Source.ofBytes_toUTF8 ""
    have tokens : Token.all (Text.Source.ofChars []) = [] := Token.all.eq_1
    rw [Document.ofBytes, source, Document.ofSource, tokens]
    rfl
  apply not_acknowledges_of_fault
  rw [empty, nothing]
  exact ⟨.malformed, rfl⟩

/-- What the service shows as an object without the field `success` acknowledges nothing. -/
theorem not_acknowledges_ofFields {entries : List (String × Json)}
    (written : (Json.ofFields entries).Written) (absent : ∀ entry ∈ entries, entry.1 ≠ "success")
    (status : Nat) : ¬(ofJson status (Json.ofFields entries)).Acknowledges := by
  obtain ⟨fault, unreadable⟩ := JsonCodec.response_ofFields_of_absent absent
  exact not_acknowledges_of_fault ⟨fault, JsonCodec.decode_of_unreadable written unreadable⟩

/-- What the service shows as a list of objects acknowledges nothing. -/
theorem not_acknowledges_ofItems {items : List Json} (written : (Json.ofItems items).Written)
    (objects : ∀ item ∈ items, ∃ entries, item = Json.ofFields entries) (status : Nat) :
    ¬(ofJson status (Json.ofItems items)).Acknowledges := by
  obtain ⟨fault, unreadable⟩ := JsonCodec.response_ofItems_of_objects objects
  exact not_acknowledges_of_fault ⟨fault, JsonCodec.decode_of_unreadable written unreadable⟩

/-- What the service shows of a record without the field `success` acknowledges nothing. -/
theorem not_acknowledges_record {α : Type} {fields : List (Field JsonCodec)}
    {ofValues : Values fields → α} {toValues : α → Values fields}
    (faithful : (JsonCodec.record fields ofValues toValues).Faithful)
    (absent : ∀ name ∈ fields.map Field.name, name ≠ "success") (status : Nat) (value : α) :
    ¬(ofJson status ((JsonCodec.record fields ofValues toValues).write value)).Acknowledges := by
  refine not_acknowledges_ofFields (faithful.written value) ?_ status
  intro entry member
  obtain ⟨field, listed, name, -⟩ := JsonCodec.field_of_mem_toFields member
  rw [name]
  exact absent field.name (List.mem_map_of_mem listed)

end HttpResponse

/-! ## The questions that the service answers -/

namespace Service

open HttpResponse

variable (fleet : Fleet) (age : Nat) (now : Instant)

/-- The traffic with one domain acknowledges nothing. -/
theorem not_acknowledges_showDomain (written : String) :
    ¬(showDomain fleet age now written).1.Acknowledges := by
  cases decoded : Text.percentDecodeText? written.toList with
  | none =>
    simp only [showDomain, decoded]
    exact not_acknowledges_of_status (by simp [ofText])
  | some domain =>
    simp only [showDomain, decoded]
    cases (fleet.usage? age now domain).1 with
    | some usage => exact not_acknowledges_record JsonCodec.faithful_usage (by decide) 200 usage
    | none => exact not_acknowledges_of_status (by simp [refused, ofJson, ServiceError.status])

/-- The traffic of the whole fleet acknowledges nothing. -/
theorem not_acknowledges_showFleet : ¬(showFleet fleet age now).1.Acknowledges :=
  not_acknowledges_record JsonCodec.faithful_fleetView (by decide) 200 (fleet.view age now).1

/-- The list of agents acknowledges nothing. -/
theorem not_acknowledges_showAgents : ¬(showAgents fleet now).Acknowledges := by
  refine not_acknowledges_ofItems (.items _ fun item member => ?_) (fun item member => ?_) 200
  · obtain ⟨summary, -, rfl⟩ := List.mem_map.mp member
    exact JsonCodec.faithful_summary.written summary
  · obtain ⟨summary, -, rfl⟩ := List.mem_map.mp member
    exact ⟨_, rfl⟩

/-- How much the service knows acknowledges nothing. -/
theorem not_acknowledges_showHealth : ¬(showHealth fleet age now).1.Acknowledges := by
  refine not_acknowledges_ofFields (.fields _ ?_) ?_ 200
  · simp only [List.forall_mem_cons]
    exact ⟨.text "ok", .natural _, .natural _, .natural _, fun _ => nofun⟩
  · simp only [List.forall_mem_cons]
    decide

/-- Name and version of the service acknowledge nothing. -/
theorem not_acknowledges_showVersion : ¬showVersion.Acknowledges := by
  refine not_acknowledges_ofFields (.fields _ ?_) ?_ 200
  · simp only [List.forall_mem_cons]
    exact ⟨.text _, .text _, fun _ => nofun⟩
  · simp only [List.forall_mem_cons]
    decide

end Service

end FleetTraffic
