import FleetTraffic.Proofs.Text.Magnitude
import FleetTraffic.Proofs.Wire.Request

/-!
# Everything on the wire is read back

Every type of the wire format is read back from what is written of it: with any text, any numbers, any maps,
with or without the fields that may be missing, and at any time. Most types are records, and a record is read
back as soon as its fields are. A summary is not: it is one flat object of the fields of the record and the
status, and when it is read all but the status is set aside first. What is written of a record can be set
aside, and reading it from there is reading the record.
-/

namespace FleetTraffic.JsonCodec

/-! ## What agents send and the server files -/

/-- Responses are read back. -/
theorem faithful_response : response.Faithful := by
  refine faithful_record ?_ (by decide) fun _ => rfl
  simp only [responseFields, List.forall_mem_cons]
  exact
    ⟨faithfulField_required _ faithful_bool,
      faithfulField_withDefault _ faithful_text _,
      faithfulField_required _ faithful_instant,
      fun _ => nofun⟩

/-- Totals of a host are read back. -/
theorem faithful_totals : totals.Faithful := by
  refine faithful_record ?_ (by decide) fun _ => rfl
  simp only [totalsFields, List.forall_mem_cons]
  exact
    ⟨faithfulField_withDefault _ faithful_text _,
      faithfulField_withDefault _ faithful_word64 _,
      faithfulField_withDefault _ faithful_word64 _,
      faithfulField_withDefault _ faithful_word64 _,
      faithfulField_withDefault _ faithful_word64 _,
      faithfulField_withDefault _ faithful_word64 _,
      fun _ => nofun⟩

/-- Metadata are read back. -/
theorem faithful_metadata : metadata.Faithful := by
  refine faithful_record ?_ (by decide) fun _ => rfl
  simp only [metadataFields, List.forall_mem_cons]
  exact
    ⟨faithfulField_withDefault _ faithful_text _,
      faithfulField_withDefault _ faithful_text _,
      faithfulField_omittedWhen _ (faithful_map faithful_text) fun _ => eq_empty_of_isEmpty,
      fun _ => nofun⟩

/-- Reports are read back. -/
theorem faithful_report : report.Faithful := by
  refine faithful_record ?_ (by decide) fun _ => rfl
  simp only [reportFields, List.forall_mem_cons]
  exact
    ⟨faithfulField_required _ faithful_text,
      faithfulField_required _ faithful_instant,
      faithfulField_required _ faithful_instant,
      faithfulField_withDefault _ faithful_usageTable _,
      faithfulField_withDefault _ faithful_totals _,
      faithfulField_withDefault _ faithful_metadata _,
      fun _ => nofun⟩

/-- Heartbeats are read back. -/
theorem faithful_heartbeat : heartbeat.Faithful := by
  refine faithful_record ?_ (by decide) fun _ => rfl
  simp only [heartbeatFields, List.forall_mem_cons]
  exact
    ⟨faithfulField_required _ faithful_text,
      faithfulField_withDefault _ faithful_text _,
      faithfulField_withDefault _ faithful_text _,
      faithfulField_required _ faithful_instant,
      faithfulField_required _ faithful_instant,
      faithfulField_withDefault _ faithful_text _,
      fun _ => nofun⟩

/-! ## What the server shows -/

/-- The fields of a record are read back. -/
theorem faithful_agentFields : ∀ field ∈ agentFields, FaithfulField field := by
  simp only [agentFields, List.forall_mem_cons]
  exact
    ⟨faithfulField_required _ faithful_text,
      faithfulField_withDefault _ faithful_text _,
      faithfulField_withDefault _ faithful_text _,
      faithfulField_required _ faithful_instant,
      faithfulField_required _ faithful_instant,
      faithfulField_required _ faithful_instant,
      faithfulField_required _ faithful_word32,
      faithfulField_required _ faithful_bool,
      fun _ => nofun⟩

/-- Records are read back. -/
theorem faithful_agent : agent.Faithful := faithful_record faithful_agentFields (by decide) fun _ => rfl

/-- A status is read back. -/
theorem faithful_status : status.Faithful :=
  faithful_enumeration fun
    | .online => rfl
    | .offline => rfl

/-- A reason is read back. -/
theorem faithful_reason : reason.Faithful :=
  faithful_enumeration fun
    | .startupAdvanced => rfl
    | .countersDropped => rfl

/-- Verdicts are read back. -/
theorem faithful_verdict : verdict.Faithful := by
  refine faithful_record ?_ (by decide) fun _ => rfl
  simp only [verdictFields, List.forall_mem_cons]
  exact
    ⟨faithfulField_required _ faithful_bool,
      faithfulField_namedOrDefault _ (faithful_optional faithful_reason fun _ => nofun) _,
      faithfulField_namedOrDefault _ (faithful_optional faithful_instant fun _ => nofun) _,
      faithfulField_required _ faithful_instant,
      faithfulField_required _ faithful_word32,
      fun _ => nofun⟩

/-- Fleet views are read back. -/
theorem faithful_fleetView : fleetView.Faithful := by
  refine faithful_record ?_ (by decide) fun _ => rfl
  simp only [fleetViewFields, List.forall_mem_cons]
  exact
    ⟨faithfulField_required _ faithful_usageTable,
      faithfulField_required _ faithful_totals,
      faithfulField_required _ faithful_instant,
      faithfulField_required _ (faithful_list faithful_text),
      fun _ => nofun⟩

/-! ## Summaries -/

/-- Text can be held. -/
theorem isHoldable_text (depth : Nat) (value : String) : (text.write value).isHoldable depth = true := by
  change (Glyph.decode? (Glyph.encode value.toList)).isSome = true
  rw [Glyph.decode?_encode]
  rfl

/-- Words of 32 bits can be held. -/
theorem isHoldable_word32 (depth : Nat) (value : UInt32) : (word32.write value).isHoldable depth = true := by
  have bound := value.toNat_lt
  have fits : value.toNat < UInt64.size := Nat.lt_trans bound (by decide)
  exact Text.isFiniteEstimate_of_lt fits

/-- What is written of each field of a record can be held. -/
theorem isHoldable_agentFields (depth : Nat) :
    ∀ field ∈ agentFields, ∀ value, (field.reader.write value).isHoldable depth = true := by
  have instants (value : Instant) : (instant.write value).isHoldable depth = true := isHoldable_text depth _
  simp only [agentFields, List.forall_mem_cons]
  exact ⟨isHoldable_text depth, isHoldable_text depth, isHoldable_text depth, instants, instants, instants,
    isHoldable_word32 depth, fun _ => rfl, fun _ => nofun⟩

/-- A value that can be held was read to its end. -/
theorem isWhole_of_isHoldable {depth : Nat} {json : Json} (holdable : json.isHoldable depth = true) :
    json.isWhole = true := by
  cases json with
  | array items closed | object fields closed =>
    simp only [Json.isHoldable, Bool.and_eq_true] at holdable
    exact holdable.1.1
  | broken => cases holdable
  | _ => rfl

/-- Fields that can be held and are not the status are set aside, in front of those that were before. -/
theorem readSummaryFields_append {entries : List (String × Json)}
    (each : ∀ entry ∈ entries, entry.1 ≠ "status" ∧ entry.2.isHoldable heldDepth = true)
    (rest : List (List Glyph × Json)) (found : Option AgentStatus) (aside : List (String × Json)) :
    readSummaryFields (entries.map Json.writeField ++ rest) found aside =
      readSummaryFields rest found (entries.reverse ++ aside) := by
  induction entries generalizing aside with
  | nil => rfl
  | cons entry entries induction =>
    obtain ⟨other, holdable⟩ := each entry List.mem_cons_self
    have onward := induction (fun entry member => each entry (List.mem_cons_of_mem _ member)) (entry :: aside)
    rw [List.reverse_cons, List.append_assoc, List.singleton_append, ← onward]
    simp only [List.map_cons, Json.writeField, List.cons_append, readSummaryFields, readGlyphs_encode, bind,
      Except.bind, if_neg other, holdable, if_true]

/-- Filling slots from fields that were set aside is filling them from the fields of an object. -/
theorem fillAside_eq_fillSlots {entries : List (String × Json)}
    (whole : ∀ entry ∈ entries, entry.2.isWhole = true) (slots : Slots agentFields) :
    fillAside entries slots = fillSlots agentFields (entries.map Json.writeField) slots := by
  induction entries generalizing slots with
  | nil => rfl
  | cons entry entries induction =>
    have onward := induction fun entry member => whole entry (List.mem_cons_of_mem _ member)
    have here := whole entry List.mem_cons_self
    rw [fillAside, List.map_cons, Json.writeField, fillSlots, readGlyphs_encode]
    simp only [bind, Except.bind, here, if_true, onward]
    cases Slots.fill agentFields slots entry.1 entry.2 with
    | error fault => rfl
    | ok filled? => cases filled? <;> rfl

/-- The fields of a summary that come from its record. -/
def heldFields (record : AgentRecord) : List (String × Json) :=
  Values.toFields JsonCodec.write agentFields (valuesOfAgent record)

/-- The fields of the record in a summary are not the status, and can be held. -/
theorem held_of_mem (record : AgentRecord) :
    ∀ entry ∈ heldFields record, entry.1 ≠ "status" ∧ entry.2.isHoldable heldDepth = true := by
  intro entry member
  obtain ⟨field, listed, name, value, written⟩ := field_of_mem_toFields member
  have others : ∀ name ∈ agentFields.map Field.name, name ≠ "status" := by decide
  rw [name, written]
  exact
    ⟨others field.name (List.mem_map_of_mem listed),
      isHoldable_agentFields heldDepth field listed value⟩

/-- The record of a summary is read back from its fields when they are set aside. -/
theorem fillAside_heldFields (record : AgentRecord) :
    fillAside (heldFields record) (Slots.vacant agentFields) =
      .ok (writtenSlots agentFields (valuesOfAgent record)) := by
  have whole (entry : String × Json) (member : entry ∈ heldFields record) :=
    isWhole_of_isHoldable (held_of_mem record entry member).2
  rw [fillAside_eq_fillSlots whole]
  exact fillSlots_toFields faithful_agentFields (by decide) (valuesOfAgent record)

/-- Summaries are read back. -/
theorem faithful_summary : summary.Faithful where
  written value := by
    refine .fields _ fun entry member => ?_
    rcases List.mem_append.mp member with held | last
    · obtain ⟨field, listed, _, content, written⟩ := field_of_mem_toFields held
      rw [written]
      exact (faithful_agentFields field listed).reader.written content
    · rw [List.mem_singleton.mp last]
      exact faithful_status.written value.status
  read_write value := by
    have last : readSummaryFields ([("status", status.write value.status)].map Json.writeField) none
        ((heldFields value.record).reverse ++ []) = .ok (some value.status, heldFields value.record) := by
      simp only [List.map_cons, List.map_nil, Json.writeField, readSummaryFields, readGlyphs_encode, bind,
        Except.bind, if_true, faithful_status.read_write, List.append_nil, List.reverse_reverse]
    have aside := readSummaryFields_append (held_of_mem value.record)
      ([("status", status.write value.status)].map Json.writeField) none []
    have slots := fillAside_heldFields value.record
    have finished := finish_writtenSlots faithful_agentFields (valuesOfAgent value.record)
    rw [last, ← List.map_append] at aside
    have fields : summary.write value =
        .object ((heldFields value.record ++ [("status", status.write value.status)]).map Json.writeField)
          true := rfl
    rw [fields]
    simp only [summary, aside, bind, Except.bind, if_true, slots, finished]
    rfl

/-! ## The wire format -/

/-- Every value is decoded from the text that is written of it, and from the bytes of this text. -/
def RoundTrips {α : Type} (codec : JsonCodec α) : Prop :=
  ∀ value, let text := (codec.write value).toText
    codec.decode (.ofText text) = .ok value ∧ codec.decode (.ofBytes text.toUTF8) = .ok value

/-- A codec that reads back what it writes decodes it from its text. -/
theorem roundTrips_of_faithful {α : Type} {codec : JsonCodec α} (faithful : codec.Faithful) :
    codec.RoundTrips := by
  intro value text
  have bytes : codec.decode (.ofBytes text.toUTF8) = .ok value := decode_toUTF8 faithful value
  have same : Document.ofBytes text.toUTF8 = .ofText text := by
    rw [Document.ofBytes, Text.Source.ofBytes_toUTF8, Document.ofText]
  exact ⟨same ▸ bytes, bytes⟩

/-- Every value of every type of the wire format is decoded from the text that is written of it: usages,
snapshots, requests, responses, totals, metadata, reports, heartbeats, records, summaries, verdicts and fleet
views. -/
theorem wire_round_trip :
    usage.RoundTrips ∧ snapshot.RoundTrips ∧ request.RoundTrips ∧ response.RoundTrips ∧ totals.RoundTrips ∧
      metadata.RoundTrips ∧ report.RoundTrips ∧ heartbeat.RoundTrips ∧ agent.RoundTrips ∧
      summary.RoundTrips ∧ verdict.RoundTrips ∧ fleetView.RoundTrips :=
  ⟨roundTrips_of_faithful faithful_usage, roundTrips_of_faithful faithful_snapshot,
    roundTrips_of_faithful faithful_request, roundTrips_of_faithful faithful_response,
    roundTrips_of_faithful faithful_totals, roundTrips_of_faithful faithful_metadata,
    roundTrips_of_faithful faithful_report, roundTrips_of_faithful faithful_heartbeat,
    roundTrips_of_faithful faithful_agent, roundTrips_of_faithful faithful_summary,
    roundTrips_of_faithful faithful_verdict, roundTrips_of_faithful faithful_fleetView⟩

end FleetTraffic.JsonCodec
