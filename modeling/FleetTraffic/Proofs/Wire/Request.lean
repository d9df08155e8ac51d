import FleetTraffic.Delivery.Reporter
import FleetTraffic.Proofs.Calendar.InstantText
import FleetTraffic.Proofs.Json.Codec
import FleetTraffic.Service.Answer

/-!
# Requests on the wire

The codecs of usages, snapshots and requests read back what they write. So the server makes of the bytes of a
request just the report of that request, if its agent has a name.
-/

namespace FleetTraffic

namespace JsonCodec

/-- Instants are read back. -/
theorem faithful_instant : instant.Faithful :=
  faithful_convert faithful_text fun value => by
    rw [String.toList_ofList, Instant.ofText?_text]

/-- Only the empty map counts as empty. -/
theorem eq_empty_of_isEmpty {κ α : Type} [Ord κ] {map : SortedMap κ α} (empty : map.isEmpty = true) :
    map = .empty := by
  obtain ⟨entries, ascending⟩ := map
  obtain rfl : entries = [] := List.isEmpty_iff.mp empty
  rfl

/-- Counts by name are read back. -/
theorem faithful_counts : (map word64).Faithful := faithful_map faithful_word64

/-- Counts by port are read back. -/
theorem faithful_portCounts : (portMap word64).Faithful := faithful_portMap faithful_word64

/-- Usages are read back. -/
theorem faithful_usage : usage.Faithful := by
  refine faithful_record ?_ (by decide) fun _ => rfl
  simp only [usageFields, List.forall_mem_cons]
  exact
    ⟨faithfulField_required _ faithful_text,
      faithfulField_withDefault _ faithful_word64 _,
      faithfulField_withDefault _ faithful_word64 _,
      faithfulField_withDefault _ faithful_word64 _,
      faithfulField_withDefault _ faithful_word64 _,
      faithfulField_withDefault _ faithful_instant _,
      faithfulField_omittedWhen _ faithful_counts fun _ => eq_empty_of_isEmpty,
      faithfulField_omittedWhen _ faithful_portCounts fun _ => eq_empty_of_isEmpty,
      fun _ => nofun⟩

/-- Tables of usages are read back. -/
theorem faithful_usageTable : usageTable.Faithful := faithful_map faithful_usage

/-- Snapshots are read back. -/
theorem faithful_snapshot : snapshot.Faithful := by
  refine faithful_record ?_ (by decide) fun _ => rfl
  simp only [snapshotFields, List.forall_mem_cons]
  exact
    ⟨faithfulField_withDefault _ faithful_instant _,
      faithfulField_withDefault _ faithful_text _,
      faithfulField_withDefault _ faithful_text _,
      faithfulField_withDefault _ faithful_word64 _,
      faithfulField_withDefault _ faithful_word64 _,
      faithfulField_withDefault _ faithful_word64 _,
      faithfulField_withDefault _ faithful_word64 _,
      faithfulField_withDefault _ faithful_word64 _,
      faithfulField_withDefault _ faithful_usageTable _,
      faithfulField_withDefault _ faithful_counts _,
      faithfulField_withDefault _ faithful_counts _,
      faithfulField_withDefault _ faithful_portCounts _,
      fun _ => nofun⟩

/-- Requests are read back. -/
theorem faithful_request : request.Faithful := by
  refine faithful_record ?_ (by decide) fun _ => rfl
  simp only [requestFields, List.forall_mem_cons]
  exact
    ⟨faithfulField_required _ faithful_text,
      faithfulField_withDefault _ faithful_text _,
      faithfulField_required _ faithful_instant,
      faithfulField_omittedWhen _ (faithful_optional faithful_instant fun _ => nofun)
        fun _ => Option.isNone_iff_eq_none.mp,
      faithfulField_required _ faithful_snapshot,
      fun _ => nofun⟩

end JsonCodec

/-- The server makes the report of a request of the bytes that a reporter sends, if the agent has a name. -/
theorem Service.readReport_bodyOf {request : ReportRequest}
    (named : Text.isAllBlank request.agentId.toList = false) :
    readReport (Reporter.bodyOf request).toUTF8 = .ok (Report.ofRequest request) := by
  have decoded := JsonCodec.decode_toUTF8 JsonCodec.faithful_request request
  rw [readReport, Reporter.bodyOf, read, decoded]
  simp [Except.mapError, bind, Except.bind, named]
  rfl

end FleetTraffic
