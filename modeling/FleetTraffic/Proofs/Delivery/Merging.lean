import FleetTraffic.Proofs.Delivery.Trace
import FleetTraffic.Proofs.Fleet.Standing

/-!
# Merged batches at the server

A source may give in each snapshot only the traffic since the one before. Merging a batch of such snapshots
adds up their traffic, and the request carries the sum. But the server takes a request for the traffic since
the startup: it lets each request take the place of the one before, unless a counter has dropped. So the
sums of the server are those of the batches that stand, and all the traffic is there only if the batches
that the next one continues have none.
-/

namespace FleetTraffic

/-- A batch of snapshots that is delivered once. -/
structure Shipment where
  snapshots : List Snapshot
  nonempty : snapshots ≠ []
  /-- When the request is made. -/
  made : Instant
  /-- When the request comes to the server. -/
  arrived : Instant

namespace Shipment

/-- The request that a reporter makes for a batch. -/
def request (settings : ReporterSettings) (identity : AgentIdentity) (shipment : Shipment) :
    ReportRequest :=
  (Reporter.request? settings identity shipment.made shipment.snapshots).get <| by
    obtain ⟨_, _, made⟩ := Reporter.request?_of_ne_nil settings identity shipment.made shipment.nonempty
    rw [made, Option.isSome_some]

/-- The report that the server makes of a batch. -/
def report (settings : ReporterSettings) (identity : AgentIdentity) (shipment : Shipment) : Report :=
  .ofRequest (shipment.request settings identity)

/-- How much traffic the snapshots of a batch hold together, without a bound. -/
def amount (shipment : Shipment) (domain : String) (quantity : Quantity) : Nat :=
  (shipment.snapshots.map fun snapshot => (snapshot.domains.amount domain quantity).toNat).sum

/-- How much traffic batches hold together. -/
def traffic (shipments : List Shipment) (domain : String) (quantity : Quantity) : Nat :=
  (shipments.map fun shipment => shipment.amount domain quantity).sum

/-- The fleet of a new server to which batches are delivered, each one once and in their order. -/
def delivered (options : FleetOptions) (settings : ReporterSettings) (identity : AgentIdentity)
    (shipments : List Shipment) : IncrementalFleet :=
  .run options (IncrementalFleet.reporting arrived (report settings identity) shipments)

variable (settings : ReporterSettings) (identity : AgentIdentity)

/-- The request for a batch carries what its snapshots are collapsed to. -/
theorem request_eq (shipment : Shipment) :
    ∃ snapshot, Reporter.collapse? settings.flushMode shipment.snapshots = some snapshot ∧
      shipment.request settings identity =
        ⟨identity.agentId, identity.hostname, shipment.made, some identity.startup, snapshot⟩ := by
  obtain ⟨snapshot, collapsed, made⟩ :=
    Reporter.request?_of_ne_nil settings identity shipment.made shipment.nonempty
  exact ⟨snapshot, collapsed, by simp only [request, made, Option.get_some]⟩

/-- All batches of a reporter are reported in one lifetime. -/
theorem sameLifetime_report (first second : Shipment) :
    (first.report settings identity).SameLifetime (second.report settings identity) := by
  obtain ⟨_, _, made⟩ := request_eq settings identity first
  obtain ⟨_, _, made'⟩ := request_eq settings identity second
  rw [report, report, made, made']
  exact ⟨rfl, rfl⟩

/-- The usages of merged snapshots are added up. -/
theorem domains_foldl_merge (first : Snapshot) (rest : List Snapshot) :
    (rest.foldl Snapshot.merge first).domains =
      (rest.map Snapshot.domains).foldl UsageTable.add first.domains := by
  induction rest generalizing first with
  | nil => rfl
  | cons next rest induction => exact induction (first.merge next)

/-- In a merged batch every amount is the sum over the snapshots, clamped once. -/
theorem toNat_amount_report {settings : ReporterSettings} (merging : settings.flushMode = .merge)
    (shipment : Shipment) (domain : String) (quantity : Quantity) :
    ((shipment.report settings identity).domains.amount domain quantity).toNat =
      min (shipment.amount domain quantity) Counter.greatest := by
  obtain ⟨first, rest, batch⟩ := List.exists_cons_of_ne_nil shipment.nonempty
  obtain ⟨snapshot, collapsed, made⟩ := request_eq settings identity shipment
  rw [merging, batch, Reporter.collapse?, Snapshot.mergeAll?, Option.some.injEq] at collapsed
  rw [report, made, ← collapsed, amount, batch]
  simp only [Report.ofRequest, UsageTable.amount_named, domains_foldl_merge, Ledger.amount_foldl_add,
    List.map_map, List.map_cons, List.sum_cons]
  rfl

/-- While the traffic of some batches fits, each of them is reported with just the traffic of its snapshots.
-/
theorem toNat_amount_report_of_fits {settings : ReporterSettings} (merging : settings.flushMode = .merge)
    {shipments : List Shipment} {domain : String} {quantity : Quantity}
    (fits : traffic shipments domain quantity ≤ Counter.greatest) {shipment : Shipment}
    (member : shipment ∈ shipments) :
    ((shipment.report settings identity).domains.amount domain quantity).toNat =
      shipment.amount domain quantity := by
  have part : shipment.amount domain quantity ≤ traffic shipments domain quantity :=
    List.le_sum_of_mem (List.mem_map_of_mem member)
  rw [toNat_amount_report identity merging]
  exact Nat.min_eq_left (part.trans fits)

/-- The sums of the server are the traffic of the batches that stand. -/
theorem toNat_sums_delivered {settings : ReporterSettings} (merging : settings.flushMode = .merge)
    {options : FleetOptions} (detects : options.detectsRestarts = true)
    (keeps : options.keepsBaselines = true) {shipments : List Shipment} {domain : String}
    {quantity : Quantity} (fits : traffic shipments domain quantity ≤ Counter.greatest) :
    ((delivered options settings identity shipments).ledger.sums.amount domain quantity).toNat =
      traffic (Report.standing (report settings identity) shipments) domain quantity := by
  have faithful (shipment : Shipment) (member : shipment ∈ shipments) :=
    toNat_amount_report_of_fits identity merging fits member
  cases shipments with
  | nil => rfl
  | cons first rest =>
    let opening := first.report settings identity
    have sole : IncrementalFleet.Sole {} opening.agentId := ⟨UsageTable.reduced_empty, fun _ _ => rfl⟩
    obtain ⟨stillSole, shown⟩ := IncrementalFleet.sole_report sole options rfl first.arrived
    have holds := Roster.holds_first options opening first.arrived domain quantity
    have alike (item : Shipment) (_ : item ∈ rest) :
        (item.report settings identity).SameLifetime opening :=
      sameLifetime_report settings identity item first
    have numbers : (first :: rest).map (fun item =>
          ((report settings identity item).domains.amount domain quantity).toNat) =
        (first :: rest).map fun item => item.amount domain quantity := List.map_congr_left faithful
    have sums := IncrementalFleet.sums_reporting arrived detects keeps first rest stillSole
      (shown domain quantity) holds alike (by rw [numbers, Nat.zero_add]; exact fits)
    refine sums.trans ?_
    rw [Nat.zero_add, traffic]
    exact congrArg List.sum (List.map_congr_left fun item stands =>
      faithful item (Report.mem_of_mem_standing _ stands))

/-- Merged batches leave all their traffic in the sums of the server exactly when those that the next one
continues have none. The sums are always those of the batches that stand. -/
theorem merged_sums_complete_iff {settings : ReporterSettings} (merging : settings.flushMode = .merge)
    {options : FleetOptions} (detects : options.detectsRestarts = true)
    (keeps : options.keepsBaselines = true) (shipments : List Shipment) (domain : String)
    (quantity : Quantity) (fits : traffic shipments domain quantity ≤ Counter.greatest) :
    let sum := ((delivered options settings identity shipments).ledger.sums.amount domain quantity).toNat
    sum = traffic (Report.standing (report settings identity) shipments) domain quantity ∧
      (sum = traffic shipments domain quantity ↔
        ∀ shipment ∈ Report.continued (report settings identity) shipments,
          shipment.amount domain quantity = 0) := by
  intro sum
  have stands : sum = traffic (Report.standing (report settings identity) shipments) domain quantity :=
    toNat_sums_delivered identity merging detects keeps fits
  have parts := Report.sum_standing_add_continued (report settings identity)
    (fun shipment => shipment.amount domain quantity) shipments
  refine ⟨stands, ?_⟩
  calc sum = traffic shipments domain quantity
      ↔ ((Report.continued (report settings identity) shipments).map fun shipment =>
          shipment.amount domain quantity).sum = 0 := by
        rw [stands, traffic, traffic]
        omega
    _ ↔ _ := by
        rw [List.sum_eq_zero_iff]
        simp

/-- A reporter that merges its batches. -/
def merging : ReporterSettings := { serverUrl := "", flushMode := .merge }

/-- A batch of snapshots, each with a number of accesses to one domain since the one before. -/
def ofAccesses (first : UInt64) (rest : List UInt64) : Shipment where
  snapshots := (first :: rest).map fun number => { domains := .single "x.org" number }
  nonempty := by simp
  made := .epoch
  arrived := .epoch

/-- The second batch continues the first, the third has a smaller counter than the second: of sixteen accesses
five are lost. -/
theorem risingThenFalling_incomplete :
    let identity : AgentIdentity := ⟨"agent", "host", .epoch⟩
    let shipments := [ofAccesses 2 [3], ofAccesses 7 [], ofAccesses 4 []]
    let sum := ((delivered IncrementalFleet.usualOptions merging identity shipments).ledger.sums.amount
      "x.org" .accesses).toNat
    (merging.flushMode = .merge ∧ IncrementalFleet.usualOptions.detectsRestarts = true ∧
      IncrementalFleet.usualOptions.keepsBaselines = true ∧
      traffic shipments "x.org" .accesses ≤ Counter.greatest) ∧
    sum = 11 ∧ traffic shipments "x.org" .accesses = 16 ∧
    sum = traffic (Report.standing (report merging identity) shipments) "x.org" .accesses ∧
    (sum = traffic shipments "x.org" .accesses ↔
      ∀ shipment ∈ Report.continued (report merging identity) shipments,
        shipment.amount "x.org" .accesses = 0) := by
  intro identity shipments sum
  have fits : traffic shipments "x.org" .accesses ≤ Counter.greatest := by decide +kernel
  exact ⟨⟨rfl, rfl, rfl, fits⟩, by decide +kernel, by decide +kernel,
    merged_sums_complete_iff identity rfl rfl rfl shipments "x.org" .accesses fits⟩

/-- Two batches of five and seven accesses leave a sum of seven, though there were twelve. -/
theorem risingBatches_incomplete :
    let identity : AgentIdentity := ⟨"agent", "host", .epoch⟩
    let shipments := [ofAccesses 5 [], ofAccesses 7 []]
    (merging.flushMode = .merge ∧ IncrementalFleet.usualOptions.detectsRestarts = true ∧
      IncrementalFleet.usualOptions.keepsBaselines = true) ∧
    traffic shipments "x.org" .accesses = 12 ∧
      ((delivered IncrementalFleet.usualOptions merging identity shipments).ledger.sums.amount
        "x.org" .accesses).toNat = 7 := by
  decide +kernel

end Shipment

end FleetTraffic
