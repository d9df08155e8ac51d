import FleetTraffic.Proofs.Delivery.Attempts
import FleetTraffic.Proofs.Fleet.History
import FleetTraffic.Proofs.Fleet.Unbroken
import FleetTraffic.Proofs.Wire.Request

/-!
# A reporter and its server

A reporter sends its requests over a network that may lose a request, or the answer to one: an attempt comes
to the server at most once and before it returns, but what the reporter is told need not be what happened.
So the server may take in the same request several times, and the reporter may give one up that was taken
in. Anything else may happen to the reporter and to the fleet in between.

A reporter that sends the latest snapshot of each batch, from a source whose counters never drop, still
leaves no trace of all this at the server. A request that comes again continues itself, and one that was
lost is made up for by the next, so the agent never appears to have restarted, and what it contributes is
always the snapshot of the request that came last.
-/

namespace FleetTraffic

/-- In no domain of both snapshots is a counter smaller than in the earlier one. -/
def Snapshot.Continues (snapshot earlier : Snapshot) : Prop :=
  ∀ domain usage before, snapshot.domains.get? domain = some usage →
    earlier.domains.get? domain = some before → usage.counters.AtLeast before.counters

/-- A request that came to the server, when it came, and what the server made of it. -/
structure Submission where
  body : String
  now : Instant
  response : HttpResponse
  /-- The fleet afterwards. -/
  fleet : Fleet

/-- A reporter, the fleet of a server, and the network between them. -/
structure Connection where
  trace : ReporterTrace
  fleet : Fleet
  /-- The request of an attempt that has neither come to the server nor returned. -/
  underway? : Option String := none
  /-- The requests of the reporter that came to the server, in order. -/
  submissions : List Submission := []

/-- Something that happens to a reporter, to a fleet or between them. -/
inductive ConnectionEvent where
  /-- Something happens to the reporter. An answer is the return of the attempt, and may tell anything. -/
  | reporter (event : ReporterEvent) (now : Instant)
  /-- The attempt that is underway comes to the server. -/
  | arrival (now : Instant)
  /-- Something else is asked of the fleet. -/
  | call (call : FleetCall)

/-- The report that an event brings to the fleet beside those of the reporter. -/
def ConnectionEvent.report? : ConnectionEvent → Option Report
  | .call asked => asked.operation?.bind FleetOperation.report?
  | _ => none

namespace Connection

/-- A reporter to which nothing has happened, and a fleet. -/
def opened (fleet : Fleet) (settings : ReporterSettings) (identity : AgentIdentity) : Connection where
  trace := .fresh settings identity
  fleet := fleet

/-- The attempt that is underway after an event, if the event begins none: an answer ends it. -/
def stillUnderway? (connection : Connection) : ReporterEvent → Option String
  | .answered _ => none
  | _ => connection.underway?

/-- What an event makes of a connection. -/
def after (connection : Connection) : ConnectionEvent → Connection
  | .reporter event now =>
    let effects := (connection.trace.reporter.step now event).2
    { connection with
      trace := connection.trace.after now event
      underway? := (effects.findSome? ReporterEffect.sent?).or (connection.stillUnderway? event) }
  | .arrival now =>
    match connection.underway? with
    | none => connection
    | some body =>
      let outcome := Service.submitReport connection.fleet now body.toUTF8
      { connection with
        fleet := outcome.2
        underway? := none
        submissions := connection.submissions ++ [⟨body, now, outcome.1, outcome.2⟩] }
  | .call asked => { connection with fleet := connection.fleet.after asked }

/-- What events make of a connection. -/
def afterAll (connection : Connection) (events : List ConnectionEvent) : Connection :=
  events.foldl after connection

/-- With one event more. -/
theorem afterAll_concat (connection : Connection) (events : List ConnectionEvent) (last : ConnectionEvent) :
    connection.afterAll (events ++ [last]) = (connection.afterAll events).after last := by
  simp only [afterAll, List.foldl_append, List.foldl_cons, List.foldl_nil]

end Connection

/-- The server took a submission for the latest of an unbroken sequence: it carries a snapshot, it is accepted
without a restart, no restart is recorded, and the agent contributes the counters and the counts above zero of
just this snapshot. -/
structure Submission.Shows (submission : Submission) (identity : AgentIdentity) (snapshot : Snapshot) :
    Prop where
  carried : ∃ made, submission.body = Reporter.bodyOf (identity.requestOf made snapshot)
  accepted : submission.response = .accepted "metrics processed" submission.now
  recorded : ∃ record, submission.fleet.roster.records.get? identity.agentId = some record ∧
    record.restarts = 0
  contributed : (submission.fleet.contributionOf identity.agentId).SameTraffic snapshot.domains.dropZeroCounts

/-! ## Reports that continue one another -/

/-- A snapshot continues itself. -/
theorem Snapshot.continues_refl (snapshot : Snapshot) : snapshot.Continues snapshot := by
  intro domain usage before listed found
  cases listed.symm.trans found
  exact ⟨UInt64.le_refl _, UInt64.le_refl _, UInt64.le_refl _, UInt64.le_refl _⟩

/-- Where snapshots continue one another, so do the reports that the server makes of them. -/
theorem Report.continues_ofRequest (identity : AgentIdentity) (made made' : Instant)
    {snapshot earlier : Snapshot} (continues : snapshot.Continues earlier) :
    (ofRequest (identity.requestOf made snapshot)).Continues
      (ofRequest (identity.requestOf made' earlier)) := by
  refine ⟨rfl, fun domain usage before listed found => ?_⟩
  simp only [ofRequest, AgentIdentity.requestOf, UsageTable.named, SortedMap.get?_mapValues,
    Option.map_eq_some_iff] at listed found
  obtain ⟨usage, listed, rfl⟩ := listed
  obtain ⟨before, found, rfl⟩ := found
  exact continues domain usage before listed found

/-- The last of some snapshots continues each of them, if later ones continue earlier ones. -/
theorem Snapshot.continues_getLast {snapshots : List Snapshot} {last : Snapshot}
    (growing : snapshots.Pairwise fun earlier later => later.Continues earlier)
    (isLast : snapshots.getLast? = some last) : ∀ earlier ∈ snapshots, last.Continues earlier := by
  obtain ⟨before, rfl⟩ := List.getLast?_eq_some_iff.mp isLast
  intro earlier member
  rcases List.mem_append.mp member with former | same
  · exact (List.pairwise_append.mp growing).2.2 earlier former last (List.mem_singleton_self last)
  · rw [List.mem_singleton.mp same]
    exact continues_refl last

/-- The names of the domains play no part in the traffic that a report shows. -/
theorem UsageTable.sameTraffic_named (table : UsageTable) :
    table.named.dropZeroCounts.SameTraffic table.dropZeroCounts := by
  intro domain
  simp only [named, dropZeroCounts, SortedMap.get?_mapValues, Option.map_map]
  rfl

namespace Connection

variable {connection : Connection}

/-- A report was made of one of the snapshots that were flushed. -/
def Told (connection : Connection) (report : Report) : Prop :=
  ∃ snapshot ∈ connection.trace.released, ∃ made,
    report = .ofRequest (connection.trace.reporter.identity.requestOf made snapshot)

/-- What holds between events: requests leave the reporter in order, the one that is underway is for the
snapshot that was flushed last, and the server has the agent in its first lifetime, last heard of by a
snapshot that was flushed. -/
structure Sound (connection : Connection) (settings : ReporterSettings) (identity : AgentIdentity) :
    Prop where
  sameSettings : connection.trace.reporter.settings = settings
  sameIdentity : connection.trace.reporter.identity = identity
  inOrder : connection.trace.InOrder
  underway : ∀ body ∈ connection.underway?, connection.trace.Carries body
  upToDate : connection.fleet.UpToDate
  steady : (connection.fleet.roster.fileOf identity.agentId).Steady connection.Told

/-- The submissions so far show snapshots that were flushed, at these places: never one before the one that
was shown last. -/
structure Follows (connection : Connection) (identity : AgentIdentity) (places : List Nat) : Prop where
  ascending : places.Pairwise (· ≤ ·)
  shown : List.Forall₂ (fun place submission =>
    ∃ snapshot, connection.trace.released[place]? = some snapshot ∧ submission.Shows identity snapshot)
    places connection.submissions

variable {settings : ReporterSettings} {identity : AgentIdentity} {places : List Nat}

/-- What stands at a place of a list stands there in every continuation of it. -/
theorem getElem?_of_isPrefix {first whole : List Snapshot} (isPrefix : first <+: whole) {place : Nat}
    {snapshot : Snapshot} (found : first[place]? = some snapshot) : whole[place]? = some snapshot := by
  obtain ⟨bound, rfl⟩ := List.getElem?_eq_some_iff.mp found
  exact List.prefix_iff_getElem?.mp isPrefix place bound

/-- A reporter flushes further snapshots after those that were flushed. -/
theorem released_grows (connection : Connection) (event : ReporterEvent) (now : Instant) :
    connection.trace.released <+: (connection.after (.reporter event now)).trace.released := by
  rw [after, ReporterTrace.after, ReporterTrace.released_extend]
  exact List.prefix_append _ _

/-- At the beginning the fleet does not know the agent. -/
theorem sound_opened {fleet : Fleet} (upToDate : fleet.UpToDate)
    (unknown : fleet.roster.records.get? identity.agentId = none) (settings : ReporterSettings) :
    (opened fleet settings identity).Sound settings identity where
  sameSettings := rfl
  sameIdentity := rfl
  inOrder := ReporterTrace.inOrder_fresh settings identity
  underway := fun _ => nofun
  upToDate := upToDate
  steady := .inl (AgentFile.eq_blank (Fleet.coherent_of_upToDate upToDate identity.agentId) unknown)

/-- Whatever the reporter does, it sends at most the request for the snapshot that was flushed last. -/
theorem sound_reporter (sound : connection.Sound settings identity) (latest : settings.flushMode = .latest)
    (event : ReporterEvent) (now : Instant) :
    (connection.after (.reporter event now)).Sound settings identity := by
  have move := connection.trace.reporter.move_step now event
  obtain ⟨settings, same⟩ := Reporter.same_of_move move
  have mode : connection.trace.reporter.settings.flushMode = .latest := sound.sameSettings ▸ latest
  obtain ⟨inOrder, sends, rests⟩ := ReporterTrace.advances_of_move sound.inOrder mode move
  refine
    { sameSettings := settings.trans sound.sameSettings
      sameIdentity := same.trans sound.sameIdentity
      inOrder
      underway := fun body underway => ?_
      upToDate := sound.upToDate
      steady := ?_ }
  · rcases Option.or_eq_some_iff.mp underway with sent | ⟨none, still⟩
    · exact sends body sent
    · have before : connection.underway? = some body := by
        cases event with
        | answered => cases still
        | _ => exact still
      exact ReporterTrace.carries_of_same (sound.underway body before) same (rests none)
  · refine AgentFile.steady_mono sound.steady fun report ⟨snapshot, member, made, told⟩ => ?_
    exact ⟨snapshot, (released_grows connection event now).subset member, made, same ▸ told⟩

/-- The request for the snapshot that was flushed last is taken in without a restart, whatever came before
it. -/
theorem shows_submitted (sound : connection.Sound settings identity)
    (named : Text.isAllBlank identity.agentId.toList = false)
    (growing : connection.trace.accepted.Pairwise fun earlier later => later.Continues earlier)
    {snapshot : Snapshot} (last : connection.trace.released.getLast? = some snapshot) (made now : Instant) :
    let request := identity.requestOf made snapshot
    let outcome := Service.submitReport connection.fleet now (Reporter.bodyOf request).toUTF8
    Submission.Shows ⟨Reporter.bodyOf request, now, outcome.1, outcome.2⟩ identity snapshot ∧
      outcome.2.UpToDate ∧ (outcome.2.roster.fileOf identity.agentId).Unbroken (.ofRequest request) := by
  intro request outcome
  have released := growing.sublist sound.inOrder.isPrefix.sublist
  have steady : (connection.fleet.roster.fileOf (Report.ofRequest request).agentId).Steady
      fun previous => (Report.ofRequest request).Continues previous := by
    refine AgentFile.steady_mono sound.steady fun report ⟨earlier, member, made', told⟩ => ?_
    rw [told, sound.sameIdentity]
    have grown := Snapshot.continues_getLast released last earlier member
    exact Report.continues_ofRequest identity made made' grown
  obtain ⟨verdict, upToDate, unbroken, contributed⟩ :=
    Fleet.unbroken_report sound.upToDate steady now
  have read : Service.readReport (Reporter.bodyOf request).toUTF8 = .ok (.ofRequest request) :=
    Service.readReport_bodyOf named
  have taken : outcome =
      (.accepted "metrics processed" now, (connection.fleet.report (.ofRequest request) now).2) := by
    simp only [outcome, Service.submitReport, read, verdict]
    rfl
  obtain ⟨record, known, _, restarts⟩ := unbroken.record
  rw [taken]
  refine ⟨⟨⟨made, rfl⟩, rfl, ⟨record, known, restarts⟩, ?_⟩, upToDate, unbroken⟩
  intro domain
  exact (contributed domain).trans (UsageTable.sameTraffic_named snapshot.domains domain)

/-- Every place that was shown is among the flushed snapshots. -/
theorem lt_of_follows (follows : connection.Follows identity places) :
    ∀ place ∈ places, place < connection.trace.released.length := by
  have shown := follows.shown
  intro place member
  obtain ⟨index, bound, rfl⟩ := List.getElem_of_mem member
  have other : index < connection.submissions.length := shown.length_eq ▸ bound
  obtain ⟨snapshot, found, _⟩ := shown.get bound other
  exact (List.getElem?_eq_some_iff.mp found).1

/-- A request that comes to the server shows the snapshot that was flushed last, and this is not before the
ones that were shown so far. -/
theorem sound_arrival (sound : connection.Sound settings identity)
    (follows : connection.Follows identity places) (named : Text.isAllBlank identity.agentId.toList = false)
    (growing : connection.trace.accepted.Pairwise fun earlier later => later.Continues earlier)
    (now : Instant) :
    (connection.after (.arrival now)).Sound settings identity ∧
      ∃ places, (connection.after (.arrival now)).Follows identity places := by
  rw [after]
  split
  next => exact ⟨sound, places, follows⟩
  next body underway =>
    obtain ⟨snapshot, made, last, rfl⟩ := sound.underway body underway
    rw [sound.sameIdentity]
    obtain ⟨shows, upToDate, unbroken⟩ := shows_submitted sound named growing last made now
    have place : connection.trace.released[connection.trace.released.length - 1]? = some snapshot := by
      rw [← List.getLast?_eq_getElem?, last]
    refine ⟨⟨sound.sameSettings, sound.sameIdentity, sound.inOrder, fun _ => nofun, upToDate, ?_⟩, ?_⟩
    · refine .inr ⟨_, ⟨snapshot, List.mem_of_getLast? last, made, ?_⟩, unbroken⟩
      rw [sound.sameIdentity]
    · refine ⟨places ++ [connection.trace.released.length - 1], ?_, ?_⟩
      · refine List.pairwise_append.mpr ⟨follows.ascending, List.pairwise_singleton _ _, ?_⟩
        intro former member latest same
        have bound := lt_of_follows follows former member
        rw [List.mem_singleton.mp same]
        omega
      · exact List.rel_append follows.shown (.cons ⟨snapshot, place, shows⟩ .nil)

/-- Other calls leave the agent in its first lifetime or forget it. -/
theorem sound_call (sound : connection.Sound settings identity) {call : FleetCall}
    (foreign : ∀ report ∈ call.operation?.bind FleetOperation.report?, report.agentId ≠ identity.agentId) :
    (connection.after (.call call)).Sound settings identity :=
  { sound with
    upToDate := Fleet.upToDate_after sound.upToDate call
    steady := Fleet.steady_after sound.steady foreign }

/-- What was shown stays where it is while the reporter flushes further snapshots. -/
theorem follows_reporter (follows : connection.Follows identity places) (event : ReporterEvent)
    (now : Instant) : (connection.after (.reporter event now)).Follows identity places := by
  refine ⟨follows.ascending, follows.shown.imp fun place submission => ?_⟩
  rintro ⟨snapshot, found, shows⟩
  exact ⟨snapshot, getElem?_of_isPrefix (released_grows connection event now) found, shows⟩

/-- An event only ever adds to the accepted snapshots. -/
theorem accepted_grows (connection : Connection) (event : ConnectionEvent) :
    connection.trace.accepted <+: (connection.after event).trace.accepted := by
  cases event with
  | reporter event now =>
    rw [after, ReporterTrace.after, ReporterTrace.accepted_extend]
    exact List.prefix_append _ _
  | arrival now =>
    rw [after]
    split <;> exact List.prefix_rfl
  | call asked => exact List.prefix_rfl

/-- The connection stays sound under all events, and what was shown ascends, by induction on the events. -/
theorem sound_afterAll (sound : connection.Sound settings identity)
    (follows : connection.Follows identity places) (latest : settings.flushMode = .latest)
    (named : Text.isAllBlank identity.agentId.toList = false) (events : List ConnectionEvent)
    (foreign : ∀ event ∈ events, ∀ report ∈ event.report?, report.agentId ≠ identity.agentId)
    (growing : (connection.afterAll events).trace.accepted.Pairwise
      fun earlier later => later.Continues earlier) :
    (connection.afterAll events).Sound settings identity ∧
      ∃ places, (connection.afterAll events).Follows identity places := by
  induction events using List.reverseRecOn with
  | nil => exact ⟨sound, places, follows⟩
  | append_singleton before last induction =>
    rw [afterAll_concat] at growing ⊢
    have growingBefore := growing.sublist (accepted_grows (connection.afterAll before) last).sublist
    obtain ⟨soundBefore, placesBefore, followsBefore⟩ := induction
      (fun event member => foreign event (List.mem_append_left _ member)) growingBefore
    cases last with
    | reporter event now =>
      exact ⟨sound_reporter soundBefore latest event now, placesBefore,
        follows_reporter followsBefore event now⟩
    | arrival now => exact sound_arrival soundBefore followsBefore named growingBefore now
    | call asked =>
      have own := foreign (.call asked) (List.mem_append_right _ (List.mem_singleton_self _))
      exact ⟨sound_call soundBefore own, placesBefore, followsBefore.ascending, followsBefore.shown⟩

/-- What a reporter in flush mode latest delivers over an unreliable network is safe at the server. Let the
reporter's agent have a name and be unknown to the fleet at first, and let no counter of a domain be smaller
in a later snapshot than in an earlier one of those that were accepted. Then after any events, as long as
nobody else reports for the agent, every request that came to the server was taken in without a restart; the
requests carry accepted snapshots in the order of their acceptance, perhaps repeated or with gaps; and after
each of them the agent contributed, domain by domain, the counters and the counts above zero of just the
snapshot that it carried. -/
theorem submissions_show_latest (aggregation : AggregationSettings) (calls : List FleetCall)
    {settings : ReporterSettings} {identity : AgentIdentity} (latest : settings.flushMode = .latest)
    (named : Text.isAllBlank identity.agentId.toList = false)
    (unknown : ((Fleet.ofSettings aggregation).afterAll calls).roster.records.get? identity.agentId = none)
    (events : List ConnectionEvent)
    (foreign : ∀ event ∈ events, ∀ report ∈ event.report?, report.agentId ≠ identity.agentId) :
    let start := opened ((Fleet.ofSettings aggregation).afterAll calls) settings identity
    let final := start.afterAll events
    (final.trace.accepted.Pairwise fun earlier later => later.Continues earlier) →
      ∃ places : List Nat, places.Pairwise (· ≤ ·) ∧
        List.Forall₂ (fun place submission => ∃ snapshot,
          final.trace.accepted[place]? = some snapshot ∧ submission.Shows identity snapshot)
          places final.submissions := by
  intro start final growing
  have sound : start.Sound settings identity :=
    sound_opened (Fleet.upToDate_afterAll aggregation calls) unknown settings
  have follows : start.Follows identity [] := ⟨.nil, .nil⟩
  obtain ⟨soundFinal, places, ascending, shown⟩ :=
    sound_afterAll sound follows latest named events foreign growing
  refine ⟨places, ascending, shown.imp fun place submission => ?_⟩
  rintro ⟨snapshot, found, shows⟩
  exact ⟨snapshot, getElem?_of_isPrefix soundFinal.inOrder.isPrefix found, shows⟩

/-- A snapshot with a number of accesses to one domain. -/
def accessed (number : UInt64) : Snapshot := { domains := .single "x.org" number }

/-- A snapshot with more accesses continues one with fewer. -/
theorem continues_accessed {fewer more : UInt64} (grown : fewer ≤ more) :
    (accessed more).Continues (accessed fewer) := by
  intro domain usage before listed found
  simp only [accessed, UsageTable.single, SortedMap.ofList, List.foldl_cons, List.foldl_nil,
    SortedMap.get?_insert, SortedMap.get?_empty] at listed found
  split at listed
  next same =>
    rw [if_pos same] at found
    cases listed
    cases found
    exact ⟨grown, UInt64.le_refl 0, UInt64.le_refl 0, UInt64.le_refl 0⟩
  next => cases listed

/-- Of three snapshots one is turned away. The first request is taken in but its answer is lost, so it comes a
second time, after a report of another agent; then the second request comes. -/
def lostAnswer : List ConnectionEvent :=
  let now := Instant.epoch
  [.reporter .start now, .reporter (.offer (accessed 5)) now, .reporter (.offer (accessed 7)) now,
    .reporter (.offer (accessed 9)) now, .reporter .wake now, .arrival now,
    .reporter (.answered (.error (.transport "connection reset"))) now, .reporter .pauseOver now,
    .call (.change (.report (.single "other" now "x.org" 3) now)), .arrival now,
    .reporter (.answered (.ok ())) now, .reporter .wake now, .arrival now]

/-- The snapshots of five and of seven accesses are shown by three submissions. -/
theorem lostAnswer_shows_latest :
    let settings : ReporterSettings := { serverUrl := "", batchSize := 1 }
    let identity : AgentIdentity := ⟨"agent", "host", .epoch⟩
    let start := opened ((Fleet.ofSettings {}).afterAll []) settings identity
    let final := start.afterAll lostAnswer
    (settings.flushMode = .latest ∧ Text.isAllBlank identity.agentId.toList = false ∧
      start.fleet.roster.records.get? identity.agentId = none ∧
      (∀ event ∈ lostAnswer, ∀ report ∈ event.report?, report.agentId ≠ identity.agentId) ∧
      final.trace.accepted.Pairwise fun earlier later => later.Continues earlier) ∧
    final.trace.accepted = [accessed 5, accessed 7] ∧ final.submissions.length = 3 ∧
    ∃ places : List Nat, places.Pairwise (· ≤ ·) ∧
      List.Forall₂ (fun place submission => ∃ snapshot,
        final.trace.accepted[place]? = some snapshot ∧ submission.Shows identity snapshot)
        places final.submissions := by
  intro settings identity start final
  have named : Text.isAllBlank identity.agentId.toList = false := by decide
  have unknown : start.fleet.roster.records.get? identity.agentId = none := rfl
  have foreign : ∀ event ∈ lostAnswer, ∀ report ∈ event.report?, report.agentId ≠ identity.agentId := by
    simp [lostAnswer, ConnectionEvent.report?, FleetCall.operation?, FleetOperation.report?, Report.single,
      identity]
  have accepted : final.trace.accepted = [accessed 5, accessed 7] := by decide +kernel
  have growing : final.trace.accepted.Pairwise fun earlier later => later.Continues earlier := by
    rw [accepted]
    simp only [List.pairwise_cons, List.forall_mem_cons, List.not_mem_nil, false_implies, implies_true,
      List.Pairwise.nil, and_true]
    exact continues_accessed (by decide)
  exact ⟨⟨rfl, named, unknown, foreign, growing⟩, accepted, by decide +kernel,
    submissions_show_latest {} [] rfl named unknown lostAnswer foreign growing⟩

end Connection

end FleetTraffic
