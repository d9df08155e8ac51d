import FleetTraffic.Proofs.Delivery.Trace
import FleetTraffic.Proofs.Service.Requests
import FleetTraffic.Proofs.Settings.Validation

/-!
# What an agent may send and what the server takes

Both ends check the name of an agent: the agent when it loads its settings, the server when a report comes in.
The agent demands a name that is not empty, the server one that is not blank. About the rest of a request they
agree: whatever snapshots it is made of, the server reads back the same request and files the traffic that the
reporter collapsed them to. So the reports of an agent are taken exactly if its name is not blank. An agent with
a blank name starts all the same, and none of its reports ever counts.
-/

namespace FleetTraffic

/-- The settings of an agent load only if they give it no name, or one that is not empty. -/
theorem AgentSettings.agentId?_ne_empty {text : String} {settings : AgentSettings}
    (loads : load text = .ok settings) : settings.agentId? ≠ some "" :=
  ((check_eq_ok_iff settings).mp (SettingsError.checked_eq_ok loads).2).1

/-- A body whose agent has a blank name is turned down for the name, when all of it has been read. -/
theorem Service.readReport_bodyOf_of_blank {request : ReportRequest}
    (blank : Text.isAllBlank request.agentId.toList = true) :
    readReport (Reporter.bodyOf request).toUTF8 =
      .error (.malformedRequest "agent_id must be non-empty") := by
  have decoded := JsonCodec.decode_toUTF8 JsonCodec.faithful_request request
  rw [readReport, Reporter.bodyOf, read, decoded]
  simp only [Except.mapError, bind, Except.bind, blank, if_true]

/-! ## One request -/

namespace Arrival

/-- The arrival brings the request of a reporter to the route for reports. -/
structure Brings (arrival : Arrival) (request : ReportRequest) : Prop where
  posted : arrival.posted? = some .metrics
  body : arrival.request.body = (Reporter.bodyOf request).toUTF8

/-- The service takes what arrives for a report: it answers with status 200 and success, and files the
report. -/
structure TakenAs (fleet : Fleet) (arrival : Arrival) (report : Report) : Prop where
  read : Service.readReport arrival.request.body = .ok report
  status : (Service.respond fleet arrival).1.status = 200
  success : ∃ answer, JsonCodec.response.decode
    (Document.ofBytes (Service.respond fleet arrival).1.body) = .ok answer ∧ answer.success = true
  filed : (Service.respond fleet arrival).2 = (fleet.report report arrival.now).2

/-- The service turns away what arrives for the name of the agent, and changes nothing. -/
structure TurnedAway (fleet : Fleet) (arrival : Arrival) : Prop where
  status : (Service.respond fleet arrival).1.status = 400
  body : (Service.respond fleet arrival).1.body =
    (HttpResponse.refused (.malformedRequest "agent_id must be non-empty") arrival.now).body
  unchanged : (Service.respond fleet arrival).2 = fleet

variable {arrival : Arrival} {request : ReportRequest} (fleet : Fleet)

/-- The request of an agent whose name is not blank is taken. -/
theorem Brings.takenAs (brings : arrival.Brings request)
    (named : Text.isAllBlank request.agentId.toList = false) :
    arrival.TakenAs fleet (.ofRequest request) := by
  have read : Service.readReport arrival.request.body = .ok (.ofRequest request) := by
    rw [brings.body]
    exact Service.readReport_bodyOf named
  have submitted : arrival.submission? = some (.report (.ofRequest request) arrival.now) := by
    rw [Service.submission?_of_metrics brings.posted, read]
    rfl
  obtain ⟨acknowledged, filed⟩ := Service.respond_of_submitted fleet submitted
  obtain ⟨status, success⟩ := (HttpResponse.acknowledges_iff _).mp acknowledged
  exact ⟨read, status, success, filed.trans (Fleet.report_snd fleet _ arrival.now).symm⟩

/-- The request of an agent with a blank name is turned away. -/
theorem Brings.turnedAway (brings : arrival.Brings request)
    (blank : Text.isAllBlank request.agentId.toList = true) : arrival.TurnedAway fleet := by
  have read := Service.readReport_bodyOf_of_blank blank
  have response := Service.respond_of_posted fleet brings.posted (by decide)
  simp only [Service.answer, Service.submitReport, brings.body, read] at response
  constructor
  · rw [response]
    rfl
  · rw [response]
  · rw [response]

/-- What is turned away is not taken for anything. -/
theorem TurnedAway.not_takenAs {fleet : Fleet} (away : arrival.TurnedAway fleet) (report : Report) :
    ¬arrival.TakenAs fleet report := by
  intro taken
  have contradiction := away.status.symm.trans taken.status
  omega

end Arrival

/-! ## All requests of an agent -/

/-- A request that a reporter makes bears the name of its agent. -/
theorem Reporter.agentId_of_request? {settings : ReporterSettings} {identity : AgentIdentity}
    {made : Instant} {batch : List Snapshot} {request : ReportRequest}
    (requested : request? settings identity made batch = some request) :
    request.agentId = identity.agentId := by
  obtain ⟨snapshot, -, rfl⟩ := Option.map_eq_some_iff.mp requested
  rfl

/-- Whatever an agent with a blank name sends, and whenever it does, every request is answered with status 400
and none of them counts. -/
theorem Service.blank_never_counts {identity : AgentIdentity}
    (blank : Text.isAllBlank identity.agentId.toList = true) {arrivals : List Arrival}
    (own : ∀ arrival ∈ arrivals, ∃ settings made batch request,
      Reporter.request? settings identity made batch = some request ∧ arrival.Brings request)
    (fleet : Fleet) :
    afterAll fleet arrivals = fleet ∧ ∀ response ∈ responses fleet arrivals, response.status = 400 := by
  induction arrivals with
  | nil => exact ⟨rfl, fun _ => nofun⟩
  | cons arrival rest induction =>
    obtain ⟨_, _, _, request, requested, brings⟩ := own arrival List.mem_cons_self
    have away : arrival.TurnedAway fleet := by
      apply brings.turnedAway
      rw [Reporter.agentId_of_request? requested]
      exact blank
    obtain ⟨kept, refused⟩ := induction fun later member => own later (List.mem_cons_of_mem _ member)
    constructor
    · rw [afterAll, List.foldl_cons, away.unchanged]
      exact kept
    · rw [responses, away.unchanged]
      exact List.forall_mem_cons.mpr ⟨away.status, refused⟩

namespace AgentSettings

/-- The reports of an agent whose settings set its name, when they load: the name is not empty. Whatever
snapshots are sent, merged or only the latest of them, the request that the reporter makes is read back from its
bytes as it is, and stands for a report of this agent and this startup with the domains of the collapsed
snapshot, each under its own name. Wherever and whenever the request is posted, it is answered with status 200
and success and filed as this report exactly if the name is not blank. If the name is blank, it is answered with
status 400 and changes nothing. As for every request here, it is assumed that bodies of any size come through to
the service: the limit of 2 MiB that a web framework has by default is left out. -/
theorem reports_taken_iff {text : String} {settings : AgentSettings} {id : String}
    (loads : load text = .ok settings) (sets : settings.agentId? = some id)
    {identity : AgentIdentity} (carries : identity.agentId = id) (mode : FlushMode)
    {batch : List Snapshot} (nonempty : batch ≠ []) (made : Instant) :
    id ≠ "" ∧ ∃ snapshot request,
      Reporter.collapse? mode batch = some snapshot ∧
      Reporter.request? { settings.reporter with flushMode := mode } identity made batch = some request ∧
      JsonCodec.request.decode (Document.ofBytes (Reporter.bodyOf request).toUTF8) = .ok request ∧
      (Report.ofRequest request).agentId = id ∧
      (Report.ofRequest request).startup = identity.startup ∧
      (Report.ofRequest request).domains = snapshot.domains.named ∧
      ∀ (fleet : Fleet) (arrival : Arrival), arrival.Brings request →
        (arrival.TakenAs fleet (.ofRequest request) ↔ Text.isAllBlank id.toList = false) ∧
        (Text.isAllBlank id.toList = true → arrival.TurnedAway fleet) := by
  have notEmpty : id ≠ "" := by
    rintro rfl
    exact agentId?_ne_empty loads sets
  obtain ⟨snapshot, collapsed, requested⟩ := Reporter.request?_of_ne_nil
    { settings.reporter with flushMode := mode } identity made nonempty
  refine ⟨notEmpty, snapshot, _, collapsed, requested,
    JsonCodec.decode_toUTF8 JsonCodec.faithful_request _, carries, rfl, rfl, ?_⟩
  intro fleet arrival brings
  subst carries
  refine ⟨⟨?_, fun named => brings.takenAs fleet named⟩, fun blank => brings.turnedAway fleet blank⟩
  intro taken
  rw [Bool.eq_false_iff]
  intro blank
  exact (brings.turnedAway fleet blank).not_takenAs _ taken

/-! ### A plain name and a blank one -/

/-- The settings that give an agent a name and say where its reports go, and nothing else. -/
def naming (id : String) : AgentSettings where
  agentId? := some id
  reporter := { serverUrl := "http://server/metrics" }

/-- The agent with a name that starts in 1970. -/
def startedAs (id : String) : AgentIdentity := ⟨id, "host", .epoch⟩

/-- The arrival of a request at the path for reports in 1970. -/
def posting (request : ReportRequest) : Arrival where
  request := { method := .post, target := "/metrics", body := (Reporter.bodyOf request).toUTF8 }
  now := .epoch
  age := 0

/-- What is posted to the path for reports comes to their route. -/
theorem brings_posting (request : ReportRequest) : (posting request).Brings request := by
  have path : Route.pathOf "/metrics" = "/metrics" := by cbv
  have parts : "/metrics".splitOn "/" = ["", "metrics"] := by
    simp +decide [String.splitOn, String.splitOnAux]
  refine ⟨?_, rfl⟩
  rw [Arrival.posted?, posting, if_pos rfl, Route.ofTarget?, path, parts]
  rfl

/-- An agent called `a` merges two snapshots into a report, and a new server takes it. -/
theorem plainName_taken :
    let batch : List Snapshot := [{ domains := .single "x.org" 5 }, { domains := .single "y.org" 7 }]
    load "[agent]\nagent_id = \"a\"\n[reporter]\nserver_url = \"http://server/metrics\"" =
        .ok (naming "a") ∧
      ∃ request, Reporter.request? { (naming "a").reporter with flushMode := .merge } (startedAs "a")
          .epoch batch = some request ∧
        (Report.ofRequest request).agentId = "a" ∧
        (posting request).TakenAs (Fleet.ofSettings {}) (.ofRequest request) := by
  intro batch
  have loads : load "[agent]\nagent_id = \"a\"\n[reporter]\nserver_url = \"http://server/metrics\"" =
      .ok (naming "a") := by cbv
  have carries : (startedAs "a").agentId = "a" := rfl
  have nonempty : batch ≠ [] := List.cons_ne_nil _ _
  obtain ⟨_, _, request, _, requested, _, named, _, _, posted⟩ :=
    reports_taken_iff loads rfl carries .merge nonempty .epoch
  refine ⟨loads, request, requested, named, ?_⟩
  exact (posted (Fleet.ofSettings {}) (posting request) (brings_posting request)).1.mpr (by decide)

/-- An agent can be called by three blanks. It starts, and the report of its first snapshot is answered with
status 400 by a new server, though it reads back the very request that was made. -/
theorem blankName_refused :
    load "[agent]\nagent_id = \"   \"\n[reporter]\nserver_url = \"http://server/metrics\"" =
        .ok (naming "   ") ∧
      ∃ request, Reporter.request? (naming "   ").reporter (startedAs "   ") .epoch [{}] = some request ∧
        JsonCodec.request.decode (Document.ofBytes (posting request).request.body) = .ok request ∧
        (Service.respond (Fleet.ofSettings {}) (posting request)).1.status = 400 ∧
        ¬(Service.respond (Fleet.ofSettings {}) (posting request)).1.Acknowledges := by
  let request : ReportRequest := ⟨"   ", "host", .epoch, some .epoch, {}⟩
  have away := (brings_posting request).turnedAway (Fleet.ofSettings {}) (by decide)
  refine ⟨by cbv, request, rfl, ?_, away.status, HttpResponse.not_acknowledges_of_status ?_⟩
  · rw [(brings_posting request).body]
    exact JsonCodec.decode_toUTF8 JsonCodec.faithful_request request
  · rw [away.status]
    decide

end AgentSettings

end FleetTraffic
