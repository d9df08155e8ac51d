import FleetTraffic.Proofs.Fleet.Alike
import FleetTraffic.Proofs.Service.Acknowledgement

/-!
# Requests and what becomes of them

A request submits something if it is posted to one of the two routes for it, its body can be read, and its
agent has a name. Just these requests are acknowledged, and just these change the fleet: the state after any
requests is that of the submissions among them, one after the other. A recomputing fleet may keep other sums
after a question than before, but what is kept is always right, so no later answer shows that the question was
asked.
-/

namespace FleetTraffic

/-! ## What a request submits -/

/-- A request that arrives at the service, when it does, and the age that the kept sums have by then. -/
structure Arrival where
  request : HttpRequest
  now : Instant
  age : Nat

namespace Arrival

/-- The route of a request that is posted to the service. -/
def posted? (arrival : Arrival) : Option Route :=
  if arrival.request.method = .post then Route.ofTarget? arrival.request.target else none

/-- What a request submits: the report in a body that can be read and whose agent has a name that is not blank,
or the heartbeat in a body that can be read, each posted to its route. -/
def submission? (arrival : Arrival) : Option FleetOperation :=
  match arrival.posted? with
  | some .metrics =>
    match JsonCodec.request.decode (Document.ofBytes arrival.request.body) with
    | .ok request =>
      if Text.isAllBlank request.agentId.toList then none
      else some (.report (Report.ofRequest request) arrival.now)
    | .error _ => none
  | some .heartbeat =>
    match JsonCodec.heartbeat.decode (Document.ofBytes arrival.request.body) with
    | .ok heartbeat => some (.heartbeat heartbeat arrival.now)
    | .error _ => none
  | _ => none

/-- A request is meant to submit something if it is posted to a route for it. -/
def MeansToSubmit (arrival : Arrival) : Prop :=
  arrival.posted? = some .metrics ∨ arrival.posted? = some .heartbeat

/-- Two arrivals of the same request at the same time. Kept sums may have different ages by then. -/
def SameRequest (first second : Arrival) : Prop :=
  first.request = second.request ∧ first.now = second.now

end Arrival

namespace Service

/-- The response to a request that arrives, and the fleet after it. -/
def respond (fleet : Fleet) (arrival : Arrival) : HttpResponse × Fleet :=
  serve fleet arrival.age arrival.now arrival.request

/-- The fleet after some requests. -/
def afterAll (fleet : Fleet) (arrivals : List Arrival) : Fleet :=
  arrivals.foldl (fun fleet arrival => (respond fleet arrival).2) fleet

/-- The responses to some requests, one after the other. -/
def responses (fleet : Fleet) : List Arrival → List HttpResponse
  | [] => []
  | arrival :: rest => (respond fleet arrival).1 :: responses (respond fleet arrival).2 rest

/-! ## Submissions -/

section Submission

variable {arrival : Arrival}

/-- A request to the route for reports submits the report that the service reads in its body, if any. -/
theorem submission?_of_metrics (posted : arrival.posted? = some .metrics) :
    arrival.submission? =
      (readReport arrival.request.body).toOption.map fun report => .report report arrival.now := by
  rw [Arrival.submission?, posted, readReport, read]
  cases JsonCodec.request.decode (Document.ofBytes arrival.request.body) with
  | error fault => rfl
  | ok request =>
    simp only [Except.mapError, bind, Except.bind]
    split <;> rfl

/-- A request to the route for heartbeats submits the heartbeat that the service reads in its body, if any. -/
theorem submission?_of_heartbeat (posted : arrival.posted? = some .heartbeat) :
    arrival.submission? =
      (read .heartbeat arrival.request.body).toOption.map fun heartbeat =>
        .heartbeat heartbeat arrival.now := by
  rw [Arrival.submission?, posted, read]
  cases JsonCodec.heartbeat.decode (Document.ofBytes arrival.request.body) <;> rfl

/-- Only what is meant to submit something does. -/
theorem submission?_of_other (other : ¬arrival.MeansToSubmit) : arrival.submission? = none := by
  rw [Arrival.submission?]
  split
  next posted => exact absurd (.inl posted) other
  next posted => exact absurd (.inr posted) other
  next => rfl

/-- A body that cannot be read is a bad request. -/
theorem status_of_read {α : Type} {codec : JsonCodec α} {body : ByteArray} {error : ServiceError}
    (refused : read codec body = .error error) : error.status = 400 := by
  rw [read] at refused
  cases decoded : codec.decode (Document.ofBytes body) with
  | ok value =>
    rw [decoded] at refused
    cases refused
  | error fault =>
    rw [decoded] at refused
    cases refused
    rfl

/-- A body without a report of an agent with a name is a bad request. -/
theorem status_of_readReport {body : ByteArray} {error : ServiceError}
    (refused : readReport body = .error error) : error.status = 400 := by
  rw [readReport] at refused
  cases request : read .request body with
  | error fault =>
    rw [request] at refused
    cases refused
    exact status_of_read request
  | ok value =>
    simp only [request, bind, Except.bind] at refused
    split at refused
    next => cases refused; rfl
    next => cases refused

variable (fleet : Fleet)

/-- The answer to a posted request is that of its route, shown to pages of any origin. -/
theorem respond_of_posted {route : Route} (posted : arrival.posted? = some route)
    (takes : HttpMethod.post ∈ route.methods) :
    respond fleet arrival =
      let outcome := answer fleet arrival.age arrival.now arrival.request.body route
      ({ outcome.1 with headers := ("access-control-allow-origin", "*") :: outcome.1.headers },
        outcome.2) := by
  obtain ⟨request, now, age⟩ := arrival
  obtain ⟨method, target⟩ : request.method = .post ∧ Route.ofTarget? request.target = some route := by
    simpa [Arrival.posted?] using posted
  simp only [respond, serve, target, answerOn, method, takes, reduceCtorEq, if_false, if_true]

/-- What is meant to submit something is acknowledged and the fleet changes by it, or it submits nothing, is a
bad request, and the fleet stays as it is. -/
theorem respond_of_meant (meant : arrival.MeansToSubmit) :
    (∃ operation, arrival.submission? = some operation ∧
      (respond fleet arrival).1.Acknowledges ∧ (respond fleet arrival).2 = (fleet.apply operation).2) ∨
    (arrival.submission? = none ∧
      (respond fleet arrival).1.status = 400 ∧ (respond fleet arrival).2 = fleet) := by
  rcases meant with posted | posted
  · rw [respond_of_posted fleet posted (by decide), submission?_of_metrics posted]
    cases found : readReport arrival.request.body with
    | error error =>
      simp only [answer, submitReport, found]
      exact .inr ⟨rfl, status_of_readReport found, trivial⟩
    | ok report =>
      simp only [answer, submitReport, found]
      exact .inl ⟨_, rfl, HttpResponse.acknowledges_accepted _ _, Fleet.report_snd fleet report arrival.now⟩
  · rw [respond_of_posted fleet posted (by decide), submission?_of_heartbeat posted]
    cases found : read .heartbeat arrival.request.body with
    | error error =>
      simp only [answer, submitHeartbeat, found]
      exact .inr ⟨rfl, status_of_read found, trivial⟩
    | ok heartbeat =>
      simp only [answer, submitHeartbeat, found]
      exact .inl ⟨_, rfl, HttpResponse.acknowledges_accepted _ _,
        Fleet.introduce_snd fleet heartbeat arrival.now⟩

/-- What is submitted is acknowledged, and the fleet changes by it. -/
theorem respond_of_submitted {operation : FleetOperation}
    (submitted : arrival.submission? = some operation) :
    (respond fleet arrival).1.Acknowledges ∧ (respond fleet arrival).2 = (fleet.apply operation).2 := by
  by_cases meant : arrival.MeansToSubmit
  · rcases respond_of_meant fleet meant with ⟨other, found, taken⟩ | ⟨nothing, -⟩
    · rw [submitted] at found
      cases found
      exact taken
    · rw [submitted] at nothing
      cases nothing
  · rw [submission?_of_other meant] at submitted
    cases submitted

/-- What is meant to submit something and does not is a bad request, and the fleet stays as it is. -/
theorem respond_of_refused (meant : arrival.MeansToSubmit) (nothing : arrival.submission? = none) :
    (respond fleet arrival).1.status = 400 ∧ (respond fleet arrival).2 = fleet := by
  rcases respond_of_meant fleet meant with ⟨operation, found, -⟩ | ⟨-, refused⟩
  · rw [nothing] at found
    cases found
  · exact refused

end Submission

/-! ## Questions -/

section Question

variable (fleet : Fleet) (age : Nat) (now : Instant)

/-- An outcome that acknowledges nothing, with a fleet that was asked at most. -/
def Harmless (fleet : Fleet) (age : Nat) (now : Instant) (outcome : HttpResponse × Fleet) : Prop :=
  ¬outcome.1.Acknowledges ∧ (outcome.2 = fleet ∨ outcome.2 = fleet.asked age now)

/-- The routes that show something are harmless. -/
theorem harmless_answer (body : ByteArray) {route : Route} (shows : HttpMethod.post ∉ route.methods) :
    Harmless fleet age now (answer fleet age now body route) := by
  cases route with
  | metrics => exact absurd (by decide) shows
  | heartbeat => exact absurd (by decide) shows
  | cumulative => exact ⟨not_acknowledges_showFleet fleet age now, .inr (fleet.view_snd age now)⟩
  | domain written =>
    refine ⟨not_acknowledges_showDomain fleet age now written, ?_⟩
    rw [answer, showDomain]
    cases Text.percentDecodeText? written.toList with
    | none => exact .inl rfl
    | some domain =>
      have asked := fleet.usage?_snd age now domain
      cases found : (fleet.usage? age now domain).1 with
      | none =>
        simp only [found]
        exact .inr asked
      | some usage =>
        simp only [found]
        exact .inr asked
  | agents => exact ⟨not_acknowledges_showAgents fleet now, .inl rfl⟩
  | health => exact ⟨not_acknowledges_showHealth fleet age now, .inr (fleet.stats_snd age now)⟩
  | version => exact ⟨not_acknowledges_showVersion, .inl rfl⟩

/-- Only the routes for submissions are posted to, and they take nothing else. -/
theorem route_of_post {route : Route} (posts : HttpMethod.post ∈ route.methods) :
    (route = .metrics ∨ route = .heartbeat) ∧ route.methods = [.post] := by
  cases route with
  | metrics => exact ⟨.inl rfl, rfl⟩
  | heartbeat => exact ⟨.inr rfl, rfl⟩
  | _ => exact absurd posts (by simp [Route.methods])

/-- A request that is not meant to submit anything is harmless. -/
theorem harmless_respond {arrival : Arrival} (other : ¬arrival.MeansToSubmit) :
    Harmless fleet arrival.age arrival.now (respond fleet arrival) := by
  obtain ⟨request, now, age⟩ := arrival
  have empty (response : HttpResponse) (body : response.body = .empty) : ¬response.Acknowledges :=
    HttpResponse.not_acknowledges_of_empty body
  cases target : Route.ofTarget? request.target with
  | none =>
    simp only [respond, serve, target]
    exact ⟨empty _ rfl, .inl rfl⟩
  | some route =>
    by_cases options : request.method = .options
    · simp only [respond, serve, target, answerOn, options, if_true]
      exact ⟨empty _ rfl, .inl rfl⟩
    · by_cases takes : request.method ∈ route.methods
      · have shows : HttpMethod.post ∉ route.methods := by
          intro posts
          obtain ⟨submits, only⟩ := route_of_post posts
          have method : request.method = .post := by simpa [only] using takes
          have posted : Arrival.posted? ⟨request, now, age⟩ = some route := by
            rw [Arrival.posted?, if_pos method, target]
          rcases submits with rfl | rfl
          · exact other (.inl posted)
          · exact other (.inr posted)
        have harmless := harmless_answer fleet age now request.body shows
        simp only [respond, serve, target, answerOn, options, takes, if_true, if_false]
        refine ⟨?_, harmless.2⟩
        by_cases head : request.method = .head
        · simp only [head, if_true]
          exact empty _ rfl
        · simp only [head, if_false]
          exact harmless.1
      · simp only [respond, serve, target, answerOn, options, takes, if_false]
        exact ⟨empty _ rfl, .inl rfl⟩

end Question

/-! ## Answers of fleets that are alike -/

section Alike

variable {first second : Fleet}

/-- A route answers alike for fleets that are alike. -/
theorem answer_alike (alike : first.Alike second) (age age' : Nat) (now : Instant) (body : ByteArray)
    (route : Route) : (answer first age now body route).1 = (answer second age' now body route).1 := by
  obtain ⟨view, usage, stats⟩ := alike.questions age age' now
  cases route with
  | metrics =>
    rw [answer, answer, submitReport, submitReport]
    cases readReport body with
    | error error => rfl
    | ok report =>
      have verdict : (first.report report now).1 = (second.report report now).1 := by
        rw [Fleet.report_fst, Fleet.report_fst, alike.roster_eq, alike.options_eq]
      simp only [verdict]
  | heartbeat =>
    rw [answer, answer, submitHeartbeat, submitHeartbeat]
    cases read .heartbeat body with
    | error error => rfl
    | ok heartbeat => simp only [Fleet.introduce_fst, alike.roster_eq]
  | cumulative => simp only [answer, showFleet, view]
  | domain written =>
    rw [answer, answer, showDomain, showDomain]
    cases Text.percentDecodeText? written.toList with
    | none => rfl
    | some domain =>
      simp only [usage domain]
      cases (second.usage? age' now domain).1 <;> rfl
  | agents => simp only [answer, showAgents, Fleet.summaries, alike.roster_eq, alike.options_eq]
  | health => simp only [answer, showHealth, stats]
  | version => rfl

/-- The same request is answered alike by fleets that are alike, whatever the ages of what they keep. -/
theorem response_alike (alike : first.Alike second) {arrival arrival' : Arrival}
    (same : arrival.SameRequest arrival') : (respond first arrival).1 = (respond second arrival').1 := by
  obtain ⟨request, now, age⟩ := arrival
  obtain ⟨request', now', age'⟩ := arrival'
  obtain ⟨rfl, rfl⟩ := same
  simp only [respond, serve]
  cases Route.ofTarget? request.target with
  | none => rfl
  | some route =>
    have answered := answer_alike alike age age' now request.body route
    by_cases options : request.method = .options
    · simp only [answerOn, options, if_true]
    · by_cases takes : request.method ∈ route.methods
      · simp only [answerOn, options, takes, if_true, if_false, answered]
      · simp only [answerOn, options, takes, if_false]

/-- A request that submits nothing leaves a fleet like the other one. -/
theorem alike_of_unsubmitted (alike : first.Alike second) {arrival : Arrival}
    (nothing : arrival.submission? = none) : (respond first arrival).2.Alike second := by
  by_cases meant : arrival.MeansToSubmit
  · rw [(respond_of_refused first meant nothing).2]
    exact alike
  · rcases (harmless_respond first meant).2 with same | asked
    · rw [same]
      exact alike
    · rw [asked]
      exact alike.asked _ _

/-- Fleets that are alike are alike after the same request. -/
theorem respond_alike (alike : first.Alike second) {arrival arrival' : Arrival}
    (same : arrival.SameRequest arrival') :
    (respond first arrival).2.Alike (respond second arrival').2 := by
  have submissions : arrival'.submission? = arrival.submission? := by
    simp only [Arrival.submission?, Arrival.posted?, same.1, same.2]
  cases submitted : arrival.submission? with
  | some operation =>
    rw [(respond_of_submitted first submitted).2,
      (respond_of_submitted second (submissions.trans submitted)).2]
    exact (alike.apply operation).2
  | none =>
    have here := alike_of_unsubmitted alike submitted
    exact (alike_of_unsubmitted here.symm (submissions.trans submitted)).symm

/-- The same requests are answered alike, one after the other, by fleets that are alike. -/
theorem responses_alike (alike : first.Alike second) {later later' : List Arrival}
    (same : List.Forall₂ Arrival.SameRequest later later') :
    responses first later = responses second later' := by
  induction same generalizing first second with
  | nil => rfl
  | cons here rest induction =>
    rw [responses, responses, response_alike alike here, induction (respond_alike alike here)]

/-- After any requests the fleet is like one that took in the submissions among them and nothing else. -/
theorem afterAll_alike (alike : first.Alike second) (arrivals : List Arrival) :
    (afterAll first arrivals).Alike
      ((arrivals.filterMap Arrival.submission?).foldl (fun fleet operation => (fleet.apply operation).2)
        second) := by
  induction arrivals generalizing first second with
  | nil => exact alike
  | cons arrival rest induction =>
    rw [afterAll, List.foldl_cons]
    cases submitted : arrival.submission? with
    | some operation =>
      rw [List.filterMap_cons_some submitted, List.foldl_cons, (respond_of_submitted first submitted).2]
      exact induction (alike.apply operation).2
    | none =>
      rw [List.filterMap_cons_none submitted]
      exact induction (alike_of_unsubmitted alike submitted)

end Alike

/-- Requests change the fleet just if they are acknowledged. After any requests, under either strategy, the
agents, their reports and baselines are those of a fleet that took in the submissions among the requests one
after the other and nothing else, and so are all sums that can be asked for, at any time; under the incremental
strategy the whole fleets are the same. A further request is acknowledged, with status 200 and success, exactly
if it submits something; what was meant to submit something and does not is answered with status 400; and
whatever submits nothing, a question among them, leaves all later answers as they would have been without
it. -/
theorem acknowledged_exactly (settings : AggregationSettings) (arrivals : List Arrival) :
    let final := afterAll (Fleet.ofSettings settings) arrivals
    let folded := (arrivals.filterMap Arrival.submission?).foldl
      (fun fleet operation => (fleet.apply operation).2) (Fleet.ofSettings settings)
    (final.roster = folded.roster ∧
      (∀ age age' now, (final.view age now).1 = (folded.view age' now).1 ∧
        (∀ domain, (final.usage? age now domain).1 = (folded.usage? age' now domain).1) ∧
        (final.stats age now).1 = (folded.stats age' now).1) ∧
      (settings.strategy = .incremental → final = folded)) ∧
    ∀ arrival : Arrival,
      let response := (respond final arrival).1
      (response.Acknowledges ↔ arrival.submission?.isSome = true) ∧
      (response.Acknowledges ↔ response.status = 200 ∧
        ∃ answer, JsonCodec.response.decode (Document.ofBytes response.body) = .ok answer ∧
          answer.success = true) ∧
      (arrival.MeansToSubmit → arrival.submission? = none → response.status = 400) ∧
      (arrival.submission? = none → ∀ later later', List.Forall₂ Arrival.SameRequest later later' →
        responses (respond final arrival).2 later = responses final later') := by
  intro final folded
  have alike : final.Alike folded := afterAll_alike (Fleet.alike_ofSettings settings) arrivals
  refine ⟨⟨alike.roster_eq, alike.questions, ?_⟩, fun arrival => ⟨?_, ?_, ?_, ?_⟩⟩
  · intro strategy
    have start : Fleet.ofSettings settings = .incremental settings.options {} := by
      rw [Fleet.ofSettings, strategy]
    have whole : folded = .incremental settings.options
        (IncrementalFleet.run settings.options (arrivals.filterMap Arrival.submission?)) := by
      simp only [folded, start]
      exact Fleet.foldl_apply_incremental _ _ _
    rw [whole] at alike ⊢
    exact alike.eq_of_incremental
  · constructor
    · intro acknowledged
      rw [Option.isSome_iff_ne_none]
      intro nothing
      by_cases meant : arrival.MeansToSubmit
      · have status := (respond_of_refused final meant nothing).1
        exact HttpResponse.not_acknowledges_of_status (by rw [status]; decide) acknowledged
      · exact (harmless_respond final meant).1 acknowledged
    · intro submits
      obtain ⟨operation, submitted⟩ := Option.isSome_iff_exists.mp submits
      exact (respond_of_submitted final submitted).1
  · exact HttpResponse.acknowledges_iff _
  · intro meant nothing
    exact (respond_of_refused final meant nothing).1
  · intro nothing later later' same
    exact responses_alike (alike_of_unsubmitted alike.left nothing) same

end Service

end FleetTraffic
