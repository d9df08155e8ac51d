import FleetTraffic.Proofs.Delivery.Moves

/-!
# What the attempts carry

The snapshots leave a reporter in the order in which they came, even where some of them are lost with the
flusher or discarded, and every attempt carries the request that was made for the batch flushed last. A
reporter that sends the latest snapshot of each batch thus only ever sends the latest snapshot that was
flushed.
-/

namespace FleetTraffic

/-- The request that is sent. -/
def ReporterEffect.sent? : ReporterEffect → Option String
  | .send body => some body
  | _ => none

namespace Reporter

/-- The snapshots that the reporter holds, from the first to come to the last. -/
def held (reporter : Reporter) : List Snapshot := reporter.inHand ++ reporter.queue

/-- Whether the flusher has ended or failed. -/
def isGone (reporter : Reporter) : Bool := reporter.flusher = .finished || reporter.flusher = .failed

end Reporter

/-- The request for a snapshot of an agent, made at a time. -/
def AgentIdentity.requestOf (identity : AgentIdentity) (made : Instant) (snapshot : Snapshot) :
    ReportRequest :=
  ⟨identity.agentId, identity.hostname, made, some identity.startup, snapshot⟩

namespace ReporterTrace

/-- The snapshots that were flushed, in order. -/
def released (trace : ReporterTrace) : List Snapshot := trace.flushed.flatten

/-- A text is the request for the snapshot that was flushed last. -/
def Carries (trace : ReporterTrace) (body : String) : Prop :=
  ∃ snapshot made, trace.released.getLast? = some snapshot ∧
    body = Reporter.bodyOf (trace.reporter.identity.requestOf made snapshot)

/-- The snapshots that were accepted begin with those that were flushed. As long as the flusher is there, the
ones that it holds come next, and nothing else; and a request in delivery is for the one that was flushed
last. -/
structure InOrder (trace : ReporterTrace) : Prop where
  isPrefix : trace.released <+: trace.accepted
  placed : trace.reporter.isGone = false → trace.accepted = trace.released ++ trace.reporter.held
  carried : ∀ delivery, trace.reporter.flusher = .delivering delivery → trace.Carries delivery.body

/-- Nothing has happened to a fresh reporter. -/
theorem inOrder_fresh (settings : ReporterSettings) (identity : AgentIdentity) :
    (fresh settings identity).InOrder :=
  ⟨List.nil_prefix, fun _ => rfl, fun _ => nofun⟩

variable {trace : ReporterTrace}

/-- A request stays what it is while nothing more is flushed. -/
theorem carries_of_same {after : ReporterTrace} {body : String} (carried : trace.Carries body)
    (identity : after.reporter.identity = trace.reporter.identity)
    (released : after.released = trace.released) : after.Carries body := by
  rw [Carries, identity, released]
  exact carried

/-- Further effects flush further snapshots. -/
theorem released_extend (trace : ReporterTrace) (reporter : Reporter) (effects : List ReporterEffect) :
    released ⟨reporter, trace.effects ++ effects⟩ =
      trace.released ++ (effects.filterMap ReporterEffect.flushed?).flatten := by
  rw [released, flushed_extend, List.flatten_append, released]

/-- The request of a batch in flush mode latest is for its last snapshot, which is the one flushed last. -/
theorem carries_of_begun {request : ReportRequest} {batch : List Snapshot} {now : Instant}
    (latest : trace.reporter.settings.flushMode = .latest)
    (made : Reporter.request? trace.reporter.settings trace.reporter.identity now batch = some request)
    {after : ReporterTrace} (identity : after.reporter.identity = trace.reporter.identity)
    (released : after.released = trace.released ++ batch) :
    after.Carries (Reporter.bodyOf request) := by
  rw [Reporter.request?, latest, Reporter.collapse?] at made
  obtain ⟨snapshot, last, rfl⟩ := Option.map_eq_some_iff.mp made
  refine ⟨snapshot, now, ?_, by rw [identity]; rfl⟩
  rw [released, List.getLast?_append, last, Option.some_or]

/-- After a step the order is kept. If something is sent, it is the request for the snapshot that was flushed
last; if nothing is sent, nothing is flushed. -/
structure Advances (trace : ReporterTrace) (next : Reporter) (effects : List ReporterEffect) : Prop where
  inOrder : InOrder ⟨next, trace.effects ++ effects⟩
  sends : ∀ body, effects.findSome? ReporterEffect.sent? = some body →
    Carries ⟨next, trace.effects ++ effects⟩ body
  rests : effects.findSome? ReporterEffect.sent? = none →
    released ⟨next, trace.effects ++ effects⟩ = trace.released

variable {next : Reporter} {effects : List ReporterEffect}

/-- Where no batch is flushed no further snapshots are. -/
theorem released_of_unflushed (flushed : effects.filterMap ReporterEffect.flushed? = []) :
    released ⟨next, trace.effects ++ effects⟩ = trace.released := by
  rw [released_extend, flushed, List.flatten_nil, List.append_nil]

/-- A step that flushes nothing keeps the order, if the reporter holds as much more as it has accepted and
has the same request in delivery as before. -/
theorem inOrder_of_kept (inOrder : trace.InOrder) (identity : next.identity = trace.reporter.identity)
    (flushed : effects.filterMap ReporterEffect.flushed? = [])
    (kept : next.isGone = false → trace.reporter.isGone = false ∧
      next.held = trace.reporter.held ++ effects.filterMap ReporterEffect.accepted?)
    (body : ∀ delivery, next.flusher = .delivering delivery →
      ∃ former, trace.reporter.flusher = .delivering former ∧ delivery.body = former.body) :
    InOrder ⟨next, trace.effects ++ effects⟩ := by
  have same : released ⟨next, trace.effects ++ effects⟩ = trace.released := released_of_unflushed flushed
  refine ⟨?_, fun working => ?_, fun delivery delivering => ?_⟩
  · rw [same, accepted_extend]
    exact inOrder.isPrefix.trans (List.prefix_append _ _)
  · obtain ⟨before, held⟩ := kept working
    rw [same, accepted_extend, inOrder.placed before, held, List.append_assoc]
  · obtain ⟨former, delivering, text⟩ := body delivery delivering
    rw [text]
    exact carries_of_same (inOrder.carried former delivering) identity same

/-- A step that neither flushes nor sends anything advances, under the same conditions. -/
theorem advances_of_kept (inOrder : trace.InOrder) (identity : next.identity = trace.reporter.identity)
    (quiet : effects.filterMap ReporterEffect.flushed? = [] ∧
      effects.findSome? ReporterEffect.sent? = none)
    (kept : next.isGone = false → trace.reporter.isGone = false ∧
      next.held = trace.reporter.held ++ effects.filterMap ReporterEffect.accepted?)
    (body : ∀ delivery, next.flusher = .delivering delivery →
      ∃ former, trace.reporter.flusher = .delivering former ∧ delivery.body = former.body) :
    trace.Advances next effects := by
  refine ⟨inOrder_of_kept inOrder identity quiet.1 kept body, fun text sent => ?_,
    fun _ => released_of_unflushed quiet.1⟩
  rw [quiet.2] at sent
  cases sent

/-- The beginning of a delivery advances. -/
theorem advances_of_begun (inOrder : trace.InOrder) (latest : trace.reporter.settings.flushMode = .latest)
    (identity : next.identity = trace.reporter.identity) (working : trace.reporter.isGone = false)
    {batch : List Snapshot} {request : ReportRequest} {now : Instant}
    (held : trace.reporter.held = batch ++ next.held)
    (made : Reporter.request? trace.reporter.settings trace.reporter.identity now batch = some request)
    (body : ∀ delivery, next.flusher = .delivering delivery → delivery.body = Reporter.bodyOf request) :
    trace.Advances next [.flushed batch, .send (Reporter.bodyOf request)] := by
  let after : ReporterTrace := ⟨next, trace.effects ++ [.flushed batch, .send (Reporter.bodyOf request)]⟩
  have more : after.released = trace.released ++ batch := by
    rw [released_extend]
    simp [ReporterEffect.flushed?]
  have placed : after.accepted = after.released ++ next.held := by
    rw [more, accepted_extend, inOrder.placed working, held]
    simp [ReporterEffect.accepted?, List.filterMap_cons]
  have carried : after.Carries (Reporter.bodyOf request) := carries_of_begun latest made identity more
  refine ⟨⟨?_, fun _ => placed, fun delivery delivering => ?_⟩, fun text sent => ?_, nofun⟩
  · rw [placed]
    exact List.prefix_append _ _
  · rw [body delivery delivering]
    exact carried
  · cases sent
    exact carried

/-- Every step advances. -/
theorem advances_of_move (inOrder : trace.InOrder) (latest : trace.reporter.settings.flushMode = .latest)
    {now : Instant} {event : ReporterEvent} (move : trace.reporter.Move now event next effects) :
    trace.Advances next effects := by
  have identity := (Reporter.same_of_move move).2
  cases move with
  | beat _ _ heartbeats sends =>
    rcases sends with rfl | ⟨heartbeat, rfl⟩ <;>
      exact advances_of_kept inOrder identity ⟨rfl, rfl⟩ (fun working => ⟨working, (List.append_nil _).symm⟩)
        fun delivery delivering => ⟨delivery, delivering, rfl⟩
  | same | refuse | turnAway | tell =>
    exact advances_of_kept inOrder identity ⟨rfl, rfl⟩ (fun working => ⟨working, (List.append_nil _).symm⟩)
      fun delivery delivering => ⟨delivery, delivering, rfl⟩
  | accept =>
    exact advances_of_kept inOrder identity ⟨rfl, rfl⟩
      (fun working => ⟨working, (List.append_assoc _ _ _).symm⟩)
      fun delivery delivering => ⟨delivery, delivering, rfl⟩
  | start unstarted =>
    refine advances_of_kept inOrder identity ⟨rfl, rfl⟩ (fun _ => ⟨?_, ?_⟩) nofun
    · simp [Reporter.isGone, unstarted]
    · simp [Reporter.held, Reporter.inHand, unstarted]
  | withdraw | abandon | finish | lose =>
    exact advances_of_kept inOrder identity ⟨rfl, rfl⟩ nofun nofun
  | take idle =>
    refine advances_of_kept inOrder identity ⟨rfl, rfl⟩ (fun _ => ⟨?_, ?_⟩) nofun
    · simp [Reporter.isGone, idle]
    · simp [Reporter.held, Reporter.inHand, idle]
  | begin _ idle _ split _ _ made =>
    refine advances_of_begun inOrder latest identity ?_ ?_ made ?_
    · simp [Reporter.isGone, idle]
    · simpa [Reporter.held, Reporter.inHand, idle] using split
    · rintro _ ⟨⟩
      rfl
  | deliver delivering | giveUp _ delivering =>
    refine advances_of_kept inOrder identity ⟨rfl, rfl⟩ (fun _ => ⟨?_, ?_⟩) nofun
    · simp [Reporter.isGone, delivering]
    · simp [Reporter.held, Reporter.inHand, delivering]
  | @pause delivery _ delivering =>
    refine advances_of_kept inOrder identity ⟨rfl, rfl⟩ (fun _ => ⟨?_, ?_⟩) ?_
    · simp [Reporter.isGone, delivering]
    · simp [Reporter.held, Reporter.inHand, delivering, ReporterEffect.accepted?]
    · rintro _ ⟨⟩
      exact ⟨delivery, delivering, rfl⟩
  | @again delivery delivering =>
    have carried := inOrder.carried delivery delivering
    refine ⟨inOrder_of_kept inOrder identity rfl (fun _ => ⟨?_, ?_⟩) ?_, fun text sent => ?_, nofun⟩
    · simp [Reporter.isGone, delivering]
    · simp [Reporter.held, Reporter.inHand, delivering, ReporterEffect.accepted?]
    · rintro _ ⟨⟩
      exact ⟨delivery, delivering, rfl⟩
    · cases sent
      exact carries_of_same carried identity (released_of_unflushed rfl)

end ReporterTrace

end FleetTraffic
