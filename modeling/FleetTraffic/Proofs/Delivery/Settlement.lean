import FleetTraffic.Proofs.Delivery.Tally

/-!
# How batches are settled

A batch whose delivery has begun is settled exactly once. It is delivered, or it is given up, or the reporter
is abandoned while the batch is in delivery and counts it as failed.

The first call to stop a reporter returns when the flusher and the sender of heartbeats have ended, or
abandons them when that takes too long. When it has returned, every batch is settled, and no event changes
anything that the reporter counts. Nothing is said here about how long anything takes: an answer may come at
any time or never, and the reporter may be abandoned at any moment while the call waits.
-/

namespace FleetTraffic

/-! ## Calling for a stop -/

/-- How far the first call to stop a reporter has come. -/
inductive StopCall where
  /-- There was none. -/
  | uncalled
  /-- It waits for the flusher and the sender of heartbeats to end. -/
  | waiting
  /-- It has returned. If that took too long, a batch may have been cut off in its delivery. -/
  | returned (cut? : Option Delivery)
  deriving DecidableEq

namespace StopCall

/-- The call after an event that abandons nothing. It returns when nothing runs any more. -/
def after (call : StopCall) (event : ReporterEvent) (running : Bool) : StopCall :=
  match call, event with
  | .uncalled, .stop | .waiting, _ => if running then .waiting else .returned none
  | _, _ => call

/-- The batch that was cut off. -/
def cut? : StopCall → Option Delivery
  | .returned cut? => cut?
  | _ => none

/-- Whether the call has returned. -/
def isReturned : StopCall → Bool
  | .returned _ => true
  | _ => false

/-- Only a call that has returned has cut a batch off. -/
theorem cut?_of_unreturned {call : StopCall} (unreturned : call.isReturned = false) : call.cut? = none := by
  cases call with
  | returned => cases unreturned
  | uncalled | waiting => rfl

/-- A call that has returned was made. -/
theorem called_of_returned {call : StopCall} (returned : call.isReturned = true) : call ≠ .uncalled := by
  rintro rfl
  cases returned

/-- A call that has returned does so once. -/
theorem after_of_returned {call : StopCall} (returned : call.isReturned = true) (event : ReporterEvent)
    (running : Bool) : call.after event running = call := by
  cases call with
  | returned => cases event <;> rfl
  | uncalled | waiting => cases returned

/-- Before it returns, a call is not made yet, or it waits as long as anything runs. -/
theorem after_of_unreturned (call : StopCall) (event : ReporterEvent) (running : Bool)
    (unreturned : call.isReturned = false) :
    call = .uncalled ∧ call.after event running = .uncalled ∨
      (call ≠ .uncalled ∨ event = .stop) ∧
        call.after event running = if running then .waiting else .returned none := by
  cases call with
  | uncalled =>
    cases event with
    | stop => exact .inr ⟨.inr rfl, rfl⟩
    | _ => exact .inl ⟨rfl, rfl⟩
  | waiting => exact .inr ⟨.inl nofun, rfl⟩
  | returned => cases unreturned

end StopCall

/-- A run of a reporter: what has happened so far, and how far the first call to stop it has come. -/
structure ReporterRun where
  trace : ReporterTrace
  call : StopCall := .uncalled

namespace ReporterRun

/-- The run of a reporter to which nothing has happened yet. -/
def fresh (settings : ReporterSettings) (identity : AgentIdentity) : ReporterRun where
  trace := .fresh settings identity

/-- The run after an event. Only a call to stop the reporter abandons it, and returns. -/
def after (run : ReporterRun) (now : Instant) (event : ReporterEvent) : ReporterRun :=
  match event, run.call with
  | .abandon, .waiting =>
    { trace := run.trace.after now .abandon, call := .returned run.trace.reporter.delivery? }
  | .abandon, _ => run
  | event, call =>
    let trace := run.trace.after now event
    { trace, call := call.after event trace.reporter.isRunning }

/-- The run after some events, each with its time. -/
def afterAll (run : ReporterRun) (events : List (Instant × ReporterEvent)) : ReporterRun :=
  events.foldl (fun run event => run.after event.1 event.2) run

/-- The numbers that the reporter keeps. -/
def stats (run : ReporterRun) : DeliveryStats := run.trace.reporter.stats

/-- Whether the latest batch waits for its next attempt, or was cut off while it did. -/
def isPausing (run : ReporterRun) : Bool := (run.trace.reporter.delivery?.or run.call.cut?).any (·.pausing)

/-- An event that abandons nothing happens to the reporter, and the call looks at what still runs. -/
theorem after_of_ne (run : ReporterRun) (now : Instant) {event : ReporterEvent} (kept : event ≠ .abandon) :
    run.after now event =
      { trace := run.trace.after now event
        call := run.call.after event (run.trace.after now event).reporter.isRunning } := by
  cases event with
  | abandon => exact absurd rfl kept
  | _ => rfl

/-- As long as no call waits, nothing is abandoned. -/
theorem after_abandon_of_ne {run : ReporterRun} (now : Instant) (unwaiting : run.call ≠ .waiting) :
    run.after now .abandon = run := by
  cases call : run.call with
  | waiting => exact absurd call unwaiting
  | uncalled | returned => simp only [after, call]

/-! ## What every event keeps -/

section Branches

variable {reporter next : Reporter} {now : Instant} {event : ReporterEvent} {effects : List ReporterEffect}

/-- The flusher of a stopped reporter was started, or never will be. -/
theorem started_of_move (move : reporter.Move now event next effects)
    (started : reporter.stopped = true → reporter.flusher ≠ .unstarted) :
    next.stopped = true → next.flusher ≠ .unstarted := by
  cases move with
  | same | beat | refuse | turnAway | accept => exact started
  | tell other => exact fun _ => other
  | _ => exact fun _ => nofun

/-- Nothing that happens to a stopped reporter without a flusher counts for anything, unless it is abandoned
again. -/
theorem rests_of_move (move : reporter.Move now event next effects) (told : reporter.stopped = true)
    (gone : reporter.isGone = true) (kept : event ≠ .abandon) :
    next.stats = reporter.stats ∧ next.isGone = true ∧
      ∀ attempts, effects.foldl ReporterEffect.tally attempts = attempts := by
  cases move with
  | beat _ _ heartbeats sends =>
    rcases sends with rfl | ⟨heartbeat, rfl⟩ <;> exact ⟨rfl, gone, fun _ => rfl⟩
  | same | refuse | tell => exact ⟨rfl, gone, fun _ => rfl⟩
  | turnAway _ taking | accept _ taking => exact absurd (told.symm.trans taking) nofun
  | abandon => exact absurd rfl kept
  | start state | withdraw state | take state | finish state | begin _ state | deliver state | giveUp _ state
  | pause _ state | again state | lose state => simp [Reporter.isGone, state] at gone

/-- What the sender of heartbeats does changes nothing else. -/
theorem beat_of_move (move : reporter.Move now event next effects) (beat : event.isHeartbeat = true) :
    (∃ heartbeats, next = { reporter with heartbeats }) ∧
      ∀ attempts, effects.foldl ReporterEffect.tally attempts = attempts := by
  cases move with
  | same => exact ⟨⟨reporter.heartbeats, rfl⟩, fun _ => rfl⟩
  | beat _ _ heartbeats sends =>
    rcases sends with rfl | ⟨heartbeat, rfl⟩ <;> exact ⟨⟨heartbeats, rfl⟩, fun _ => rfl⟩
  | begin turn => rcases turn with rfl | rfl <;> cases beat
  | _ => cases beat

end Branches

/-- What holds throughout a run. Until the call has returned, the tally is kept. From then on every batch is
settled, and there is no flusher that could begin another. -/
structure Sound (settings : ReporterSettings) (run : ReporterRun) : Prop where
  settings : run.trace.reporter.settings = settings
  started : run.trace.reporter.stopped = true → run.trace.reporter.flusher ≠ .unstarted
  told : run.call ≠ .uncalled → run.trace.reporter.stopped = true
  working : run.call.isReturned = false → run.trace.Tallied
  ended : run.call.isReturned = true →
    run.trace.Settled run.isPausing ∧ run.trace.reporter.isGone = true

variable {settings : ReporterSettings} {run : ReporterRun}

/-- A fresh run is sound. -/
theorem sound_fresh (settings : ReporterSettings) (identity : AgentIdentity) :
    (fresh settings identity).Sound settings where
  settings := rfl
  started := nofun
  told := fun called => absurd rfl called
  working := fun _ => ReporterTrace.tallied_fresh settings identity
  ended := nofun

/-- As long as the call has not returned, what waits for its next attempt is the batch in delivery. -/
theorem isPausing_of_open (unreturned : run.call.cut? = none) : run.isPausing = run.trace.isPausing := by
  rw [isPausing, unreturned, Option.or_none, ReporterTrace.isPausing]

/-- Without a flusher, it is the batch that was cut off. -/
theorem isPausing_of_gone {trace : ReporterTrace} {call : StopCall} (gone : trace.reporter.isGone = true) :
    isPausing ⟨trace, call⟩ = call.cut?.any (·.pausing) := by
  rw [isPausing, Reporter.delivery?_of_isGone gone, Option.none_or]

/-- A reporter that was started and of which nothing runs any more has no flusher. -/
theorem isGone_of_resting {reporter : Reporter} (started : reporter.flusher ≠ .unstarted)
    (resting : reporter.isRunning = false) : reporter.isGone = true := by
  cases state : reporter.flusher with
  | unstarted => exact absurd state started
  | idle | delivering => simp [Reporter.isRunning, state] at resting
  | finished | failed => simp [Reporter.isGone, state]

/-- An abandonment cuts off the batch in delivery, and lets the waiting call return. -/
theorem sound_abandon (sound : run.Sound settings) (now : Instant) :
    (run.after now .abandon).Sound settings := by
  cases call : run.call with
  | uncalled | returned =>
    rw [after_abandon_of_ne now (by simp [call])]
    exact sound
  | waiting =>
    have told := sound.told (by simp [call])
    have tallied := sound.working (by simp [call, StopCall.isReturned])
    have move := run.trace.reporter.move_step now .abandon
    obtain ⟨settled, gone⟩ := ReporterTrace.settled_abandon tallied now told
    have stopped := (Reporter.stopped_of_move move).mpr (.inl told)
    have cut : run.after now .abandon =
        ⟨run.trace.after now .abandon, .returned run.trace.reporter.delivery?⟩ := by
      simp only [after, call]
    rw [cut]
    refine ⟨(Reporter.same_of_move move).1.trans sound.settings, started_of_move move sound.started,
      fun _ => stopped, nofun, fun _ => ⟨?_, gone⟩⟩
    rw [isPausing_of_gone gone]
    exact settled

/-- Before the call returns, every other event keeps the tally, and the call returns only when nothing runs
any more. -/
theorem sound_of_open (sound : run.Sound settings) (now : Instant) {event : ReporterEvent}
    (kept : event ≠ .abandon) (unreturned : run.call.isReturned = false) :
    (run.after now event).Sound settings := by
  have move := run.trace.reporter.move_step now event
  have tallied : (run.trace.after now event).Tallied :=
    ReporterTrace.tallied_of_move (sound.working unreturned) move kept
  have started := started_of_move move sound.started
  have stopped := Reporter.stopped_of_move move
  have same := (Reporter.same_of_move move).1.trans sound.settings
  rw [after_of_ne run now kept]
  rcases run.call.after_of_unreturned event (run.trace.after now event).reporter.isRunning unreturned with
    ⟨_, uncalled⟩ | ⟨called, waited⟩
  · rw [uncalled]
    exact ⟨same, started, fun told => absurd rfl told, fun _ => tallied, nofun⟩
  · have told := stopped.mpr (called.imp_left sound.told)
    rw [waited]
    refine ⟨same, started, fun _ => told, fun _ => tallied, ?_⟩
    split
    next => exact nofun
    next resting =>
      intro _
      rw [isPausing_of_open rfl]
      exact ⟨tallied.toSettled, isGone_of_resting (started told) (Bool.not_eq_true _ ▸ resting)⟩

/-- After the call has returned, no event changes anything that is counted or was sent. -/
theorem rests_of_returned (sound : run.Sound settings) (now : Instant) (event : ReporterEvent)
    (returned : run.call.isReturned = true) :
    (run.after now event).call = run.call ∧ (run.after now event).stats = run.stats ∧
      (run.after now event).Sound settings := by
  by_cases abandons : event = .abandon
  · subst abandons
    have unwaiting : run.call ≠ .waiting := fun waiting => by simp [waiting, StopCall.isReturned] at returned
    rw [after_abandon_of_ne now unwaiting]
    exact ⟨rfl, rfl, sound⟩
  · obtain ⟨settled, gone⟩ := sound.ended returned
    have told := sound.told (StopCall.called_of_returned returned)
    have move := run.trace.reporter.move_step now event
    obtain ⟨stats, still, quiet⟩ := rests_of_move move told gone abandons
    have stopped := (Reporter.stopped_of_move move).mpr (.inl told)
    have same := (Reporter.same_of_move move).1
    have balanced := settled.balanced
    rw [Reporter.delivery?_of_isGone gone, ← Reporter.delivery?_of_isGone still, ← stats] at balanced
    rw [after_of_ne run now abandons, StopCall.after_of_returned returned]
    refine ⟨rfl, stats, same.trans sound.settings, started_of_move move sound.started, fun _ => stopped,
      fun unreturned => absurd (returned.symm.trans unreturned) nofun, fun _ => ⟨?_, still⟩⟩
    rw [isPausing_of_gone still]
    rw [isPausing_of_gone gone] at settled
    exact ReporterTrace.settled_of_quiet settled same (quiet _) (congrArg DeliveryStats.total stats)
      (congrArg DeliveryStats.retries stats) balanced

/-- Every event keeps a run sound. -/
theorem sound_after (sound : run.Sound settings) (now : Instant) (event : ReporterEvent) :
    (run.after now event).Sound settings := by
  by_cases returned : run.call.isReturned = true
  · exact (rests_of_returned sound now event returned).2.2
  · rw [Bool.not_eq_true] at returned
    by_cases abandons : event = .abandon
    · exact abandons ▸ sound_abandon sound now
    · exact sound_of_open sound now abandons returned

/-- So do any events. -/
theorem sound_afterAll (sound : run.Sound settings) (events : List (Instant × ReporterEvent)) :
    (run.afterAll events).Sound settings := by
  induction events generalizing run with
  | nil => exact sound
  | cons event rest induction => exact induction (sound_after sound event.1 event.2)

/-- After the call has returned, no events change what the reporter counts. -/
theorem stats_afterAll_of_returned (sound : run.Sound settings) (returned : run.call.isReturned = true)
    (later : List (Instant × ReporterEvent)) : (run.afterAll later).stats = run.stats := by
  induction later generalizing run with
  | nil => rfl
  | cons event rest induction =>
    obtain ⟨call, stats, sound⟩ := rests_of_returned sound event.1 event.2 returned
    rw [← call] at returned
    exact (induction sound returned).trans stats

/-- Heartbeats change neither what the reporter counts nor what it sends for its batches. -/
theorem figures_after_heartbeat (run : ReporterRun) (now : Instant) {event : ReporterEvent}
    (beat : event.isHeartbeat = true) :
    (run.after now event).stats = run.stats ∧
      (run.after now event).trace.attempts = run.trace.attempts ∧
      (run.after now event).trace.reporter.delivery? = run.trace.reporter.delivery? ∧
      (run.after now event).isPausing = run.isPausing := by
  have kept : event ≠ .abandon := by
    rintro rfl
    cases beat
  obtain ⟨⟨heartbeats, next⟩, quiet⟩ := beat_of_move (run.trace.reporter.move_step now event) beat
  have reporter : (run.trace.after now event).reporter = { run.trace.reporter with heartbeats } := next
  have cut : (run.call.after event (run.trace.after now event).reporter.isRunning).cut? = run.call.cut? := by
    cases run.call with
    | uncalled | returned => cases event <;> first | rfl | cases beat
    | waiting =>
      rw [StopCall.after]
      split <;> rfl
  rw [after_of_ne run now kept]
  refine ⟨?_, (ReporterTrace.attempts_extend run.trace _ _).trans (quiet _), ?_, ?_⟩
  · rw [stats, reporter, stats]
  · rw [reporter, Reporter.delivery?, Reporter.delivery?]
  · rw [isPausing, cut, reporter, isPausing, Reporter.delivery?, Reporter.delivery?]

/-- Every batch is settled exactly once. At every moment of a run, a reporter counts each batch that it has
begun, and each but the one in delivery as either delivered or given up. It counts the attempts that were made
beyond the first one of each batch, and one that the latest batch waits for or was cut off before, and no more
of them than the batches may have. Heartbeats change none of this. When the first call to stop the reporter
has returned, every batch is settled, and no events change anything that is counted. -/
theorem batches_settled_once (settings : ReporterSettings) (identity : AgentIdentity)
    (events : List (Instant × ReporterEvent)) :
    let run := (fresh settings identity).afterAll events
    run.trace.reporter.settings = settings ∧
    run.trace.Settled run.isPausing ∧
    (∀ now event, event.isHeartbeat = true →
      (run.after now event).stats = run.stats ∧
      (run.after now event).trace.attempts = run.trace.attempts ∧
      (run.after now event).trace.reporter.delivery? = run.trace.reporter.delivery? ∧
      (run.after now event).isPausing = run.isPausing) ∧
    (run.call.isReturned = true →
      run.stats.total = run.stats.delivered + run.stats.failed ∧
      ∀ later, (run.afterAll later).stats = run.stats) := by
  intro run
  have sound : run.Sound settings := sound_afterAll (sound_fresh settings identity) events
  have settled : run.trace.Settled run.isPausing := by
    by_cases returned : run.call.isReturned = true
    · exact (sound.ended returned).1
    · rw [Bool.not_eq_true] at returned
      rw [isPausing_of_open (StopCall.cut?_of_unreturned returned)]
      exact (sound.working returned).toSettled
  refine ⟨sound.settings, settled, fun now event => figures_after_heartbeat run now, fun returned => ?_⟩
  have balanced := settled.balanced
  rw [Reporter.delivery?_of_isGone (sound.ended returned).2] at balanced
  exact ⟨balanced, stats_afterAll_of_returned sound returned⟩

/-- The only batch waits for its second attempt, and the answer to a heartbeat is awaited, when stopping takes
too long. -/
def cutOff : List (Instant × ReporterEvent) :=
  [.start, .offer {}, .wake, .heartbeatTick, .answered (.error (.transport "refused")), .stop, .abandon].map
    (.epoch, ·)

/-- The batch counts as given up and its second attempt as made, and what comes too late changes nothing. -/
theorem cutOff_settled :
    let run := (fresh { serverUrl := "", batchSize := 1 } ⟨"agent", "host", .epoch⟩).afterAll cutOff
    let late : List (Instant × ReporterEvent) :=
      [.pauseOver, .answered (.ok ()), .heartbeatAnswered, .offer {}, .stop, .abandon].map (.epoch, ·)
    run.call.isReturned = true ∧ run.isPausing = true ∧ run.trace.attempts = [1] ∧
    run.stats.failed = 1 ∧ run.stats.retries = 1 ∧
    run.trace.Settled run.isPausing ∧ (run.after .epoch .heartbeatAnswered).stats = run.stats ∧
    (run.afterAll late).stats = run.stats := by
  intro run late
  have returned : run.call.isReturned = true := by decide +kernel
  have settled :=
    batches_settled_once { serverUrl := "", batchSize := 1 } ⟨"agent", "host", .epoch⟩ cutOff
  exact ⟨returned, by decide +kernel, by decide +kernel, by decide +kernel, by decide +kernel, settled.2.1,
    (settled.2.2.1 .epoch .heartbeatAnswered rfl).1, (settled.2.2.2 returned).2 late⟩

end ReporterRun

end FleetTraffic
