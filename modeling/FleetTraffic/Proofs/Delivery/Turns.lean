import FleetTraffic.Delivery.Timeline
import Mathlib

/-!
# What happens at one time

At any one time the flusher has the first turn, then the sender of heartbeats, then the collectors. What a turn
can do is listed here once, with the conditions under which it comes. A turn of the sender of heartbeats or of a
collector leaves the errand of the flusher alone: the batch in delivery, what is left of the script, the answer
that is waited for, the reports that were sent and what the reporter counts of them.
-/

namespace FleetTraffic

/-- An offered snapshot is queued or counted as dropped, if anything. -/
theorem Reporter.offer_fst (reporter : Reporter) (snapshot : Snapshot) :
    ∃ queue dropped, (queue = reporter.queue ∨ queue = reporter.queue ++ [snapshot]) ∧
      (reporter.offer snapshot).1 = { reporter with queue, stats := { reporter.stats with dropped } } := by
  rw [offer]
  split
  next => exact ⟨reporter.queue, reporter.stats.dropped, .inl rfl, rfl⟩
  next =>
    split
    next => exact ⟨_, reporter.stats.dropped, .inr rfl, rfl⟩
    next => exact ⟨reporter.queue, _, .inl rfl, rfl⟩

/-- The body of a report. -/
def Call.body? : Call → Option String
  | .report body => some body
  | .heartbeat _ => none

namespace Timeline

/-! ## Turns -/

/-- What a turn makes of a timeline. -/
inductive Turn (line : Timeline) (wall : Instant) : Timeline → Prop where
  /-- The flusher looks at the queue, because something is queued or the reporter was stopped. -/
  | wake {pending : List Snapshot} (idle : line.reporter.flusher = .idle pending)
      (call : line.reporter.stopped = true ∨ line.reporter.queue ≠ []) :
      Turn line wall (line.occur wall .wake).2
  /-- The flush timer ticks, and the flusher looks at what it has in hand. -/
  | flushTick {pending : List Snapshot} (idle : line.reporter.flusher = .idle pending)
      (due : line.flushTimer.due ≤ line.clock) :
      Turn line wall
        ({ line with flushTimer := line.flushTimer.tick line.clock }.occur wall .flushTick).2
  /-- A request is sent again after a pause. -/
  | again {delivery : Delivery} (delivering : line.reporter.flusher = .delivering delivery)
      (paused : delivery.pausing = true) (due : line.flusherDue ≤ line.clock) :
      Turn line wall
        { line with
          reporter := { line.reporter with flusher := .delivering { delivery with pausing := false } }
          sends := (nextAttempt line.sends).2
          flusherDue := line.clock + (nextAttempt line.sends).1.delay
          outcome := (nextAttempt line.sends).1.outcome
          calls := (line.clock, .report delivery.body) :: line.calls }
  /-- A batch is delivered. -/
  | deliver {delivery : Delivery} (delivering : line.reporter.flusher = .delivering delivery)
      (sent : delivery.pausing = false) (due : line.flusherDue ≤ line.clock)
      (success : line.outcome = .ok ()) :
      Turn line wall
        { line with
          reporter := { line.reporter with
            flusher := .idle []
            stats := { line.reporter.stats with
              delivered := line.reporter.stats.delivered + 1
              lastDelivery := some wall } } }
  /-- A pause before the next attempt begins. -/
  | pause {delivery : Delivery} {error : DeliveryError}
      (delivering : line.reporter.flusher = .delivering delivery) (sent : delivery.pausing = false)
      (due : line.flusherDue ≤ line.clock) (failure : line.outcome = .error error)
      (retryable : error.isRetryable = true)
      (left : delivery.retries < line.reporter.settings.retryCount.toNat) :
      Turn line wall
        { line with
          reporter := { line.reporter with
            flusher := .delivering { delivery with retries := delivery.retries + 1, pausing := true }
            stats := { line.reporter.stats with retries := line.reporter.stats.retries + 1 } }
          flusherDue := line.clock + line.reporter.settings.retryDelay.toNat }
  /-- A batch is given up. -/
  | giveUp {delivery : Delivery} {error : DeliveryError}
      (delivering : line.reporter.flusher = .delivering delivery) (sent : delivery.pausing = false)
      (due : line.flusherDue ≤ line.clock) (failure : line.outcome = .error error)
      (spent : error.isRetryable = true →
        line.reporter.settings.retryCount.toNat ≤ delivery.retries) :
      Turn line wall
        { line with
          reporter := { line.reporter with
            flusher := .idle []
            stats := { line.reporter.stats with
              failed := line.reporter.stats.failed + 1
              lastError := some error.message } } }
  /-- The sender of heartbeats of a stopped reporter ends. -/
  | retire (idle : line.reporter.heartbeats = .idle) :
      Turn line wall { line with reporter := { line.reporter with heartbeats := .finished } }
  /-- A heartbeat is sent. -/
  | beat (idle : line.reporter.heartbeats = .idle) (due : line.heartbeatTimer.due ≤ line.clock) :
      Turn line wall
        { line with
          reporter := { line.reporter with heartbeats := .sending }
          heartbeatTimer := line.heartbeatTimer.tick line.clock
          heartbeats := (nextAttempt line.heartbeats).2
          heartbeatDue := line.clock + (nextAttempt line.heartbeats).1.delay
          calls := (line.clock, .heartbeat (Reporter.heartbeatOf line.reporter.identity wall)) ::
            line.calls }
  /-- A heartbeat is answered. -/
  | answer (sending : line.reporter.heartbeats = .sending) :
      Turn line wall { line with reporter := { line.reporter with heartbeats := .idle } }
  /-- A collector takes what its source gives. If it offers a snapshot, that is queued or dropped. -/
  | poll {place : Nat} {collector : Collector} (here : line.collectors[place]? = some collector)
      (running : collector.finished = false) (due : collector.timer.due ≤ line.clock)
      {queue : List Snapshot}
      (offers : queue = line.reporter.queue ∨ ∃ snapshot rest,
        collector.source = some snapshot :: rest ∧ queue = line.reporter.queue ++ [snapshot])
      (dropped : Nat) (finished : Bool) :
      Turn line wall
        { line with
          reporter := { line.reporter with queue, stats := { line.reporter.stats with dropped } }
          collectors := line.collectors.set place
            { collector with
              timer := collector.timer.tick line.clock
              source := collector.source.tail
              finished } }

variable {line next : Timeline} {wall : Instant}

/-- An offered snapshot has no effect on the timeline but on the reporter. -/
theorem occur_offer (line : Timeline) (wall : Instant) (snapshot : Snapshot) :
    (line.occur wall (.offer snapshot)).2 =
      { line with reporter := (line.reporter.offer snapshot).1 } := by
  simp only [occur, Reporter.step, Reporter.offer]
  split
  next => rfl
  next => split <;> rfl

/-- What the flusher does when an answer has come is a turn. -/
theorem turn_of_answered {delivery : Delivery}
    (delivering : line.reporter.flusher = .delivering delivery) (sent : delivery.pausing = false)
    (due : line.flusherDue ≤ line.clock) :
    line.Turn wall (line.occur wall (.answered line.outcome)).2 := by
  cases outcome : line.outcome with
  | ok =>
    simp only [occur, Reporter.step, Reporter.answered, delivering, sent]
    exact .deliver delivering sent due outcome
  | error error =>
    by_cases again : error.isRetryable = true ∧
        delivery.retries < line.reporter.settings.retryCount.toNat
    · simp only [occur, Reporter.step, Reporter.answered, delivering, sent, again.1, again.2]
      exact .pause delivering sent due outcome again.1 again.2
    · have final : (error.isRetryable &&
          decide (delivery.retries < line.reporter.settings.retryCount.toNat)) = false := by
        simpa using again
      simp only [occur, Reporter.step, Reporter.answered, delivering, sent, final]
      exact .giveUp delivering sent due outcome fun retryable =>
        Nat.le_of_not_lt fun left => again ⟨retryable, left⟩

/-- What the flusher does is a turn. -/
theorem turn_of_flusherStep (step : line.flusherStep? wall = some next) : line.Turn wall next := by
  simp only [flusherStep?] at step
  split at step
  next idle =>
    split at step
    next call =>
      cases step
      exact .wake idle (by simpa using call)
    next =>
      split at step
      next due =>
        cases step
        exact .flushTick idle due
      next => cases step
  next delivery delivering =>
    split at step
    next => cases step
    next come =>
      have due := Nat.le_of_not_lt come
      split at step
      next paused =>
        cases step
        simp only [occur, Reporter.step, Reporter.pauseOver, delivering, paused]
        exact .again delivering paused due
      next sent =>
        cases step
        exact turn_of_answered delivering (Bool.not_eq_true _ ▸ sent) due
  next => cases step

/-- What the sender of heartbeats does is a turn. -/
theorem turn_of_heartbeatStep (step : line.heartbeatStep? wall = some next) : line.Turn wall next := by
  unfold heartbeatStep? at step
  split at step
  next idle =>
    split at step
    next stopped =>
      have retired : line.reporter.heartbeatTick wall =
          ({ line.reporter with heartbeats := .finished }, []) := by
        rw [Reporter.heartbeatTick, idle]
        exact if_pos stopped
      cases step
      rw [occur, Reporter.step, retired]
      exact .retire idle
    next taking =>
      split at step
      next due =>
        have sent : line.reporter.heartbeatTick wall =
            ({ line.reporter with heartbeats := .sending },
              [.sendHeartbeat (Reporter.heartbeatOf line.reporter.identity wall)]) := by
          rw [Reporter.heartbeatTick, idle]
          exact if_neg taking
        cases step
        rw [occur, Reporter.step, sent]
        exact .beat idle due
      next => cases step
  next sending =>
    split at step
    next =>
      cases step
      rw [occur, Reporter.step, Reporter.heartbeatAnswered, sending]
      exact .answer sending
    next => cases step
  next => cases step

/-- What a collector does is a turn. -/
theorem turn_of_collectorStep (step : line.collectorStep? wall = some next) : line.Turn wall next := by
  unfold collectorStep? at step
  simp only [Option.bind_eq_bind, Option.bind_eq_some_iff] at step
  obtain ⟨place, found, collector, here, step⟩ := step
  obtain ⟨inside, isDue, _⟩ := List.findIdx?_eq_some_iff_getElem.mp found
  rw [List.getElem?_eq_getElem inside, Option.some.injEq] at here
  rw [here, Bool.and_eq_true, Bool.not_eq_true', decide_eq_true_eq] at isDue
  obtain ⟨running, due⟩ := isDue
  have here' : line.collectors[place]? = some collector := by
    rw [List.getElem?_eq_getElem inside, here]
  split at step
  next snapshot rest source =>
    obtain ⟨queue, dropped, queued, offered⟩ := line.reporter.offer_fst snapshot
    cases step
    rw [occur_offer, offered]
    exact .poll here' running due (queued.imp_right fun added => ⟨snapshot, rest, source, added⟩) dropped _
  next =>
    cases step
    exact .poll here' running due (.inl rfl) line.reporter.stats.dropped _

/-- What is due is a turn. -/
theorem turn_of_dueStep (step : line.dueStep? wall = some next) : line.Turn wall next := by
  rw [dueStep?, Option.or_eq_some_iff] at step
  rcases step with flusher | ⟨_, step⟩
  · exact turn_of_flusherStep flusher
  · rcases Option.or_eq_some_iff.mp step with heartbeat | ⟨_, collector⟩
    · exact turn_of_heartbeatStep heartbeat
    · exact turn_of_collectorStep collector

/-- Effects are noted without a change of the reporter, the clock, the collectors or the timers. -/
theorem foldl_note_fixed (effects : List ReporterEffect) (line : Timeline) :
    (effects.foldl note line).reporter = line.reporter ∧ (effects.foldl note line).clock = line.clock ∧
      (effects.foldl note line).collectors = line.collectors ∧
      (effects.foldl note line).heartbeatTimer = line.heartbeatTimer ∧
      (effects.foldl note line).flushTimer = line.flushTimer := by
  induction effects generalizing line with
  | nil => exact ⟨rfl, rfl, rfl, rfl, rfl⟩
  | cons effect rest inductionHypothesis =>
    obtain ⟨reporter, clock, collectors, heartbeatTimer, flushTimer⟩ :=
      inductionHypothesis (line.note effect)
    rw [List.foldl_cons, reporter, clock, collectors, heartbeatTimer, flushTimer]
    cases effect <;> exact ⟨rfl, rfl, rfl, rfl, rfl⟩

/-- An event changes the reporter, and neither the clock nor the collectors nor the timers. -/
theorem occur_fixed (line : Timeline) (wall : Instant) (event : ReporterEvent) :
    (line.occur wall event).2.reporter = (line.reporter.step wall event).1 ∧
      (line.occur wall event).2.clock = line.clock ∧
      (line.occur wall event).2.collectors = line.collectors ∧
      (line.occur wall event).2.heartbeatTimer = line.heartbeatTimer ∧
      (line.occur wall event).2.flushTimer = line.flushTimer :=
  foldl_note_fixed _ _

/-- No turn moves the clock. -/
theorem clock_of_turn (turn : line.Turn wall next) : next.clock = line.clock := by
  cases turn with
  | wake | flushTick => exact (occur_fixed _ wall _).2.1
  | _ => rfl

/-! ## The errand of the flusher -/

/-- The reports so far with their times, the latest first. -/
def reports (line : Timeline) : List (Nat × String) :=
  line.calls.filterMap fun call => call.2.body?.map (call.1, ·)

/-- What the flusher is about: what it does and by which settings, what it counts, what is left of the script,
when its attempt or pause ends and how, and the reports that were sent. -/
@[ext]
structure Errand where
  settings : ReporterSettings
  flusher : Flusher
  /-- The numbers that a delivery can change. What is dropped is not among them. -/
  stats : DeliveryStats
  sends : List Attempt
  due : Nat
  outcome : Except DeliveryError Unit
  reports : List (Nat × String)

/-- The errand of the flusher of a timeline. -/
def errand (line : Timeline) : Errand where
  settings := line.reporter.settings
  flusher := line.reporter.flusher
  stats := { line.reporter.stats with dropped := 0 }
  sends := line.sends
  due := line.flusherDue
  outcome := line.outcome
  reports := line.reports

/-- Whether the flusher delivers a batch. -/
def isDelivering (line : Timeline) : Bool :=
  match line.reporter.flusher with
  | .delivering _ => true
  | _ => false

/-- A flusher that delivers has a batch in delivery. -/
theorem exists_delivery (delivering : line.isDelivering = true) :
    ∃ delivery, line.reporter.flusher = .delivering delivery := by
  unfold isDelivering at delivering
  split at delivering
  next delivery state => exact ⟨delivery, state⟩
  next => cases delivering

end Timeline

end FleetTraffic
