import FleetTraffic.Proofs.Delivery.Trace

/-!
# What a step of a reporter can do

The branches that a step of a reporter can take are listed here once, each with the conditions under which
it is taken, the reporter after it and what it does to the outside. What every step preserves is then shown
branch by branch, without another look at the steps themselves.
-/

namespace FleetTraffic

/-- Whether an event is about heartbeats: one is due, one is answered, or no more are sent. -/
def ReporterEvent.isHeartbeat : ReporterEvent → Bool
  | .heartbeatTick | .heartbeatAnswered | .heartbeatsFail => true
  | _ => false

/-- Whether heartbeats are sent, now or at the next tick. -/
def HeartbeatSender.isBeating : HeartbeatSender → Bool
  | .idle | .sending => true
  | .unstarted | .finished => false

/-- Whether the flusher takes turns: it waits for snapshots or delivers some. -/
def Flusher.isWorking : Flusher → Bool
  | .idle _ | .delivering _ => true
  | .unstarted | .finished | .failed => false

namespace Reporter

/-- A branch of a step: what an event makes of the reporter, and what the reporter does to the outside. -/
inductive Move (reporter : Reporter) (now : Instant) :
    ReporterEvent → Reporter → List ReporterEffect → Prop where
  /-- Nothing happens. A flusher that waits for snapshots does something whenever it looks at the queue. -/
  | same {event : ReporterEvent} (other : event ≠ .stop)
      (busy : event = .wake → ∀ pending, reporter.flusher ≠ .idle pending) :
      Move reporter now event reporter []
  /-- A heartbeat is sent, the next one is waited for, or no more are sent. -/
  | beat {event : ReporterEvent} (timed : event.isHeartbeat = true)
      (working : reporter.heartbeats.isBeating = true) (heartbeats : HeartbeatSender)
      {effects : List ReporterEffect}
      (sends : effects = [] ∨ ∃ heartbeat, effects = [.sendHeartbeat heartbeat]) :
      Move reporter now event { reporter with heartbeats } effects
  /-- A snapshot is refused because nobody will take it out of the queue again. -/
  | refuse (snapshot : Snapshot) (closed : reporter.stopped = true ∨ reporter.flusher = .failed) :
      Move reporter now (.offer snapshot) reporter [.refused .stopped]
  /-- A snapshot is turned away because the queue is full. -/
  | turnAway (snapshot : Snapshot) (taking : reporter.stopped = false)
      (full : reporter.capacity ≤ reporter.queue.length) :
      Move reporter now (.offer snapshot)
        { reporter with stats := { reporter.stats with dropped := reporter.stats.dropped + 1 } }
        [.refused .queueFull]
  /-- A snapshot is queued. -/
  | accept (snapshot : Snapshot) (taking : reporter.stopped = false)
      (room : reporter.queue.length < reporter.capacity) :
      Move reporter now (.offer snapshot) { reporter with queue := reporter.queue ++ [snapshot] }
        [.accepted snapshot]
  /-- The flusher and the sender of heartbeats are started. -/
  | start (unstarted : reporter.flusher = .unstarted) :
      Move reporter now .start { reporter with flusher := .idle [], heartbeats := .idle } []
  /-- A reporter that was started is told to stop. -/
  | tell (started : reporter.flusher ≠ .unstarted) :
      Move reporter now .stop { reporter with stopped := true } []
  /-- A reporter is stopped before it was started, and discards what is queued. -/
  | withdraw (unstarted : reporter.flusher = .unstarted) :
      Move reporter now .stop
        { reporter with
          stopped := true
          flusher := .finished
          heartbeats := .finished
          queue := []
          stats := { reporter.stats with dropped := reporter.stats.dropped + reporter.queue.length } }
        [.discarded reporter.queue]
  /-- A stopped reporter is abandoned. Batches that are not settled count as failed, and what is queued is
  discarded. -/
  | abandon (lastError : Option String) (told : reporter.stopped = true) :
      Move reporter now .abandon
        { reporter with
          flusher := .finished
          heartbeats := .finished
          queue := []
          stats := { reporter.stats with
            failed := reporter.stats.failed +
              (reporter.stats.total - (reporter.stats.delivered + reporter.stats.failed))
            dropped := reporter.stats.dropped + reporter.queue.length
            lastError } }
        [.discarded reporter.queue]
  /-- The flusher takes all that is queued in hand, and it does not fill a batch. -/
  | take {pending : List Snapshot} (idle : reporter.flusher = .idle pending)
      (taking : reporter.stopped = false) (short : (pending ++ reporter.queue).length < reporter.batchLimit) :
      Move reporter now .wake
        { reporter with queue := [], flusher := .idle (pending ++ reporter.queue) } []
  /-- The flusher of a stopped reporter ends when nothing is left. -/
  | finish (idle : reporter.flusher = .idle []) (told : reporter.stopped = true)
      (empty : reporter.queue = []) :
      Move reporter now .wake { reporter with queue := [], flusher := .finished } []
  /-- The delivery of a batch begins: of a full one, or of all that the flusher has in hand and perhaps
  more. -/
  | begin {event : ReporterEvent} {pending batch rest : List Snapshot} {request : ReportRequest}
      (turn : event = .wake ∨ event = .flushTick) (idle : reporter.flusher = .idle pending)
      (nonempty : batch ≠ []) (split : pending ++ reporter.queue = batch ++ rest)
      (full : batch.length = reporter.batchLimit ∨ pending.length ≤ batch.length)
      (fits : batch = pending ∨ batch.length ≤ reporter.batchLimit)
      (made : request? reporter.settings reporter.identity now batch = some request) :
      Move reporter now event
        { reporter with
          queue := rest
          flusher := .delivering { batch, body := bodyOf request, retries := 0, pausing := false }
          stats := { reporter.stats with
            total := reporter.stats.total + 1
            batchSize := batch.length } }
        [.flushed batch, .send (bodyOf request)]
  /-- A batch is delivered. -/
  | deliver {delivery : Delivery} (delivering : reporter.flusher = .delivering delivery)
      (sent : delivery.pausing = false) :
      Move reporter now (.answered (.ok ()))
        { reporter with
          flusher := .idle []
          stats := { reporter.stats with
            delivered := reporter.stats.delivered + 1
            lastDelivery := some now } } []
  /-- A batch is given up. -/
  | giveUp {delivery : Delivery} (error : DeliveryError)
      (delivering : reporter.flusher = .delivering delivery) (sent : delivery.pausing = false) :
      Move reporter now (.answered (.error error))
        { reporter with
          flusher := .idle []
          stats := { reporter.stats with
            failed := reporter.stats.failed + 1
            lastError := some error.message } } []
  /-- The next attempt is waited for. -/
  | pause {delivery : Delivery} (error : DeliveryError)
      (delivering : reporter.flusher = .delivering delivery) (sent : delivery.pausing = false)
      (left : delivery.retries < reporter.settings.retryCount.toNat) :
      Move reporter now (.answered (.error error))
        { reporter with
          flusher := .delivering { delivery with retries := delivery.retries + 1, pausing := true }
          stats := { reporter.stats with retries := reporter.stats.retries + 1 } } [.pause]
  /-- The request is sent again. -/
  | again {delivery : Delivery} (delivering : reporter.flusher = .delivering delivery)
      (paused : delivery.pausing = true) :
      Move reporter now .pauseOver
        { reporter with flusher := .delivering { delivery with pausing := false } } [.send delivery.body]
  /-- The flusher fails with what it has in hand, and what is queued is lost. -/
  | lose {pending : List Snapshot} (idle : reporter.flusher = .idle pending) :
      Move reporter now .flusherFails { reporter with flusher := .failed, queue := [] }
        [.lost (pending ++ reporter.queue)]

section Steps

variable (reporter : Reporter) (now : Instant)

variable {reporter} in
/-- A flusher that has waited for some snapshots begins to deliver the first of them. -/
theorem move_begin {event : ReporterEvent} {pending batch rest : List Snapshot}
    (turn : event = .wake ∨ event = .flushTick) (idle : reporter.flusher = .idle pending)
    (nonempty : batch ≠ []) (split : pending ++ reporter.queue = batch ++ rest)
    (full : batch.length = reporter.batchLimit ∨ pending.length ≤ batch.length)
    (fits : batch = pending ∨ batch.length ≤ reporter.batchLimit) :
    let begun := beginDelivery { reporter with queue := rest } now batch
    reporter.Move now event begun.1 begun.2 := by
  obtain ⟨request, made, begun⟩ := beginDelivery_of_ne_nil { reporter with queue := rest } now nonempty
  rw [begun]
  exact .begin turn idle nonempty split full fits made

/-- An offered snapshot is refused, turned away or queued. -/
theorem move_offer (snapshot : Snapshot) :
    reporter.Move now (.offer snapshot) (reporter.offer snapshot).1 (reporter.offer snapshot).2 := by
  unfold offer
  split
  next closed => exact .refuse snapshot (by simpa using closed)
  next taking =>
    simp only [Bool.or_eq_true, not_or, Bool.not_eq_true, decide_eq_true_eq] at taking
    split
    next room => exact .accept snapshot taking.1 room
    next full => exact .turnAway snapshot taking.1 (Nat.le_of_not_lt full)

/-- A flusher that looks at the queue begins to deliver a full batch; it takes in hand what is less, or
delivers that too and ends when the reporter was stopped. -/
theorem move_wake : reporter.Move now .wake (reporter.wake now).1 (reporter.wake now).2 := by
  unfold wake
  split
  next pending idle =>
    simp only
    split
    next full =>
      refine move_begin now (.inl rfl) idle (fun empty => ?_) (List.take_append_drop _ _).symm (.inl full)
        (.inr (Nat.le_of_eq full))
      rw [empty] at full
      exact absurd full (Nat.ne_of_lt reporter.batchLimit_pos)
    next unfilled =>
      have short : (pending ++ reporter.queue).length < reporter.batchLimit := by
        rw [List.length_take] at unfilled
        omega
      rw [List.take_of_length_le (Nat.le_of_lt short), List.drop_of_length_le (Nat.le_of_lt short)]
      split
      next told =>
        split
        next empty =>
          obtain ⟨rfl, nothing⟩ := List.append_eq_nil_iff.mp empty
          exact .finish idle told nothing
        next nonempty =>
          refine move_begin now (.inl rfl) idle nonempty (List.append_nil _).symm (.inr ?_)
            (.inr (Nat.le_of_lt short))
          rw [List.length_append]
          omega
      next taking => exact .take idle (by simpa using taking) short
  next busy => exact .same nofun fun _ => busy

/-- A flusher whose timer ticks begins to deliver what it has in hand. -/
theorem move_flushTick :
    reporter.Move now .flushTick (reporter.flushTick now).1 (reporter.flushTick now).2 := by
  unfold flushTick
  split
  next pending idle =>
    split
    next => exact .same nofun nofun
    next nonempty =>
      exact move_begin now (.inr rfl) idle nonempty rfl (.inr (Nat.le_refl _)) (.inl rfl)
  next => exact .same nofun nofun

/-- After an answer a batch is delivered, given up or tried again later. -/
theorem move_answered (outcome : Except DeliveryError Unit) :
    reporter.Move now (.answered outcome) (reporter.answered now outcome).1
      (reporter.answered now outcome).2 := by
  unfold answered
  split
  next delivery delivering =>
    split
    next => exact .same nofun nofun
    next sent =>
      rw [Bool.not_eq_true] at sent
      cases outcome with
      | ok => exact .deliver delivering sent
      | error error =>
        simp only
        split
        next again =>
          simp only [Bool.and_eq_true, decide_eq_true_eq] at again
          exact .pause error delivering sent again.2
        next => exact .giveUp error delivering sent
  next => exact .same nofun nofun

/-- Every step takes one of the branches. -/
theorem move_step (event : ReporterEvent) :
    reporter.Move now event (reporter.step now event).1 (reporter.step now event).2 := by
  cases event with
  | offer snapshot => exact move_offer reporter now snapshot
  | start =>
    simp only [step, start]
    split
    next unstarted => exact .start unstarted
    next => exact .same nofun nofun
  | stop =>
    simp only [step, stop]
    split
    next unstarted => exact .withdraw unstarted
    next started => exact .tell started
  | wake => exact move_wake reporter now
  | flushTick => exact move_flushTick reporter now
  | answered outcome => exact move_answered reporter now outcome
  | pauseOver =>
    simp only [step, pauseOver]
    split
    next delivery delivering =>
      split
      next paused => exact .again delivering paused
      next => exact .same nofun nofun
    next => exact .same nofun nofun
  | heartbeatTick =>
    simp only [step, heartbeatTick]
    split
    next idle =>
      have working : reporter.heartbeats.isBeating = true := by rw [idle, HeartbeatSender.isBeating]
      split
      next => exact .beat rfl working .finished (.inl rfl)
      next => exact .beat rfl working .sending (.inr ⟨_, rfl⟩)
    next => exact .same nofun nofun
  | heartbeatAnswered =>
    simp only [step, heartbeatAnswered]
    split
    next sending =>
      have working : reporter.heartbeats.isBeating = true := by rw [sending, HeartbeatSender.isBeating]
      exact .beat rfl working .idle (.inl rfl)
    next => exact .same nofun nofun
  | abandon =>
    simp only [step, abandon]
    split
    next told => exact .abandon _ told
    next => exact .same nofun nofun
  | flusherFails =>
    simp only [step, flusherFails]
    split
    next pending idle => exact .lose idle
    next => exact .same nofun nofun
  | heartbeatsFail =>
    simp only [step, heartbeatsFail]
    split
    next idle =>
      have working : reporter.heartbeats.isBeating = true := by rw [idle, HeartbeatSender.isBeating]
      exact .beat rfl working .finished (.inl rfl)
    next => exact .same nofun nofun

end Steps

/-! ## What every step preserves -/

section Preserved

variable {reporter next : Reporter} {now : Instant} {event : ReporterEvent} {effects : List ReporterEffect}

/-- No event changes the settings or whom the reporter reports for. -/
theorem same_of_move (move : reporter.Move now event next effects) :
    next.settings = reporter.settings ∧ next.identity = reporter.identity := by
  cases move <;> exact ⟨rfl, rfl⟩

/-- A stopped reporter stays stopped, and no event but a stop stops one. -/
theorem stopped_of_move (move : reporter.Move now event next effects) :
    next.stopped = true ↔ reporter.stopped = true ∨ event = .stop := by
  cases move with
  | tell | withdraw => simp
  | same other => simp [other]
  | beat timed =>
    have other : event ≠ .stop := by
      rintro rfl
      cases timed
    simp [other]
  | begin turn => rcases turn with rfl | rfl <;> simp
  | _ => simp

/-- The flusher of a stopped reporter takes nothing more into its hand. -/
theorem inHand_of_move (move : reporter.Move now event next effects) (told : reporter.stopped = true) :
    next.inHand = reporter.inHand ∨ next.inHand = [] := by
  cases move with
  | same | beat | refuse | turnAway | accept | tell => exact .inl rfl
  | take idle taking short =>
    rw [told] at taking
    cases taking
  | _ => exact .inr rfl

/-- Only a start makes the sender of heartbeats work. -/
theorem beating_of_move (move : reporter.Move now event next effects) (other : event ≠ .start)
    (beating : next.heartbeats.isBeating = true) : reporter.heartbeats.isBeating = true := by
  cases move with
  | beat _ working => exact working
  | start => exact absurd rfl other
  | withdraw | abandon => cases beating
  | _ => exact beating

/-- Only a start makes the flusher take turns. -/
theorem working_of_move (move : reporter.Move now event next effects) (other : event ≠ .start)
    (working : next.flusher.isWorking = true) : reporter.flusher.isWorking = true := by
  cases move with
  | same | beat | refuse | turnAway | accept | tell => exact working
  | start => exact absurd rfl other
  | withdraw | abandon | finish | lose => cases working
  | take state | begin _ state | deliver state | giveUp _ state | pause _ state | again state =>
    rw [state, Flusher.isWorking]

end Preserved

end Reporter

end FleetTraffic
