import FleetTraffic.Proofs.Delivery.Moves

/-!
# Where the snapshots are

Every snapshot that was accepted is in a batch whose delivery has begun, in the flusher's hand, in the queue,
or among those that were discarded when the reporter was stopped, and in just this order. A snapshot that the
flusher has in hand is lost without being counted only if the reporter is abandoned while the flusher waits.
A stopped flusher does not wait, so this takes an abandonment before the flusher had its turn: at the very
time of the stop.
-/

namespace FleetTraffic

namespace ReporterTrace

/-- Every accepted snapshot has its place, and every snapshot that was turned away or discarded is counted. -/
structure Accounted (trace : ReporterTrace) : Prop where
  /-- Accepted snapshots are in the flushed batches, in hand, queued or discarded, in this order. -/
  placed : trace.accepted =
    trace.flushed.flatten ++ trace.reporter.inHand ++ trace.reporter.queue ++ trace.discarded
  /-- Only a stopped reporter without a flusher has discarded something, and it holds nothing more. -/
  closed : trace.discarded ≠ [] →
    trace.reporter.stopped = true ∧ trace.reporter.flusher = .finished ∧ trace.reporter.queue = []
  /-- What was turned away by a full queue and what was discarded is counted, and nothing else. -/
  counted : trace.reporter.stats.dropped = trace.turnedAway + trace.discarded.length
  /-- No batch is empty, and none is greater than a full one. -/
  batches : ∀ batch ∈ trace.flushed, 1 ≤ batch.length ∧ batch.length ≤ trace.reporter.batchLimit
  /-- The queue holds no more than it can. -/
  bounded : trace.reporter.queue.length ≤ trace.reporter.capacity

/-- What a step keeps beside the accounts: an unfinished batch is no greater than a full one, and a flusher
has ended only in a stopped reporter whose queue it has emptied. -/
structure Orderly (trace : ReporterTrace) : Prop extends Accounted trace where
  held : trace.reporter.inHand.length ≤ trace.reporter.batchLimit
  finished : trace.reporter.flusher = .finished →
    trace.reporter.stopped = true ∧ trace.reporter.queue = []

variable {trace : ReporterTrace}

/-- Nothing has been discarded while the flusher has not ended, so the accounts are about the flushed batches,
what is in hand and the queue. -/
theorem orderly_of_working (working : trace.reporter.flusher ≠ .finished)
    (nothing : trace.discarded = [])
    (placed : trace.accepted = trace.flushed.flatten ++ trace.reporter.inHand ++ trace.reporter.queue)
    (counted : trace.reporter.stats.dropped = trace.turnedAway)
    (batches : ∀ batch ∈ trace.flushed, 1 ≤ batch.length ∧ batch.length ≤ trace.reporter.batchLimit)
    (bounded : trace.reporter.queue.length ≤ trace.reporter.capacity)
    (held : trace.reporter.inHand.length ≤ trace.reporter.batchLimit) : trace.Orderly where
  placed := by rw [placed, nothing, List.append_nil]
  closed := fun some => absurd nothing some
  counted := by rw [counted, nothing, List.length_nil, Nat.add_zero]
  batches := batches
  bounded := bounded
  held := held
  finished := fun ended => absurd ended working

/-- Only where the flusher has ended something has been discarded. -/
theorem discarded_eq_nil (orderly : trace.Orderly) (working : trace.reporter.flusher ≠ .finished) :
    trace.discarded = [] := by
  by_contra some
  exact working (orderly.closed some).2.1

/-- While the flusher has not ended, every accepted snapshot is in a flushed batch, in hand or queued. -/
theorem placed_of_working (orderly : trace.Orderly) (working : trace.reporter.flusher ≠ .finished) :
    trace.accepted = trace.flushed.flatten ++ (trace.reporter.inHand ++ trace.reporter.queue) := by
  rw [orderly.placed, discarded_eq_nil orderly working, List.append_nil, List.append_assoc]

/-- While the flusher has not ended, what was turned away by a full queue is all that is counted. -/
theorem counted_of_working (orderly : trace.Orderly) (working : trace.reporter.flusher ≠ .finished) :
    trace.reporter.stats.dropped = trace.turnedAway := by
  rw [orderly.counted, discarded_eq_nil orderly working, List.length_nil, Nat.add_zero]

/-- Nothing has been accepted or discarded before the first event. -/
theorem orderly_fresh (settings : ReporterSettings) (identity : AgentIdentity) :
    (fresh settings identity).Orderly :=
  orderly_of_working nofun rfl rfl rfl (fun _ member => nomatch member) (Nat.zero_le _) (Nat.zero_le _)

/-- Nothing changes in the accounts if the reporter holds the same as before, takes as little as before, and
does nothing to the outside that the accounts are about. -/
theorem orderly_of_same (orderly : trace.Orderly) {reporter : Reporter} {effects : List ReporterEffect}
    (settings : reporter.settings = trace.reporter.settings)
    (queue : reporter.queue = trace.reporter.queue) (inHand : reporter.inHand = trace.reporter.inHand)
    (dropped : reporter.stats.dropped = trace.reporter.stats.dropped)
    (stopped : trace.reporter.stopped = true → reporter.stopped = true)
    (flusher : reporter.flusher = .finished ↔ trace.reporter.flusher = .finished)
    (quiet : effects.filterMap ReporterEffect.accepted? = [] ∧
      effects.filterMap ReporterEffect.flushed? = [] ∧
      effects.flatMap ReporterEffect.discards = [] ∧ effects.countP ReporterEffect.isQueueFull = 0) :
    Orderly ⟨reporter, trace.effects ++ effects⟩ := by
  obtain ⟨accepted, flushed, discarded, turnedAway⟩ := quiet
  have batchLimit : reporter.batchLimit = trace.reporter.batchLimit := by
    rw [Reporter.batchLimit, settings, Reporter.batchLimit]
  have capacity : reporter.capacity = trace.reporter.capacity := by
    rw [Reporter.capacity, settings, Reporter.capacity]
  have ended (before : trace.reporter.stopped = true ∧ trace.reporter.queue = []) :
      reporter.stopped = true ∧ reporter.queue = [] := ⟨stopped before.1, queue.trans before.2⟩
  refine ⟨⟨?_, ?_, ?_, ?_, ?_⟩, ?_, ?_⟩
  · rw [accepted_extend, flushed_extend, discarded_extend, accepted, flushed, discarded, inHand, queue,
      List.append_nil, List.append_nil, List.append_nil]
    exact orderly.placed
  · rw [discarded_extend, discarded, List.append_nil, flusher]
    intro some
    obtain ⟨told, gone, empty⟩ := orderly.closed some
    exact ⟨stopped told, gone, queue.trans empty⟩
  · rw [turnedAway_extend, discarded_extend, turnedAway, discarded, dropped, List.append_nil]
    exact orderly.counted
  · rw [flushed_extend, flushed, batchLimit, List.append_nil]
    exact orderly.batches
  · rw [queue, capacity]
    exact orderly.bounded
  · rw [inHand, batchLimit]
    exact orderly.held
  · rw [flusher]
    exact fun gone => ended (orderly.finished gone)

/-- The flusher of a reporter that was not stopped has not ended. -/
theorem not_finished_of_open (orderly : trace.Orderly) (taking : trace.reporter.stopped = false) :
    trace.reporter.flusher ≠ .finished := by
  intro ended
  have told := (orderly.finished ended).1
  rw [taking] at told
  cases told

/-! ## What is offered -/

/-- A snapshot that is queued is the last of all that were accepted. -/
theorem orderly_accept (orderly : trace.Orderly) (taking : trace.reporter.stopped = false)
    (snapshot : Snapshot) (room : trace.reporter.queue.length < trace.reporter.capacity) :
    Orderly
      ⟨{ trace.reporter with queue := trace.reporter.queue ++ [snapshot] },
        trace.effects ++ [.accepted snapshot]⟩ := by
  have working := not_finished_of_open orderly taking
  refine orderly_of_working working ?_ ?_ ?_ ?_ ?_ orderly.held
  · rw [discarded_extend, discarded_eq_nil orderly working]
    rfl
  · rw [accepted_extend, flushed_extend, placed_of_working orderly working]
    simp [ReporterEffect.accepted?, ReporterEffect.flushed?, Reporter.inHand]
  · rw [turnedAway_extend]
    exact counted_of_working orderly working
  · rw [flushed_extend]
    exact (List.append_nil trace.flushed).symm ▸ orderly.batches
  · rw [List.length_append]
    exact room

/-- A snapshot that is turned away is counted. -/
theorem orderly_turnAway (orderly : trace.Orderly) (taking : trace.reporter.stopped = false) :
    Orderly
      ⟨{ trace.reporter with
          stats := { trace.reporter.stats with dropped := trace.reporter.stats.dropped + 1 } },
        trace.effects ++ [.refused .queueFull]⟩ := by
  have working := not_finished_of_open orderly taking
  refine orderly_of_working working ?_ ?_ ?_ ?_ orderly.bounded orderly.held
  · rw [discarded_extend, discarded_eq_nil orderly working]
    rfl
  · rw [accepted_extend, flushed_extend, placed_of_working orderly working]
    simp [ReporterEffect.accepted?, ReporterEffect.flushed?, List.filterMap_cons, Reporter.inHand]
  · rw [turnedAway_extend]
    exact congrArg (· + 1) (counted_of_working orderly working)
  · rw [flushed_extend]
    exact (List.append_nil trace.flushed).symm ▸ orderly.batches

/-! ## What is flushed -/

/-- What a waiting flusher has in hand is where the accounts expect it, and the flusher has not ended. -/
theorem of_idle {pending : List Snapshot} (idle : trace.reporter.flusher = .idle pending) :
    trace.reporter.inHand = pending ∧ trace.reporter.flusher ≠ .finished :=
  ⟨by rw [Reporter.inHand, idle], by rw [idle]; nofun⟩

/-- A delivery begins with the first snapshots of what waits, in hand and in the queue. -/
theorem orderly_begin (orderly : trace.Orderly) {pending batch rest : List Snapshot} {body : String}
    (idle : trace.reporter.flusher = .idle pending) (nonempty : batch ≠ [])
    (split : pending ++ trace.reporter.queue = batch ++ rest)
    (full : batch.length = trace.reporter.batchLimit ∨ pending.length ≤ batch.length)
    (fits : batch = pending ∨ batch.length ≤ trace.reporter.batchLimit) :
    Orderly
      ⟨{ trace.reporter with
          queue := rest
          flusher := .delivering { batch, body, retries := 0, pausing := false }
          stats := { trace.reporter.stats with
            total := trace.reporter.stats.total + 1
            batchSize := batch.length } },
        trace.effects ++ [.flushed batch, .send body]⟩ := by
  obtain ⟨inHand, working⟩ := of_idle idle
  have placed := placed_of_working orderly working
  rw [inHand, split] at placed
  have held : pending.length ≤ trace.reporter.batchLimit := inHand ▸ orderly.held
  have size : batch.length ≤ trace.reporter.batchLimit := by
    rcases fits with rfl | fits
    · exact held
    · exact fits
  have fewer : rest.length ≤ trace.reporter.queue.length := by
    have lengths := congrArg List.length split
    rw [List.length_append, List.length_append] at lengths
    omega
  refine orderly_of_working nofun ?_ ?_ ?_ ?_ (Nat.le_trans fewer orderly.bounded) (Nat.zero_le _)
  · rw [discarded_extend, discarded_eq_nil orderly working]
    rfl
  · rw [accepted_extend, flushed_extend, placed]
    simp [ReporterEffect.accepted?, ReporterEffect.flushed?, List.filterMap_cons, Reporter.inHand]
  · rw [turnedAway_extend]
    exact counted_of_working orderly working
  · rw [flushed_extend]
    intro flushed member
    rcases List.mem_append.mp member with before | new
    · exact orderly.batches flushed before
    · obtain rfl : flushed = batch := by simpa [ReporterEffect.flushed?, List.filterMap_cons] using new
      exact ⟨List.length_pos_iff.mpr nonempty, size⟩

/-- A flusher that has nothing left to deliver ends when the reporter was stopped. -/
theorem orderly_finish (orderly : trace.Orderly) (idle : trace.reporter.flusher = .idle [])
    (told : trace.reporter.stopped = true) (empty : trace.reporter.queue = []) :
    Orderly ⟨{ trace.reporter with queue := [], flusher := .finished }, trace.effects ++ []⟩ := by
  obtain ⟨inHand, working⟩ := of_idle idle
  have placed := placed_of_working orderly working
  have nothing := discarded_eq_nil orderly working
  rw [inHand, empty, List.append_nil, List.append_nil] at placed
  rw [List.append_nil]
  exact
    { placed := by
        change trace.accepted = trace.flushed.flatten ++ [] ++ [] ++ trace.discarded
        rw [nothing, placed, List.append_nil, List.append_nil, List.append_nil]
      closed := fun _ => ⟨told, rfl, rfl⟩
      counted := orderly.counted
      batches := orderly.batches
      bounded := Nat.zero_le _
      held := Nat.zero_le _
      finished := fun _ => ⟨told, rfl⟩ }

/-- A flusher may take all that is queued in hand, where it waits on. -/
theorem orderly_take (orderly : trace.Orderly) {pending : List Snapshot}
    (idle : trace.reporter.flusher = .idle pending)
    (short : (pending ++ trace.reporter.queue).length < trace.reporter.batchLimit) :
    Orderly
      ⟨{ trace.reporter with queue := [], flusher := .idle (pending ++ trace.reporter.queue) },
        trace.effects ++ []⟩ := by
  obtain ⟨inHand, working⟩ := of_idle idle
  have placed := placed_of_working orderly working
  have nothing := discarded_eq_nil orderly working
  have counted := counted_of_working orderly working
  rw [inHand, ← List.append_nil (pending ++ _), ← List.append_assoc] at placed
  rw [List.append_nil]
  exact orderly_of_working nofun nothing placed counted orderly.batches (Nat.zero_le _)
    (Nat.le_of_lt short)

/-! ## What is discarded -/

/-- Where something has been discarded nothing more is queued. -/
theorem queue_append_discarded (orderly : trace.Orderly) :
    trace.reporter.queue ++ trace.discarded = trace.discarded ++ trace.reporter.queue := by
  by_cases nothing : trace.discarded = []
  · rw [nothing, List.append_nil, List.nil_append]
  · rw [(orderly.closed nothing).2.2, List.append_nil, List.nil_append]

/-- What is queued is discarded and counted where nothing is in hand and a stopped reporter ends. -/
theorem orderly_discard (orderly : trace.Orderly) (empty : trace.reporter.inHand = [])
    {reporter : Reporter} (settings : reporter.settings = trace.reporter.settings)
    (queue : reporter.queue = []) (told : reporter.stopped = true) (ended : reporter.flusher = .finished)
    (dropped : reporter.stats.dropped = trace.reporter.stats.dropped + trace.reporter.queue.length) :
    Orderly ⟨reporter, trace.effects ++ [.discarded trace.reporter.queue]⟩ := by
  have inHand : reporter.inHand = [] := by rw [Reporter.inHand, ended]
  have batchLimit : reporter.batchLimit = trace.reporter.batchLimit := by
    rw [Reporter.batchLimit, settings, Reporter.batchLimit]
  refine ⟨⟨?_, fun _ => ⟨told, ended, queue⟩, ?_, ?_, ?_⟩, ?_, fun _ => ⟨told, queue⟩⟩
  · have placed := orderly.placed
    rw [empty, List.append_nil, List.append_assoc, queue_append_discarded orderly] at placed
    rw [accepted_extend, flushed_extend, discarded_extend, placed, inHand, queue]
    simp [ReporterEffect.accepted?, ReporterEffect.flushed?, ReporterEffect.discards, List.filterMap_cons]
  · rw [turnedAway_extend, discarded_extend, dropped, orderly.counted]
    simp [ReporterEffect.discards, ReporterEffect.isQueueFull, Nat.add_assoc]
  · rw [flushed_extend, batchLimit]
    exact (List.append_nil trace.flushed).symm ▸ orderly.batches
  · rw [queue]
    exact Nat.zero_le _
  · rw [inHand]
    exact Nat.zero_le _

/-! ## Every step -/

/-- Every step keeps the accounts, unless the flusher fails or a stopped reporter is abandoned with
snapshots in hand. -/
theorem orderly_of_move (orderly : trace.Orderly) {now : Instant} {event : ReporterEvent} {next : Reporter}
    {effects : List ReporterEffect} (move : trace.reporter.Move now event next effects)
    (sound : event ≠ .flusherFails)
    (patient : event = .abandon → trace.reporter.stopped = true → trace.reporter.inHand = []) :
    Orderly ⟨next, trace.effects ++ effects⟩ := by
  cases move with
  | beat _ _ heartbeats sends =>
    rcases sends with rfl | ⟨heartbeat, rfl⟩ <;>
      exact orderly_of_same orderly rfl rfl rfl rfl id Iff.rfl ⟨rfl, rfl, rfl, rfl⟩
  | same | refuse => exact orderly_of_same orderly rfl rfl rfl rfl id Iff.rfl ⟨rfl, rfl, rfl, rfl⟩
  | turnAway snapshot taking => exact orderly_turnAway orderly taking
  | accept snapshot taking room => exact orderly_accept orderly taking snapshot room
  | start unstarted =>
    have inHand : trace.reporter.inHand = [] := by rw [Reporter.inHand, unstarted]
    exact orderly_of_same orderly rfl rfl inHand.symm rfl id (by simp [unstarted]) ⟨rfl, rfl, rfl, rfl⟩
  | tell => exact orderly_of_same orderly rfl rfl rfl rfl (fun _ => rfl) Iff.rfl ⟨rfl, rfl, rfl, rfl⟩
  | withdraw unstarted =>
    have inHand : trace.reporter.inHand = [] := by rw [Reporter.inHand, unstarted]
    exact orderly_discard orderly inHand rfl rfl rfl rfl rfl
  | abandon lastError told => exact orderly_discard orderly (patient rfl told) rfl rfl told rfl rfl
  | take idle _ short => exact orderly_take orderly idle short
  | finish idle told empty => exact orderly_finish orderly idle told empty
  | begin _ idle nonempty split full fits => exact orderly_begin orderly idle nonempty split full fits
  | deliver delivering | giveUp _ delivering | pause _ delivering | again delivering =>
    have inHand : trace.reporter.inHand = [] := by rw [Reporter.inHand, delivering]
    exact orderly_of_same orderly rfl rfl inHand.symm rfl id (by simp [delivering]) ⟨rfl, rfl, rfl, rfl⟩
  | lose => exact absurd rfl sound

end ReporterTrace

end FleetTraffic
