import FleetTraffic.Proofs.Delivery.Clockwork

/-!
# Runs come to an end

No turn can be had over and over while the clock stands still. Each of them uses something up: a tick of a timer, an
attempt of the script, a snapshot of a source, or a snapshot that waits for its delivery. So each makes the bound
for the steps that are left smaller, and so does the clock when it moves on.

With the bound as its fuel a run therefore ends for a reason of its own. When time passes, the clock comes to the
time and nothing is due any more. When the reporter is stopped, nothing is running any more, and the rest is
abandoned only when the time for stopping is over.
-/

namespace FleetTraffic

/-! ## What a turn uses up -/

namespace Timer

variable {timer : Timer} {now limit : Nat}

/-- A timer with a period has fewer ticks left once it has ticked. -/
theorem ticksLeft_tick (positive : 0 < timer.period) (due : timer.due ≤ now) (within : now ≤ limit) :
    (timer.tick now).ticksLeft now limit < timer.ticksLeft now limit := by
  have rest := Nat.mod_lt (now - timer.due) positive
  by_cases late : timer.due + tolerance < now
  · have next : ¬now + timer.period - (now - timer.due) % timer.period + tolerance < now := by omega
    simp only [ticksLeft, tick, if_pos late, if_neg next]
    omega
  · have next : ¬timer.due + timer.period + tolerance < now := by omega
    simp only [ticksLeft, tick, if_neg late, if_neg next]
    omega

/-- A timer has no more ticks left when time has passed. -/
theorem ticksLeft_mono (timer : Timer) {later : Nat} (passed : now ≤ later) (limit : Nat) :
    timer.ticksLeft later limit ≤ timer.ticksLeft now limit := by
  rw [ticksLeft, ticksLeft]
  split
  next => split <;> omega
  next => split <;> omega

end Timer

/-- A sender of heartbeats has no more turns left with no more ticks. -/
theorem HeartbeatSender.turnsLeft_mono (sender : HeartbeatSender) {fewer more : Nat} (le : fewer ≤ more) :
    sender.turnsLeft fewer ≤ sender.turnsLeft more := by
  cases sender <;> simp only [turnsLeft] <;> omega

/-- A collector has no more turns left when time has passed. -/
theorem Collector.turnsLeft_mono (collector : Collector) {now later : Nat} (passed : now ≤ later)
    (limit : Nat) : collector.turnsLeft later limit ≤ collector.turnsLeft now limit := by
  have fewer := collector.timer.ticksLeft_mono passed limit
  rw [turnsLeft, turnsLeft]
  split
  next => exact Nat.le_refl 0
  next => omega

/-- Collectors have no more turns left when time has passed. -/
theorem Collector.turnsLeftOfAll_mono (collectors : List Collector) {now later : Nat} (passed : now ≤ later)
    (limit : Nat) : turnsLeftOfAll later limit collectors ≤ turnsLeftOfAll now limit collectors := by
  induction collectors with
  | nil => exact Nat.le_refl 0
  | cons collector rest inductionHypothesis =>
    exact Nat.add_le_add (collector.turnsLeft_mono passed limit) inductionHypothesis

/-- When one collector changes, the turns that all have left change by as much as its own. -/
theorem Collector.turnsLeftOfAll_set (now limit : Nat) (collectors : List Collector) {place : Nat}
    {former : Collector} (here : collectors[place]? = some former) (new : Collector) :
    turnsLeftOfAll now limit (collectors.set place new) + former.turnsLeft now limit =
      turnsLeftOfAll now limit collectors + new.turnsLeft now limit := by
  induction collectors generalizing place with
  | nil => cases here
  | cons collector rest inductionHypothesis =>
    cases place with
    | zero =>
      obtain rfl := Option.some.inj here
      simp only [List.set_cons_zero, turnsLeftOfAll]
      omega
    | succ place =>
      have same := inductionHypothesis here
      simp only [List.set_cons_succ, turnsLeftOfAll]
      omega

namespace Timeline

variable {line next : Timeline} {wall : Instant} {limit : Nat}

/-- An attempt that is begun costs two turns at most, since a failure uses an attempt of the script up. -/
theorem turnsLeft_nextAttempt (sends : List Attempt) (delivery : Delivery) (sent : delivery.pausing = false) :
    (Flusher.delivering delivery).turnsLeft (nextAttempt sends).1.outcome +
      2 * (nextAttempt sends).2.length ≤ 2 * sends.length + 2 := by
  cases sends with
  | nil => simp [Flusher.turnsLeft, sent, nextAttempt]
  | cons attempt rest =>
    simp only [Flusher.turnsLeft, sent, nextAttempt, List.length_cons, Bool.false_eq_true, if_false]
    split <;> omega

/-- The beginning of a delivery leaves fewer steps: it costs two turns, and each snapshot in it stood for three. -/
theorem stepBound_begin (line : Timeline) {pending batch rest : List Snapshot}
    (idle : line.reporter.flusher = .idle pending) (nonempty : batch ≠ [])
    (split : pending ++ line.reporter.queue = batch ++ rest) (body : String) (stats : DeliveryStats)
    (limit : Nat) :
    ([ReporterEffect.flushed batch, .send body].foldl note
      { line with
        reporter := { line.reporter with
          queue := rest
          flusher := .delivering { batch, body, retries := 0, pausing := false }
          stats } }).stepBound limit < line.stepBound limit := by
  have attempt := turnsLeft_nextAttempt line.sends { batch, body, retries := 0, pausing := false } rfl
  have lengths := congrArg List.length split
  have some_snapshot := List.length_pos_iff.mpr nonempty
  rw [List.length_append, List.length_append] at lengths
  simp only [List.foldl_cons, List.foldl_nil, note, stepBound, idle, Flusher.turnsLeft] at attempt ⊢
  omega

/-- A flusher that is called and looks at the queue leaves fewer steps. -/
theorem stepBound_wake {pending : List Snapshot} (idle : line.reporter.flusher = .idle pending)
    (call : line.reporter.stopped = true ∨ line.reporter.queue ≠ []) (wall : Instant) (limit : Nat) :
    (line.occur wall .wake).2.stepBound limit < line.stepBound limit := by
  have move := line.reporter.move_step wall .wake
  rw [occur]
  generalize line.reporter.step wall .wake = result at move ⊢
  obtain ⟨reporter, effects⟩ := result
  cases move with
  | same _ busy => exact absurd idle (busy rfl pending)
  | beat timed => cases timed
  | @take former state taking =>
    obtain rfl : pending = former := Flusher.idle.inj (idle.symm.trans state)
    have queued : 0 < line.reporter.queue.length :=
      List.length_pos_iff.mpr (call.resolve_left (Bool.eq_false_iff.mp taking))
    simp only [List.foldl_nil, stepBound, idle, Flusher.turnsLeft, List.length_append, List.length_nil]
    omega
  | finish state told empty =>
    simp only [List.foldl_nil, stepBound, state, Flusher.turnsLeft, empty, List.length_nil]
    omega
  | begin _ state nonempty split => exact stepBound_begin line state nonempty split _ _ limit

/-- A tick of the flush timer leaves fewer steps, also if the flusher has nothing in hand. -/
theorem stepBound_flushTick (positive : 0 < line.flushTimer.period)
    (due : line.flushTimer.due ≤ line.clock) (within : line.clock ≤ limit) (wall : Instant) :
    ({ line with flushTimer := line.flushTimer.tick line.clock }.occur wall .flushTick).2.stepBound limit <
      line.stepBound limit := by
  have fewer := Timer.ticksLeft_tick positive due within
  have ticked : stepBound { line with flushTimer := line.flushTimer.tick line.clock } limit <
      line.stepBound limit := by
    simp only [stepBound]
    omega
  have move := line.reporter.move_step wall .flushTick
  rw [occur]
  generalize line.reporter.step wall .flushTick = result at move ⊢
  obtain ⟨reporter, effects⟩ := result
  cases move with
  | same => exact ticked
  | beat timed => cases timed
  | begin _ state nonempty split =>
    exact (stepBound_begin { line with flushTimer := line.flushTimer.tick line.clock } state nonempty split _ _
      limit).trans ticked

/-- Every turn leaves fewer steps, if the timers that something works by have a period. -/
theorem stepBound_of_turn (ticking : line.Ticking)
    (flushing : ∀ pending, line.reporter.flusher = .idle pending → 0 < line.flushTimer.period)
    (within : line.clock ≤ limit) (turn : line.Turn wall next) :
    next.stepBound limit < line.stepBound limit := by
  cases turn with
  | wake idle call => exact stepBound_wake idle call wall limit
  | flushTick idle due => exact stepBound_flushTick (flushing _ idle) due within wall
  | @again delivery state paused =>
    have attempt := turnsLeft_nextAttempt line.sends { delivery with pausing := false } rfl
    simp only [stepBound, state, Flusher.turnsLeft, paused, if_true] at attempt ⊢
    omega
  | deliver state sent _ success =>
    simp only [stepBound, state, Flusher.turnsLeft, sent, success, Bool.false_eq_true, if_false,
      List.length_nil]
    omega
  | giveUp state sent _ failure =>
    simp only [stepBound, state, Flusher.turnsLeft, sent, failure, Bool.false_eq_true, if_false,
      List.length_nil]
    omega
  | pause state sent _ failure =>
    simp only [stepBound, state, Flusher.turnsLeft, sent, failure, if_true, Bool.false_eq_true, if_false]
    omega
  | retire idle =>
    simp only [stepBound, idle, HeartbeatSender.turnsLeft]
    omega
  | beat idle due =>
    have fewer := Timer.ticksLeft_tick (ticking.heartbeats (by rw [idle]; rfl)) due within
    simp only [stepBound, idle, HeartbeatSender.turnsLeft]
    omega
  | answer sending =>
    simp only [stepBound, sending, HeartbeatSender.turnsLeft]
    omega
  | @poll place collector here running due queue offers dropped finished =>
    have fewer := Timer.ticksLeft_tick
      (ticking.collectors _ (List.mem_of_getElem? here) running) due within
    have all := Collector.turnsLeftOfAll_set line.clock limit line.collectors here
      { collector with timer := collector.timer.tick line.clock, source := collector.source.tail, finished }
    have polled : Collector.turnsLeft line.clock limit
        { collector with timer := collector.timer.tick line.clock, source := collector.source.tail, finished } +
          3 * queue.length + min 1 queue.length < collector.turnsLeft line.clock limit +
          3 * line.reporter.queue.length + min 1 line.reporter.queue.length := by
      simp only [Collector.turnsLeft, running, Bool.false_eq_true, if_false, List.length_tail]
      rcases offers with rfl | ⟨snapshot, rest, source, rfl⟩
      · split <;> omega
      · rw [source, List.length_cons, List.length_append, List.length_singleton]
        split <;> omega
    simp only [stepBound]
    omega

/-- When the clock moves on, fewer steps are left. -/
theorem stepBound_wait (before : line.clock < limit) :
    stepBound { line with clock := line.nextTime limit } limit < line.stepBound limit := by
  obtain ⟨later, within, -⟩ := line.nextTime_spec before
  have passed := Nat.le_of_lt later
  have flushes := line.flushTimer.ticksLeft_mono passed limit
  have beats := line.reporter.heartbeats.turnsLeft_mono (line.heartbeatTimer.ticksLeft_mono passed limit)
  have polls := Collector.turnsLeftOfAll_mono line.collectors passed limit
  simp only [stepBound]
  omega

/-! ## Runs with enough fuel -/

/-- Whether a run has come to its end: the condition holds, or the clock has come to the time and nothing is due any
more. -/
def Ended (wall : Instant) (limit : Nat) (halts : Timeline → Bool) (line : Timeline) : Prop :=
  halts line = true ∨ line.dueStep? wall = none ∧ limit ≤ line.clock

/-- A run comes to its end when its fuel covers the steps that are left, if every turn in it leaves fewer. -/
theorem runUntil_ends (holds : Timeline → Prop) {halts : Timeline → Bool}
    (turning : ∀ line next : Timeline, holds line → halts line = false → line.clock ≤ limit →
      line.dueStep? wall = some next → holds next ∧ next.stepBound limit < line.stepBound limit)
    (waiting : ∀ line : Timeline, holds line → line.clock < limit →
      holds { line with clock := line.nextTime limit })
    {fuel : Nat} (first : holds line) (within : line.clock ≤ limit)
    (enough : line.stepBound limit ≤ fuel) :
    Ended wall limit halts (line.runUntil wall limit halts fuel) := by
  induction fuel generalizing line with
  | zero =>
    rw [runUntil]
    by_cases going : halts line = true
    · exact .inl going
    · refine .inr ⟨Option.eq_none_iff_forall_not_mem.mpr fun next step => ?_, ?_⟩
      · have less := (turning line next first (Bool.eq_false_iff.mpr going) within step).2
        omega
      · by_contra early
        have less := stepBound_wait (Nat.lt_of_not_le early)
        omega
  | succ fuel inductionHypothesis =>
    rw [runUntil]
    split
    next halted => exact .inl halted
    next going =>
      rw [Bool.not_eq_true] at going
      split
      next next step =>
        obtain ⟨after, less⟩ := turning line next first going within step
        exact inductionHypothesis after ((clock_of_turn (turn_of_dueStep step)).trans_le within) (by omega)
      next rest =>
        split
        next before =>
          have less := stepBound_wait before
          exact inductionHypothesis (waiting line first before) (line.nextTime_spec before).2.1 (by omega)
        next come => exact .inr ⟨rest, Nat.le_of_not_lt come⟩

/-- A run that has come to its end does not go on. -/
theorem runUntil_of_ended {halts : Timeline → Bool} (ended : Ended wall limit halts line) (fuel : Nat) :
    line.runUntil wall limit halts fuel = line := by
  cases fuel with
  | zero => rfl
  | succ fuel =>
    rw [runUntil]
    split
    next => rfl
    next going =>
      obtain ⟨rest, come⟩ := ended.resolve_left going
      simp only [rest, Nat.not_lt.mpr come, if_false]

/-- A run is a run that goes on with the rest of the fuel. -/
theorem runUntil_add (halts : Timeline → Bool) (fuel more : Nat) (line : Timeline) :
    line.runUntil wall limit halts (fuel + more) =
      (line.runUntil wall limit halts fuel).runUntil wall limit halts more := by
  induction fuel generalizing line with
  | zero => rw [Nat.zero_add, runUntil]
  | succ fuel inductionHypothesis =>
    rw [Nat.succ_add, runUntil, runUntil]
    split
    next halted => exact (runUntil_of_ended (.inl halted) more).symm
    next going =>
      split
      next next step => exact inductionHypothesis next
      next rest =>
        split
        next before => exact inductionHypothesis _
        next come => exact (runUntil_of_ended (.inr ⟨rest, Nat.le_of_not_lt come⟩) more).symm

/-- A run that goes on as long as the flusher delivers comes to its end, whatever the flush timer is like. -/
theorem runUntil_of_delivering (ticking : line.Ticking) (wall : Instant) (within : line.clock ≤ limit)
    {fuel : Nat} (enough : line.stepBound limit ≤ fuel) :
    Ended wall limit (!·.isDelivering) (line.runUntil wall limit (!·.isDelivering) fuel) := by
  refine runUntil_ends Ticking ?_ ?_ ticking within enough
  · intro line next ticking going within step
    have turn := turn_of_dueStep step
    have flushing (pending : List Snapshot) (idle : line.reporter.flusher = .idle pending) :
        0 < line.flushTimer.period := by simp [isDelivering, idle] at going
    exact ⟨ticking_of_turn ticking turn, stepBound_of_turn ticking flushing within turn⟩
  · exact fun line ticking _ => ⟨ticking.heartbeats, ticking.collectors⟩

/-! ## Timelines that an agent comes to -/

/-- The timers by which something works have a period, also the one of a flusher that takes turns. -/
structure Timed (line : Timeline) : Prop extends Ticking line where
  flushing : line.reporter.flusher.isWorking = true → 0 < line.flushTimer.period

/-- No event but a start lets anything work by a timer without a period. -/
theorem timed_occur (timed : line.Timed) (wall : Instant) {event : ReporterEvent} (other : event ≠ .start) :
    (line.occur wall event).2.Timed := by
  obtain ⟨reporter, _, _, _, timer⟩ := line.occur_fixed wall event
  refine ⟨ticking_occur timed.toTicking wall other, fun working => ?_⟩
  rw [reporter] at working
  rw [timer]
  exact timed.flushing (Reporter.working_of_move (line.reporter.move_step wall event) other working)

/-- A turn lets nothing work by a timer without a period. -/
theorem timed_of_turn (timed : line.Timed) (turn : line.Turn wall next) : next.Timed := by
  refine ⟨ticking_of_turn timed.toTicking turn, ?_⟩
  cases turn with
  | wake =>
    have after : (line.occur wall .wake).2.Timed := timed_occur timed wall nofun
    exact after.flushing
  | flushTick =>
    have ticked : Timed { line with flushTimer := line.flushTimer.tick line.clock } :=
      ⟨⟨timed.heartbeats, timed.collectors⟩, timed.flushing⟩
    have after : ({ line with flushTimer := line.flushTimer.tick line.clock }.occur wall .flushTick).2.Timed :=
      timed_occur ticked wall nofun
    exact after.flushing
  | again state | deliver state | pause state | giveUp state =>
    exact fun _ => timed.flushing (by rw [state, Flusher.isWorking])
  | retire | beat | answer | poll => exact timed.flushing

/-- The passing of time lets nothing work by a timer without a period. -/
theorem timed_wait (timed : line.Timed) (time : Nat) : Timed { line with clock := time } :=
  ⟨⟨timed.heartbeats, timed.collectors⟩, timed.flushing⟩

/-- Once a reporter is started, what would work by a timer without a period has failed. -/
theorem timed_start (timed : line.Timed) (wall : Instant) : (line.start wall).Timed := by
  refine ⟨ticking_start timed.toTicking wall, ?_⟩
  by_cases unstarted : line.reporter.flusher = .unstarted
  · rw [start_of_unstarted unstarted]
    refine fun working => Nat.pos_of_ne_zero fun zero => ?_
    have failed : (if line.reporter.settings.flushInterval.toNat = 0 then Flusher.failed else .idle []) =
        .failed := if_pos zero
    simp only [failed, Flusher.isWorking, Bool.false_eq_true] at working
  · rw [start_of_started unstarted]
    exact timed.flushing

/-- A timeline that an agent can come to with its reporter and its collectors. -/
inductive Driven : Timeline → Prop where
  /-- Nothing has happened yet, and the scripts say how the calls to the server will go. -/
  | fresh (settings : ReporterSettings) (identity : AgentIdentity) (sends heartbeats : List Attempt) :
      Driven { reporter := { settings, identity }, sends, heartbeats }
  /-- The reporter is started with its timers. -/
  | start {line : Timeline} (driven : Driven line) (wall : Instant) : Driven (line.start wall)
  /-- Some snapshots are offered. -/
  | offerAll {line : Timeline} (driven : Driven line) (wall : Instant) (snapshots : List Snapshot) :
      Driven (line.offerAll wall snapshots).2
  /-- A collector begins to take snapshots from a source. -/
  | collect {line : Timeline} (driven : Driven line) (period : Nat) (source : List (Option Snapshot)) :
      Driven (line.collect period source)
  /-- The collectors are ended. -/
  | cancel {line : Timeline} (driven : Driven line) : Driven line.cancelCollectors
  /-- Some time passes, and what is due happens. -/
  | advance {line : Timeline} (driven : Driven line) (wall : Instant) (time : Nat) :
      Driven (line.advance wall time)
  /-- The reporter is stopped. -/
  | stop {line : Timeline} (driven : Driven line) (wall : Instant) : Driven (line.stop wall)

/-- What works in a timeline that an agent comes to works by a timer with a period. -/
theorem Driven.timed (driven : line.Driven) : line.Timed := by
  induction driven with
  | fresh => exact ⟨⟨nofun, nofun⟩, nofun⟩
  | start _ wall timed => exact timed_start timed wall
  | offerAll _ wall snapshots timed =>
    exact offerAll_preserves Timed (fun _ _ before => timed_occur before wall nofun) snapshots timed
  | collect _ period source timed => exact ⟨ticking_collect timed.toTicking period source, timed.flushing⟩
  | cancel _ timed => exact ⟨ticking_cancel timed.toTicking, timed.flushing⟩
  | advance _ wall time timed =>
    exact runUntil_preserves (fun _ _ before _ step => timed_of_turn before (turn_of_dueStep step))
      (fun _ before _ _ _ => timed_wait before _) _ timed
  | stop _ wall timed =>
    exact stop_preserves Timed (fun _ _ before other => timed_occur before wall other)
      (fun _ _ before step => timed_of_turn before (turn_of_dueStep step))
      (fun _ _ before _ _ => timed_wait before _) timed

/-- A timeline that an agent comes to is one that can come about. -/
theorem Driven.reachable (driven : line.Driven) : line.Reachable := by
  induction driven with
  | fresh settings identity sends heartbeats => exact .fresh settings identity sends heartbeats
  | start _ wall reachable => exact reachable.start wall
  | offerAll _ wall snapshots reachable =>
    exact offerAll_preserves Reachable (fun _ _ before => before.occur wall nofun) snapshots reachable
  | collect _ period source reachable => exact reachable.collect period source
  | cancel _ reachable => exact reachable.cancel
  | advance _ wall time reachable =>
    exact runUntil_preserves (fun _ _ before _ step => before.due step)
      (fun _ before _ rest earlier => before.wait rest earlier) _ reachable
  | stop _ wall reachable =>
    exact stop_preserves Reachable (fun _ _ before other => before.occur wall other)
      (fun _ _ before step => before.due step) (fun _ _ before rest earlier => before.wait rest earlier) reachable

/-- In such a timeline a run with enough fuel comes to its end, and more fuel changes nothing. -/
theorem runUntil_stepBound (timed : line.Timed) (wall : Instant) {limit : Nat} (within : line.clock ≤ limit)
    (halts : Timeline → Bool) :
    Ended wall limit halts (line.runUntil wall limit halts (line.stepBound limit)) ∧
      ∀ fuel, line.stepBound limit ≤ fuel →
        line.runUntil wall limit halts fuel = line.runUntil wall limit halts (line.stepBound limit) := by
  have ended : Ended wall limit halts (line.runUntil wall limit halts (line.stepBound limit)) := by
    refine runUntil_ends Timed ?_ ?_ timed within (Nat.le_refl _)
    · intro line next timed _ within step
      have turn := turn_of_dueStep step
      have flushing (pending : List Snapshot) (idle : line.reporter.flusher = .idle pending) :
          0 < line.flushTimer.period := timed.flushing (by rw [idle, Flusher.isWorking])
      exact ⟨timed_of_turn timed turn, stepBound_of_turn timed.toTicking flushing within turn⟩
    · exact fun line timed _ => timed_wait timed _
  refine ⟨ended, fun fuel enough => ?_⟩
  obtain ⟨more, rfl⟩ := Nat.exists_eq_add_of_le enough
  rw [runUntil_add, runUntil_of_ended ended]

/-- A run does not take the clock beyond the time. -/
theorem clock_runUntil_le (wall : Instant) {limit : Nat} (within : line.clock ≤ limit)
    (halts : Timeline → Bool) (fuel : Nat) : (line.runUntil wall limit halts fuel).clock ≤ limit :=
  runUntil_preserves (fun _ _ within _ step => (clock_of_turn (turn_of_dueStep step)).trans_le within)
    (fun line _ _ _ before => (line.nextTime_spec before).2.1) fuel within

/-- When everything that is due by a time has run, the clock has come to it and nothing is due any more. -/
theorem runTo_completes (timed : line.Timed) (wall : Instant) {limit : Nat} (within : line.clock ≤ limit) :
    (line.runTo wall limit).clock = limit ∧ (line.runTo wall limit).dueStep? wall = none := by
  obtain ⟨ended, -⟩ := runUntil_stepBound timed wall within fun _ => false
  obtain ⟨rest, come⟩ := ended.resolve_left Bool.false_ne_true
  exact ⟨Nat.le_antisymm (clock_runUntil_le wall within _ _) come, rest⟩

/-- However long an agent lets time pass, all of it passes, and nothing is due any more after it. -/
theorem advance_completes (driven : line.Driven) (wall : Instant) (time : Nat) :
    (line.advance wall time).clock = line.clock + time ∧ (line.advance wall time).dueStep? wall = none :=
  runTo_completes driven.timed wall (Nat.le_add_right _ _)

/-- A turn does not undo a stop. -/
theorem stopped_of_turn (told : line.reporter.stopped = true) (turn : line.Turn wall next) :
    next.reporter.stopped = true := by
  have kept (before : Timeline) (event : ReporterEvent) (told : before.reporter.stopped = true) :
      (before.occur wall event).2.reporter.stopped = true := by
    rw [(before.occur_fixed wall event).1]
    exact (Reporter.stopped_of_move (before.reporter.move_step wall event)).mpr (.inl told)
  cases turn with
  | wake => exact kept line .wake told
  | flushTick => exact kept { line with flushTimer := line.flushTimer.tick line.clock } .flushTick told
  | _ => exact told

/-- A run does not undo a stop. -/
theorem stopped_runUntil (told : line.reporter.stopped = true) (wall : Instant) (limit : Nat)
    (halts : Timeline → Bool) (fuel : Nat) :
    (line.runUntil wall limit halts fuel).reporter.stopped = true :=
  runUntil_preserves (fun _ _ before _ step => stopped_of_turn before (turn_of_dueStep step))
    (fun _ before _ _ _ => before) fuel told

/-- Of a stopped reporter that is abandoned nothing is running. -/
theorem isRunning_abandon (told : line.reporter.stopped = true) (wall : Instant) :
    (line.occur wall .abandon).2.reporter.isRunning = false := by
  rw [(line.occur_fixed wall .abandon).1]
  simp only [Reporter.step, Reporter.abandon, told, if_true]
  rfl

/-- Stopping by the clock and the settings before it, which the stop itself does not change. -/
theorem stop_eq (line : Timeline) (wall : Instant) :
    let told := (line.occur wall .stop).2
    let limit := line.clock + line.reporter.settings.shutdownTimeout.toNat
    let isOver := fun line : Timeline => !line.reporter.isRunning || limit ≤ line.clock
    let waited := told.runUntil wall limit isOver (told.stepBound limit)
    line.stop wall =
      if told.reporter.isRunning then
        if waited.reporter.isRunning then (waited.occur wall .abandon).2 else waited
      else told := by
  obtain ⟨reporter, clock, -⟩ := line.occur_fixed wall .stop
  have settings := (Reporter.same_of_move (line.reporter.move_step wall .stop)).1
  rw [← reporter] at settings
  simp only [← clock, ← settings]
  rfl

/-- Stopping ends with nothing running, in the time that the settings allow. If something is still running when
the wait ends, this time is over: the rest is not abandoned any sooner. -/
theorem stop_completes (driven : line.Driven) (wall : Instant) :
    let told := (line.occur wall .stop).2
    let limit := line.clock + line.reporter.settings.shutdownTimeout.toNat
    let isOver := fun line : Timeline => !line.reporter.isRunning || limit ≤ line.clock
    (line.stop wall).reporter.isRunning = false ∧ (line.stop wall).clock ≤ limit ∧
      ∀ fuel, told.stepBound limit ≤ fuel →
        (told.runUntil wall limit isOver fuel).reporter.isRunning = true →
          (told.runUntil wall limit isOver fuel).clock = limit := by
  intro told limit isOver
  obtain ⟨reporter, clock, -⟩ := line.occur_fixed wall .stop
  have within : told.clock ≤ limit := clock.trans_le (Nat.le_add_right _ _)
  have bound (fuel : Nat) := clock_runUntil_le wall within isOver fuel
  refine ⟨?_, ?_, fun fuel enough running => Nat.le_antisymm (bound fuel) ?_⟩
  · have stopped : told.reporter.stopped = true := by
      rw [show told.reporter = _ from reporter]
      exact (Reporter.stopped_of_move (line.reporter.move_step wall .stop)).mpr (.inr rfl)
    rw [stop_eq]
    split
    next =>
      split
      next => exact isRunning_abandon (stopped_runUntil stopped wall limit isOver _) wall
      next ended => exact Bool.eq_false_iff.mpr ended
    next ended => exact Bool.eq_false_iff.mpr ended
  · rw [stop_eq]
    split
    next =>
      split
      next => exact (occur_fixed _ wall .abandon).2.1.trans_le (bound _)
      next => exact bound _
    next => exact within
  · have timed : told.Timed := timed_occur driven.timed wall nofun
    obtain ⟨ended, same⟩ := runUntil_stepBound timed wall within isOver
    rw [← same fuel enough] at ended
    rcases ended with halted | ⟨-, come⟩
    · simpa [isOver, running] using halted
    · exact come

end Timeline

end FleetTraffic
