import FleetTraffic.Proofs.Delivery.Moves
import FleetTraffic.Proofs.Delivery.Turns

/-!
# Timelines that can come about

In every timeline that can come about, the timers that something works by have a period. What the turns and the
passing of time preserve holds after every run.
-/

namespace FleetTraffic

namespace Timeline

variable {line next : Timeline} {wall : Instant}

/-! ## Timers with a period -/

/-- The timers by which something works have a period. -/
structure Ticking (line : Timeline) : Prop where
  heartbeats : line.reporter.heartbeats.isBeating = true → 0 < line.heartbeatTimer.period
  collectors : ∀ collector ∈ line.collectors, collector.finished = false → 0 < collector.timer.period

/-- No event but a start lets anything work by a timer without a period. -/
theorem ticking_occur (ticking : line.Ticking) (wall : Instant) {event : ReporterEvent}
    (other : event ≠ .start) : (line.occur wall event).2.Ticking := by
  obtain ⟨reporter, _, collectors, timer, -⟩ := line.occur_fixed wall event
  refine ⟨fun beating => ?_, ?_⟩
  · rw [reporter] at beating
    rw [timer]
    exact ticking.heartbeats (Reporter.beating_of_move (line.reporter.move_step wall event) other beating)
  · rw [collectors]
    exact ticking.collectors

/-- A turn lets nothing work by a timer without a period. -/
theorem ticking_of_turn (ticking : line.Ticking) (turn : line.Turn wall next) : next.Ticking := by
  cases turn with
  | wake => exact ticking_occur ticking wall nofun
  | flushTick =>
    have same : Ticking { line with flushTimer := line.flushTimer.tick line.clock } :=
      ⟨ticking.heartbeats, ticking.collectors⟩
    exact ticking_occur same wall nofun
  | again | deliver | pause | giveUp => exact ⟨ticking.heartbeats, ticking.collectors⟩
  | retire => exact ⟨nofun, ticking.collectors⟩
  | beat idle => exact ⟨fun _ => ticking.heartbeats (by rw [idle]; rfl), ticking.collectors⟩
  | answer sending => exact ⟨fun _ => ticking.heartbeats (by rw [sending]; rfl), ticking.collectors⟩
  | poll here running =>
    have positive := ticking.collectors _ (List.mem_of_getElem? here) running
    refine ⟨ticking.heartbeats, fun collector member unfinished => ?_⟩
    rcases List.mem_or_eq_of_mem_set member with former | rfl
    · exact ticking.collectors collector former unfinished
    · exact positive

/-- What a start makes of a timeline whose reporter has not been started. What would work by a timer without a
period fails at once. -/
theorem start_of_unstarted (unstarted : line.reporter.flusher = .unstarted) (wall : Instant) :
    let flushPeriod := line.reporter.settings.flushInterval.toNat
    let heartbeatPeriod := line.reporter.settings.heartbeatInterval
    line.start wall =
      { line with
        reporter := { line.reporter with
          queue := if flushPeriod = 0 then [] else line.reporter.queue
          flusher := if flushPeriod = 0 then .failed else .idle []
          heartbeats := if heartbeatPeriod = 0 then .finished else .idle }
        flushTimer := ⟨line.clock + flushPeriod, flushPeriod⟩
        heartbeatTimer := ⟨line.clock + heartbeatPeriod, heartbeatPeriod⟩ } := by
  intro flushPeriod heartbeatPeriod
  have begun : (line.occur wall .start).2 =
      { line with reporter := { line.reporter with flusher := .idle [], heartbeats := .idle } } := by
    simp only [occur, Reporter.step, Reporter.start, unstarted, List.foldl_nil]
  simp only [start, unstarted, begun]
  by_cases flushing : line.reporter.settings.flushInterval.toNat = 0 <;>
    by_cases beating : line.reporter.settings.heartbeatInterval = 0 <;>
    simp only [flushPeriod, heartbeatPeriod, flushing, beating, if_true, if_false, List.nil_append,
      List.append_nil, List.cons_append, List.foldl_nil, List.foldl_cons, occur, Reporter.step,
      Reporter.flusherFails, Reporter.heartbeatsFail, note]

/-- A reporter that was started is not started again. -/
theorem start_of_started (started : line.reporter.flusher ≠ .unstarted) (wall : Instant) :
    line.start wall = line := by
  rw [start]
  split
  next unstarted => exact absurd unstarted started
  next => rfl

/-- Once a reporter is started, what would work by a timer without a period has failed. -/
theorem ticking_start (ticking : line.Ticking) (wall : Instant) : (line.start wall).Ticking := by
  by_cases unstarted : line.reporter.flusher = .unstarted
  · rw [start_of_unstarted unstarted]
    refine ⟨fun beating => Nat.pos_of_ne_zero fun zero => ?_, ticking.collectors⟩
    rw [if_pos zero] at beating
    cases beating
  · rw [start_of_started unstarted]
    exact ticking

/-- A collector without a period is finished at once. -/
theorem ticking_collect (ticking : line.Ticking) (period : Nat) (source : List (Option Snapshot)) :
    (line.collect period source).Ticking := by
  refine ⟨ticking.heartbeats, fun collector member running => ?_⟩
  rcases List.mem_append.mp member with former | added
  · exact ticking.collectors collector former running
  · obtain rfl := List.mem_singleton.mp added
    rw [Bool.or_eq_false_iff, decide_eq_false_iff_not] at running
    exact Nat.pos_of_ne_zero running.2

/-- Collectors that are ended do not work any more. -/
theorem ticking_cancel (ticking : line.Ticking) : line.cancelCollectors.Ticking := by
  refine ⟨ticking.heartbeats, fun collector member running => ?_⟩
  obtain ⟨former, _, rfl⟩ := List.mem_map.mp member
  cases running

/-- A timeline that can come about, by what the agent does with its reporter and its collectors, by turns and
by the passing of time. -/
inductive Reachable : Timeline → Prop where
  /-- Nothing has happened yet, and the scripts say how the calls to the server will go. -/
  | fresh (settings : ReporterSettings) (identity : AgentIdentity) (sends heartbeats : List Attempt) :
      Reachable { reporter := { settings, identity }, sends, heartbeats }
  /-- The reporter is started with its timers. -/
  | start {line : Timeline} (reachable : Reachable line) (wall : Instant) : Reachable (line.start wall)
  /-- Something else happens to the reporter. -/
  | occur {line : Timeline} (reachable : Reachable line) (wall : Instant) {event : ReporterEvent}
      (other : event ≠ .start) : Reachable (line.occur wall event).2
  /-- A collector begins to take snapshots from a source. -/
  | collect {line : Timeline} (reachable : Reachable line) (period : Nat)
      (source : List (Option Snapshot)) : Reachable (line.collect period source)
  /-- The collectors are ended. -/
  | cancel {line : Timeline} (reachable : Reachable line) : Reachable line.cancelCollectors
  /-- The flusher takes snapshots out of the queue, and sees to its timer. -/
  | take {line : Timeline} (reachable : Reachable line) (queue : List Snapshot) (flushTimer : Timer) :
      Reachable { line with reporter := { line.reporter with queue }, flushTimer }
  /-- What is due happens. -/
  | due {line next : Timeline} (reachable : Reachable line) {wall : Instant}
      (step : line.dueStep? wall = some next) : Reachable next
  /-- Nothing is due any more, and the clock moves on. -/
  | wait {line : Timeline} (reachable : Reachable line) {wall : Instant}
      (rest : line.dueStep? wall = none) {limit : Nat} (before : line.clock < limit) :
      Reachable { line with clock := line.nextTime limit }

/-- What works in a timeline that can come about works by a timer with a period. -/
theorem Reachable.ticking (reachable : line.Reachable) : line.Ticking := by
  induction reachable with
  | fresh => exact ⟨nofun, nofun⟩
  | start _ wall inductionHypothesis => exact ticking_start inductionHypothesis wall
  | occur _ wall other inductionHypothesis => exact ticking_occur inductionHypothesis wall other
  | collect _ period source inductionHypothesis => exact ticking_collect inductionHypothesis period source
  | cancel _ inductionHypothesis => exact ticking_cancel inductionHypothesis
  | take _ _ _ inductionHypothesis =>
    exact ⟨inductionHypothesis.heartbeats, inductionHypothesis.collectors⟩
  | due _ step inductionHypothesis => exact ticking_of_turn inductionHypothesis (turn_of_dueStep step)
  | wait _ _ _ inductionHypothesis =>
    exact ⟨inductionHypothesis.heartbeats, inductionHypothesis.collectors⟩

/-! ## When the clock moves -/

/-- The least of some numbers is at least what all of them are. -/
theorem le_foldl_min {bound : Nat} (numbers : List Nat) (first : Nat) :
    bound ≤ numbers.foldl min first ↔ bound ≤ first ∧ ∀ number ∈ numbers, bound ≤ number := by
  induction numbers generalizing first with
  | nil => simp
  | cons number rest inductionHypothesis =>
    rw [List.foldl_cons, inductionHypothesis, List.forall_mem_cons, le_min_iff, and_assoc]

/-- The clock moves on, but not beyond the limit and not past the end of an attempt or a pause. -/
theorem nextTime_spec (line : Timeline) {limit : Nat} (before : line.clock < limit) :
    line.clock < line.nextTime limit ∧ line.nextTime limit ≤ limit ∧
      (line.isDelivering = true → line.clock < line.flusherDue →
        line.nextTime limit ≤ line.flusherDue) := by
  obtain ⟨atMost, earliest⟩ :=
    (le_foldl_min (line.dueTimes.filter (line.clock < ·)) limit).mp (Nat.le_refl _)
  refine ⟨?_, atMost, fun delivering later => earliest _ ?_⟩
  · refine (le_foldl_min _ _).mpr ⟨before, fun time member => ?_⟩
    exact of_decide_eq_true (List.mem_filter.mp member).2
  · obtain ⟨delivery, state⟩ := exists_delivery delivering
    exact List.mem_filter.mpr ⟨by simp [dueTimes, state], decide_eq_true later⟩

/-! ## Runs -/

/-- What turns and the passing of time preserve holds after a run. -/
theorem runUntil_preserves {holds : Timeline → Prop} {limit : Nat} {halts : Timeline → Bool}
    (turning : ∀ line next : Timeline, holds line → halts line = false →
      line.dueStep? wall = some next → holds next)
    (waiting : ∀ line : Timeline, holds line → halts line = false → line.dueStep? wall = none →
      line.clock < limit → holds { line with clock := line.nextTime limit })
    (fuel : Nat) {line : Timeline} (first : holds line) : holds (runUntil wall limit halts fuel line) := by
  induction fuel generalizing line with
  | zero => exact first
  | succ fuel inductionHypothesis =>
    rw [runUntil]
    split
    next => exact first
    next going =>
      rw [Bool.not_eq_true] at going
      split
      next next step => exact inductionHypothesis (turning line next first going step)
      next rest =>
        split
        next before => exact inductionHypothesis (waiting line first going rest before)
        next => exact first

/-- What every offer preserves holds when some snapshots have been offered. -/
theorem offerAll_preserves (holds : Timeline → Prop)
    (offering : ∀ (line : Timeline) (snapshot : Snapshot), holds line →
      holds (line.occur wall (.offer snapshot)).2)
    (snapshots : List Snapshot) (first : holds line) : holds (line.offerAll wall snapshots).2 := by
  rw [offerAll]
  refine List.foldlRecOn (motive := fun offered : List (Except DeliveryError Unit) × Timeline =>
    holds offered.2) snapshots _ first ?_
  intro offered before snapshot _
  exact offering offered.2 snapshot before

/-- What events, turns and the passing of time preserve holds when the reporter has been stopped. -/
theorem stop_preserves (holds : Timeline → Prop)
    (happening : ∀ (line : Timeline) (event : ReporterEvent), holds line → event ≠ .start →
      holds (line.occur wall event).2)
    (turning : ∀ line next : Timeline, holds line → line.dueStep? wall = some next → holds next)
    (waiting : ∀ (line : Timeline) (limit : Nat), holds line → line.dueStep? wall = none →
      line.clock < limit → holds { line with clock := line.nextTime limit })
    (first : holds line) : holds (line.stop wall) := by
  have told : holds (line.occur wall .stop).2 := happening line .stop first nofun
  have waited (limit : Nat) (halts : Timeline → Bool) (fuel : Nat) :
      holds ((line.occur wall .stop).2.runUntil wall limit halts fuel) :=
    runUntil_preserves (fun line next before _ => turning line next before)
      (fun line before _ => waiting line limit before) fuel told
  simp only [stop]
  split
  next =>
    split
    next => exact happening _ .abandon (waited _ _ _) nofun
    next => exact waited _ _ _
  next => exact told

end Timeline

end FleetTraffic
