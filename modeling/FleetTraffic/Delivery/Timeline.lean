import FleetTraffic.Delivery.Reporter
import FleetTraffic.Delivery.Timer

/-!
# A reporter in time

The events of a reporter get their times from a clock in milliseconds, from periodic timers, and from
scripts that say how long each call to the server takes and how it ends. Collectors may take snapshots
from sources at every tick of their timers and offer them to the reporter. What works by a timer without
a period fails at once.

Whatever is due runs before the clock moves on, and the clock moves straight to the next time at which
something is due. At one time the flusher comes first: it ends when the reporter is stopped, then it
looks at the queue, then at its timer.
-/

namespace FleetTraffic

/-- How a call to the server goes: how long it takes, and how it ends. -/
structure Attempt where
  delay : Nat := 0
  outcome : Except DeliveryError Unit := .ok ()

/-- Takes snapshots at every tick of a timer. -/
structure Collector where
  timer : Timer
  /-- What the source gives at each tick, none where it fails. A source that has come to its end
  fails. -/
  source : List (Option Snapshot)
  finished : Bool := false

/-- A call to the server. -/
inductive Call where
  | report (body : String)
  | heartbeat (heartbeat : Heartbeat)

/-- A reporter with a clock, its timers and the calls that it has made. -/
structure Timeline where
  reporter : Reporter
  clock : Nat := 0
  flushTimer : Timer := ⟨0, 0⟩
  heartbeatTimer : Timer := ⟨0, 0⟩
  /-- How the next deliveries go. After the last one they succeed at once. -/
  sends : List Attempt := []
  /-- How the next heartbeats go. After the last one they succeed at once. -/
  heartbeats : List Attempt := []
  /-- When the attempt or pause of the flusher ends, and how an attempt ends. -/
  flusherDue : Nat := 0
  outcome : Except DeliveryError Unit := .ok ()
  /-- When the heartbeat in progress ends. -/
  heartbeatDue : Nat := 0
  /-- The collectors so far, the latest last. -/
  collectors : List Collector := []
  /-- Whether the collectors have been told to end. -/
  cancelled : Bool := false
  /-- The calls so far with their times, the latest first. -/
  calls : List (Nat × Call) := []

/-- A bound for the turns that a flusher has left with what it has in hand, where an attempt in progress ends as
given. -/
def Flusher.turnsLeft (outcome : Except DeliveryError Unit) : Flusher → Nat
  | .idle pending => 3 * pending.length + 1
  | .delivering delivery =>
    if delivery.pausing then 3
    else match outcome with
      | .ok () => 2
      | .error _ => 4
  | .unstarted | .finished | .failed => 0

/-- A bound for the turns that a sender of heartbeats has left with a number of ticks. -/
def HeartbeatSender.turnsLeft (ticks : Nat) : HeartbeatSender → Nat
  | .idle => 2 * ticks + 1
  | .sending => 2 * ticks + 2
  | .unstarted | .finished => 0

/-- A bound for the turns that a collector has left, and those that its snapshots cause. -/
def Collector.turnsLeft (now limit : Nat) (collector : Collector) : Nat :=
  if collector.finished then 0
  else collector.timer.ticksLeft now limit + 4 * collector.source.length

/-- A bound for the turns that collectors have left together, and those that their snapshots cause. -/
def Collector.turnsLeftOfAll (now limit : Nat) : List Collector → Nat
  | [] => 0
  | collector :: rest => collector.turnsLeft now limit + turnsLeftOfAll now limit rest

namespace Timeline

/-- The first of the scripted attempts, and the ones after it. -/
def nextAttempt : List Attempt → Attempt × List Attempt
  | [] => ({}, [])
  | attempt :: rest => (attempt, rest)

/-- Note what the reporter does to the outside, and when it will be answered. -/
def note (line : Timeline) : ReporterEffect → Timeline
  | .send body =>
    let (attempt, rest) := nextAttempt line.sends
    { line with
      sends := rest
      flusherDue := line.clock + attempt.delay
      outcome := attempt.outcome
      calls := (line.clock, .report body) :: line.calls }
  | .pause => { line with flusherDue := line.clock + line.reporter.settings.retryDelay.toNat }
  | .sendHeartbeat heartbeat =>
    let (attempt, rest) := nextAttempt line.heartbeats
    { line with
      heartbeats := rest
      heartbeatDue := line.clock + attempt.delay
      calls := (line.clock, .heartbeat heartbeat) :: line.calls }
  | _ => line

/-- Let an event happen now, with `wall` as the time of day. -/
def occur (line : Timeline) (wall : Instant) (event : ReporterEvent) :
    List ReporterEffect × Timeline :=
  let (reporter, effects) := line.reporter.step wall event
  (effects, effects.foldl note { line with reporter })

/-- Start the reporter, and its timers with it. The first ticks come after one period. -/
def start (line : Timeline) (wall : Instant) : Timeline :=
  match line.reporter.flusher with
  | .unstarted =>
    let settings := line.reporter.settings
    let flushPeriod := settings.flushInterval.toNat
    let heartbeatPeriod := settings.heartbeatInterval
    let failures : List ReporterEvent :=
      (if flushPeriod = 0 then [.flusherFails] else []) ++
        (if heartbeatPeriod = 0 then [.heartbeatsFail] else [])
    let started := { (line.occur wall .start).2 with
      flushTimer := ⟨line.clock + flushPeriod, flushPeriod⟩
      heartbeatTimer := ⟨line.clock + heartbeatPeriod, heartbeatPeriod⟩ }
    failures.foldl (fun line event => (line.occur wall event).2) started
  | _ => line

/-- What the flusher does next if it is due. -/
def flusherStep? (line : Timeline) (wall : Instant) : Option Timeline :=
  let reporter := line.reporter
  match reporter.flusher with
  | .idle _ =>
    if reporter.stopped || !reporter.queue.isEmpty then some (line.occur wall .wake).2
    else if line.flushTimer.due ≤ line.clock then
      some ({ line with flushTimer := line.flushTimer.tick line.clock }.occur wall .flushTick).2
    else none
  | .delivering delivery =>
    if line.clock < line.flusherDue then none
    else if delivery.pausing then some (line.occur wall .pauseOver).2
    else some (line.occur wall (.answered line.outcome)).2
  | _ => none

/-- What the sender of heartbeats does next if it is due. -/
def heartbeatStep? (line : Timeline) (wall : Instant) : Option Timeline :=
  match line.reporter.heartbeats with
  | .idle =>
    if line.reporter.stopped then some (line.occur wall .heartbeatTick).2
    else if line.heartbeatTimer.due ≤ line.clock then
      some ({ line with heartbeatTimer := line.heartbeatTimer.tick line.clock }.occur wall
        .heartbeatTick).2
    else none
  | .sending =>
    if line.heartbeatDue ≤ line.clock then some (line.occur wall .heartbeatAnswered).2 else none
  | _ => none

/-- What the first of the collectors that is due does next. It ends when the reporter takes no more
snapshots. -/
def collectorStep? (line : Timeline) (wall : Instant) : Option Timeline := do
  let isDue := fun (collector : Collector) =>
    !collector.finished && collector.timer.due ≤ line.clock
  let place ← line.collectors.findIdx? isDue
  let collector ← line.collectors[place]?
  let ticked := { collector with
    timer := collector.timer.tick line.clock
    source := collector.source.tail }
  match collector.source with
  | some snapshot :: _ =>
    let (effects, line) := line.occur wall (.offer snapshot)
    let ended := effects.any fun
      | .refused .stopped => true
      | _ => false
    return { line with collectors := line.collectors.set place { ticked with finished := ended } }
  | _ => return { line with collectors := line.collectors.set place ticked }

/-- The next thing that is due now. -/
def dueStep? (line : Timeline) (wall : Instant) : Option Timeline :=
  (line.flusherStep? wall).or ((line.heartbeatStep? wall).or (line.collectorStep? wall))

/-- The times at which something will be due. -/
def dueTimes (line : Timeline) : List Nat :=
  let flusher := match line.reporter.flusher with
    | .idle _ => [line.flushTimer.due]
    | .delivering _ => [line.flusherDue]
    | _ => []
  let heartbeat := match line.reporter.heartbeats with
    | .idle => [line.heartbeatTimer.due]
    | .sending => [line.heartbeatDue]
    | _ => []
  let running := line.collectors.filter fun collector => !collector.finished
  flusher ++ heartbeat ++ running.map fun collector => collector.timer.due

/-- The time to which the clock moves when nothing is due, at most the given one. -/
def nextTime (line : Timeline) (limit : Nat) : Nat :=
  (line.dueTimes.filter (line.clock < ·)).foldl min limit

/-- Run until the clock has come to a time and nothing is due any more, or until a condition holds. -/
def runUntil (wall : Instant) (limit : Nat) (halts : Timeline → Bool) : Nat → Timeline → Timeline
  | 0, line => line
  | fuel + 1, line =>
    if halts line then line
    else
      match line.dueStep? wall with
      | some line => runUntil wall limit halts fuel line
      | none =>
        if line.clock < limit then
          runUntil wall limit halts fuel { line with clock := line.nextTime limit }
        else line

/-- A bound for the steps that are left before the clock has come to a time. A snapshot that is queued or in hand
can begin one delivery, and has to be taken in hand before, and every attempt of the script can fail and be paused
after. -/
def stepBound (line : Timeline) (limit : Nat) : Nat :=
  let queued := line.reporter.queue.length
  3 * queued + min 1 queued + line.reporter.flusher.turnsLeft line.outcome + 2 * line.sends.length +
    line.flushTimer.ticksLeft line.clock limit +
    line.reporter.heartbeats.turnsLeft (line.heartbeatTimer.ticksLeft line.clock limit) +
    Collector.turnsLeftOfAll line.clock limit line.collectors + (limit - line.clock)

/-- Run everything that is due by a time, and set the clock to it. -/
def runTo (line : Timeline) (wall : Instant) (limit : Nat) : Timeline :=
  line.runUntil wall limit (fun _ => false) (line.stepBound limit)

/-- Run everything that is due now. -/
def settle (line : Timeline) (wall : Instant) : Timeline := line.runTo wall line.clock

/-- Let a number of milliseconds pass. -/
def advance (line : Timeline) (wall : Instant) (time : Nat) : Timeline :=
  line.runTo wall (line.clock + time)

/-- Offer snapshots one after another before anything else runs. -/
def offerAll (line : Timeline) (wall : Instant) (snapshots : List Snapshot) :
    List (Except DeliveryError Unit) × Timeline :=
  snapshots.foldl
    (fun (results, line) snapshot =>
      let (effects, line) := line.occur wall (.offer snapshot)
      let result := effects.findSome? fun
        | .refused error => some (.error error)
        | _ => none
      (results ++ [result.getD (.ok ())], line))
    ([], line)

/-- Stop the reporter and wait until its tasks have ended, but no longer than the settings allow. What
is due at the time at which the wait ends comes too late. -/
def stop (line : Timeline) (wall : Instant) : Timeline :=
  let line := (line.occur wall .stop).2
  if line.reporter.isRunning then
    let limit := line.clock + line.reporter.settings.shutdownTimeout.toNat
    let isOver := fun (line : Timeline) => !line.reporter.isRunning || limit ≤ line.clock
    let waited := line.runUntil wall limit isOver (line.stepBound limit)
    if waited.reporter.isRunning then (waited.occur wall .abandon).2 else waited
  else line

/-- Take snapshots from a source once a period, the first one now. -/
def collect (line : Timeline) (period : Nat) (source : List (Option Snapshot)) : Timeline :=
  let finished := line.cancelled || period = 0
  { line with
    collectors := line.collectors ++ [{ timer := ⟨line.clock, period⟩, source, finished }] }

/-- End the collectors, also those to come. -/
def cancelCollectors (line : Timeline) : Timeline :=
  { line with
    cancelled := true
    collectors := line.collectors.map fun collector => { collector with finished := true } }

end Timeline

end FleetTraffic
