import FleetTraffic.Delivery.Error
import FleetTraffic.Delivery.Identity
import FleetTraffic.Settings.Agent
import FleetTraffic.Json.Printer
import FleetTraffic.Wire.Report

/-!
# The reporter

An agent offers its snapshots to a reporter, which holds them in a bounded queue. A flusher takes them
out of the queue, collects them into batches, and delivers a batch when it is full or when the flush
timer ticks. A delivery that fails is tried again after a pause, as long as the error may pass and
retries are left. Beside the flusher, a heartbeat is sent at every tick of its own timer.

When the reporter is stopped, the flusher finishes the delivery in progress, delivers what is queued
and ends. If that takes too long, the rest is abandoned. A flusher that fails takes what is queued with
it, and the reporter takes nothing more.

The reporter is a state and a step for each event: what the agent does, what the timers do and what the
network answers. Nothing is said here about when the events happen. Effects list what a step does to
the outside, in order.
-/

namespace FleetTraffic

/-- The numbers that a reporter keeps. They have no bound here. An agent keeps them in words of 64 bits, which no
agent runs long enough to fill. -/
structure DeliveryStats where
  /-- Batches whose delivery has begun. -/
  total : Nat := 0
  /-- Batches that were delivered. -/
  delivered : Nat := 0
  /-- Batches that were given up. -/
  failed : Nat := 0
  /-- Attempts after the first one of their batch. -/
  retries : Nat := 0
  /-- Snapshots that were turned away or discarded. -/
  dropped : Nat := 0
  lastDelivery : Option Instant := none
  lastError : Option String := none
  /-- Snapshots in the latest batch. -/
  batchSize : Nat := 0
  deriving DecidableEq

/-- A batch on its way to the server. -/
structure Delivery where
  batch : List Snapshot
  /-- The request, written once and sent with every attempt. -/
  body : String
  /-- The number of attempts after the first one. -/
  retries : Nat
  /-- Whether the next attempt is waited for. -/
  pausing : Bool
  deriving DecidableEq

/-- What the flusher is doing. -/
inductive Flusher where
  /-- It has not been started. -/
  | unstarted
  /-- It waits for snapshots, with some of an unfinished batch in hand. -/
  | idle (pending : List Snapshot)
  /-- It delivers a batch. -/
  | delivering (delivery : Delivery)
  /-- It has ended. -/
  | finished
  /-- It has failed. -/
  | failed
  deriving DecidableEq

/-- What the sender of heartbeats is doing. -/
inductive HeartbeatSender where
  | unstarted
  | idle
  | sending
  | finished
  deriving DecidableEq

/-- A reporter between two events. -/
structure Reporter where
  settings : ReporterSettings
  identity : AgentIdentity
  queue : List Snapshot := []
  stopped : Bool := false
  flusher : Flusher := .unstarted
  heartbeats : HeartbeatSender := .unstarted
  stats : DeliveryStats := {}
  deriving DecidableEq

/-- Something that happens to a reporter. -/
inductive ReporterEvent where
  /-- A snapshot is offered. -/
  | offer (snapshot : Snapshot)
  /-- The flusher and the sender of heartbeats are started. -/
  | start
  /-- The reporter is stopped. -/
  | stop
  /-- The flusher looks at the queue. -/
  | wake
  /-- The flush timer ticks. -/
  | flushTick
  /-- The network answers an attempt to deliver. -/
  | answered (outcome : Except DeliveryError Unit)
  /-- The pause before the next attempt is over. -/
  | pauseOver
  /-- The heartbeat timer ticks. -/
  | heartbeatTick
  /-- The network answers a heartbeat. -/
  | heartbeatAnswered
  /-- Stopping has taken too long. -/
  | abandon
  /-- The flusher fails. -/
  | flusherFails
  /-- The sender of heartbeats fails. -/
  | heartbeatsFail

/-- Something that a reporter does to the outside. -/
inductive ReporterEffect where
  /-- A snapshot was accepted. -/
  | accepted (snapshot : Snapshot)
  /-- A snapshot was turned away. -/
  | refused (error : DeliveryError)
  /-- Snapshots were discarded. -/
  | discarded (snapshots : List Snapshot)
  /-- Snapshots were lost with the flusher. -/
  | lost (snapshots : List Snapshot)
  /-- The delivery of a batch has begun. -/
  | flushed (batch : List Snapshot)
  /-- A request is sent. -/
  | send (body : String)
  /-- The next attempt is waited for. -/
  | pause
  /-- A heartbeat is sent. -/
  | sendHeartbeat (heartbeat : Heartbeat)

namespace Reporter

/-- The number of snapshots in a full batch. -/
def batchLimit (reporter : Reporter) : Nat := max reporter.settings.batchSize.toNat 1

/-- The number of snapshots that the queue holds: two batches, and at least one snapshot. -/
def capacity (reporter : Reporter) : Nat := max (2 * reporter.settings.batchSize.toNat) 1

/-- The reporter that is made for settings, with `greatest` as the number of places that a queue can have at
most. Making it fails if the number of places does not fit into a word, or if there are too many. -/
def create? (greatest : Nat) (settings : ReporterSettings) (identity : AgentIdentity) : Option Reporter := do
  let places ← settings.queueCapacity?
  if max places.toNat 1 ≤ greatest then some { settings, identity } else none

/-- The snapshot that stands for a batch. -/
def collapse? (mode : FlushMode) (batch : List Snapshot) : Option Snapshot :=
  match mode with
  | .latest => batch.getLast?
  | .merge => Snapshot.mergeAll? batch

/-- The request for a batch. -/
def request? (settings : ReporterSettings) (identity : AgentIdentity) (now : Instant)
    (batch : List Snapshot) : Option ReportRequest :=
  (collapse? settings.flushMode batch).map fun snapshot =>
    { agentId := identity.agentId
      hostname := identity.hostname
      timestamp := now
      startup := some identity.startup
      snapshot }

/-- The text of a request. -/
def bodyOf (request : ReportRequest) : String := (JsonCodec.request.write request).toText

/-- The heartbeat that an agent sends. -/
def heartbeatOf (identity : AgentIdentity) (now : Instant) : Heartbeat where
  agentId := identity.agentId
  hostname := identity.hostname
  version := serviceVersion
  startup := identity.startup
  lastSeen := now
  status := "running"

/-- Begin to deliver a batch. An empty batch makes no request. -/
def beginDelivery (reporter : Reporter) (now : Instant) (batch : List Snapshot) :
    Reporter × List ReporterEffect :=
  match request? reporter.settings reporter.identity now batch with
  | none => ({ reporter with flusher := .idle [] }, [])
  | some request =>
    let body := bodyOf request
    ({ reporter with
        flusher := .delivering { batch, body, retries := 0, pausing := false }
        stats := { reporter.stats with
          total := reporter.stats.total + 1
          batchSize := batch.length } },
      [.flushed batch, .send body])

/-- Take a snapshot in, unless nobody will take it out again or the queue is full. -/
def offer (reporter : Reporter) (snapshot : Snapshot) : Reporter × List ReporterEffect :=
  if reporter.stopped || reporter.flusher = .failed then (reporter, [.refused .stopped])
  else if reporter.queue.length < reporter.capacity then
    ({ reporter with queue := reporter.queue ++ [snapshot] }, [.accepted snapshot])
  else
    ({ reporter with stats := { reporter.stats with dropped := reporter.stats.dropped + 1 } },
      [.refused .queueFull])

/-- Start the flusher and the sender of heartbeats, once. -/
def start (reporter : Reporter) : Reporter :=
  match reporter.flusher with
  | .unstarted => { reporter with flusher := .idle [], heartbeats := .idle }
  | _ => reporter

/-- The reporter without what is queued, which counts as dropped. -/
def discardQueue (reporter : Reporter) : Reporter × List ReporterEffect :=
  ({ reporter with
      queue := []
      stats := { reporter.stats with
        dropped := reporter.stats.dropped + reporter.queue.length } },
    [.discarded reporter.queue])

/-- Accept no more snapshots. A flusher that was never started never will be, and what is queued is
discarded. -/
def stop (reporter : Reporter) : Reporter × List ReporterEffect :=
  let stopped := { reporter with stopped := true }
  match reporter.flusher with
  | .unstarted => { stopped with flusher := .finished, heartbeats := .finished }.discardQueue
  | _ => (stopped, [])

/-- Fill the batch in hand from the queue. A full batch is delivered at once; a stopped flusher also
delivers what is less, and ends when nothing is left. -/
def wake (reporter : Reporter) (now : Instant) : Reporter × List ReporterEffect :=
  match reporter.flusher with
  | .idle pending =>
    let waiting := pending ++ reporter.queue
    let batch := waiting.take reporter.batchLimit
    let taken := { reporter with queue := waiting.drop reporter.batchLimit }
    if batch.length = reporter.batchLimit then taken.beginDelivery now batch
    else if reporter.stopped then
      if batch = [] then ({ taken with flusher := .finished }, []) else taken.beginDelivery now batch
    else ({ taken with flusher := .idle batch }, [])
  | _ => (reporter, [])

/-- Deliver the batch in hand, unless it is empty. -/
def flushTick (reporter : Reporter) (now : Instant) : Reporter × List ReporterEffect :=
  match reporter.flusher with
  | .idle pending => if pending = [] then (reporter, []) else reporter.beginDelivery now pending
  | _ => (reporter, [])

/-- Take the answer to an attempt: the batch is delivered, tried again later, or given up. -/
def answered (reporter : Reporter) (now : Instant) (outcome : Except DeliveryError Unit) :
    Reporter × List ReporterEffect :=
  match reporter.flusher with
  | .delivering delivery =>
    if delivery.pausing then (reporter, [])
    else
      let stats := reporter.stats
      match outcome with
      | .ok () =>
        ({ reporter with
            flusher := .idle []
            stats := { stats with delivered := stats.delivered + 1, lastDelivery := some now } }, [])
      | .error error =>
        if error.isRetryable && delivery.retries < reporter.settings.retryCount.toNat then
          ({ reporter with
              flusher := .delivering
                { delivery with retries := delivery.retries + 1, pausing := true }
              stats := { stats with retries := stats.retries + 1 } },
            [.pause])
        else
          ({ reporter with
              flusher := .idle []
              stats := { stats with failed := stats.failed + 1, lastError := some error.message } }, [])
  | _ => (reporter, [])

/-- Send the request again. -/
def pauseOver (reporter : Reporter) : Reporter × List ReporterEffect :=
  match reporter.flusher with
  | .delivering delivery =>
    if delivery.pausing then
      ({ reporter with flusher := .delivering { delivery with pausing := false } },
        [.send delivery.body])
    else (reporter, [])
  | _ => (reporter, [])

/-- Send a heartbeat, or end the sender of heartbeats of a stopped reporter. -/
def heartbeatTick (reporter : Reporter) (now : Instant) : Reporter × List ReporterEffect :=
  match reporter.heartbeats with
  | .idle =>
    if reporter.stopped then ({ reporter with heartbeats := .finished }, [])
    else
      ({ reporter with heartbeats := .sending },
        [.sendHeartbeat (heartbeatOf reporter.identity now)])
  | _ => (reporter, [])

/-- Wait for the next tick after a heartbeat, whatever the answer to it. -/
def heartbeatAnswered (reporter : Reporter) : Reporter :=
  match reporter.heartbeats with
  | .sending => { reporter with heartbeats := .idle }
  | _ => reporter

/-- The error that is noted for a batch that is abandoned. -/
def abandonedError : String := "shutdown timed out during delivery"

/-- End both tasks of a stopped reporter where they are. A batch in delivery counts as failed, and what
is queued is discarded. -/
def abandon (reporter : Reporter) : Reporter × List ReporterEffect :=
  if reporter.stopped then
    let stats := reporter.stats
    let unsettled := stats.total - (stats.delivered + stats.failed)
    { reporter with
      flusher := .finished
      heartbeats := .finished
      stats := { stats with
        failed := stats.failed + unsettled
        lastError := if 0 < unsettled then some abandonedError else stats.lastError } }.discardQueue
  else (reporter, [])

/-- Lose the flusher with what it has in hand, and what is queued. -/
def flusherFails (reporter : Reporter) : Reporter × List ReporterEffect :=
  match reporter.flusher with
  | .idle pending =>
    ({ reporter with flusher := .failed, queue := [] }, [.lost (pending ++ reporter.queue)])
  | _ => (reporter, [])

/-- Lose the sender of heartbeats. -/
def heartbeatsFail (reporter : Reporter) : Reporter :=
  match reporter.heartbeats with
  | .idle => { reporter with heartbeats := .finished }
  | _ => reporter

/-- What an event makes of a reporter, and what the reporter does to the outside. -/
def step (reporter : Reporter) (now : Instant) : ReporterEvent → Reporter × List ReporterEffect
  | .offer snapshot => reporter.offer snapshot
  | .start => (reporter.start, [])
  | .stop => reporter.stop
  | .wake => reporter.wake now
  | .flushTick => reporter.flushTick now
  | .answered outcome => reporter.answered now outcome
  | .pauseOver => reporter.pauseOver
  | .heartbeatTick => reporter.heartbeatTick now
  | .heartbeatAnswered => (reporter.heartbeatAnswered, [])
  | .abandon => reporter.abandon
  | .flusherFails => reporter.flusherFails
  | .heartbeatsFail => (reporter.heartbeatsFail, [])

/-- Whether the flusher and the sender of heartbeats are running. -/
def isRunning (reporter : Reporter) : Bool :=
  let flushing := match reporter.flusher with
    | .idle _ => true
    | .delivering _ => true
    | _ => false
  let beating := match reporter.heartbeats with
    | .idle => true
    | .sending => true
    | _ => false
  flushing || beating

end Reporter

end FleetTraffic
