import FleetTraffic.Delivery.Reporter
import Mathlib

/-!
# The trace of a reporter

What a reporter has done to the outside so far is its trace. From the trace follow the snapshots that were
accepted, the batches whose delivery has begun, the snapshots that were discarded, and how many were turned
away because the queue was full. None of this is remembered by the reporter itself, so it can be held
against what the reporter holds and counts.
-/

namespace FleetTraffic

namespace ReporterEffect

/-- The snapshot that was accepted. -/
def accepted? : ReporterEffect → Option Snapshot
  | .accepted snapshot => some snapshot
  | _ => none

/-- The batch whose delivery has begun. -/
def flushed? : ReporterEffect → Option (List Snapshot)
  | .flushed batch => some batch
  | _ => none

/-- The snapshots that were discarded. -/
def discards : ReporterEffect → List Snapshot
  | .discarded snapshots => snapshots
  | _ => []

/-- Whether a snapshot was turned away because the queue was full. -/
def isQueueFull : ReporterEffect → Bool
  | .refused .queueFull => true
  | _ => false

end ReporterEffect

/-- A reporter and what it has done to the outside so far, in order. -/
structure ReporterTrace where
  reporter : Reporter
  effects : List ReporterEffect := []

namespace ReporterTrace

/-- The trace of a reporter to which nothing has happened yet. -/
def fresh (settings : ReporterSettings) (identity : AgentIdentity) : ReporterTrace where
  reporter := { settings, identity }

/-- The trace after an event. -/
def after (trace : ReporterTrace) (now : Instant) (event : ReporterEvent) : ReporterTrace where
  reporter := (trace.reporter.step now event).1
  effects := trace.effects ++ (trace.reporter.step now event).2

/-- The snapshots that were accepted, in order. -/
def accepted (trace : ReporterTrace) : List Snapshot :=
  trace.effects.filterMap ReporterEffect.accepted?

/-- The batches whose delivery has begun, in order. -/
def flushed (trace : ReporterTrace) : List (List Snapshot) :=
  trace.effects.filterMap ReporterEffect.flushed?

/-- The snapshots that were discarded. -/
def discarded (trace : ReporterTrace) : List Snapshot :=
  trace.effects.flatMap ReporterEffect.discards

/-- The number of snapshots that were turned away because the queue was full. -/
def turnedAway (trace : ReporterTrace) : Nat := trace.effects.countP ReporterEffect.isQueueFull

section Extension

variable (trace : ReporterTrace) (reporter : Reporter) (effects : List ReporterEffect)

/-- Further effects accept further snapshots. -/
theorem accepted_extend : accepted ⟨reporter, trace.effects ++ effects⟩ =
    trace.accepted ++ effects.filterMap ReporterEffect.accepted? := List.filterMap_append

/-- Further effects begin the delivery of further batches. -/
theorem flushed_extend : flushed ⟨reporter, trace.effects ++ effects⟩ =
    trace.flushed ++ effects.filterMap ReporterEffect.flushed? := List.filterMap_append

/-- Further effects discard further snapshots. -/
theorem discarded_extend : discarded ⟨reporter, trace.effects ++ effects⟩ =
    trace.discarded ++ effects.flatMap ReporterEffect.discards := List.flatMap_append

/-- Further effects turn further snapshots away. -/
theorem turnedAway_extend : turnedAway ⟨reporter, trace.effects ++ effects⟩ =
    trace.turnedAway + effects.countP ReporterEffect.isQueueFull := List.countP_append

end Extension

end ReporterTrace

namespace Reporter

/-- The snapshots of an unfinished batch that the flusher has in hand. -/
def inHand (reporter : Reporter) : List Snapshot :=
  match reporter.flusher with
  | .idle pending => pending
  | _ => []

/-- A batch that is not empty makes a request. -/
theorem request?_of_ne_nil (settings : ReporterSettings) (identity : AgentIdentity) (now : Instant)
    {batch : List Snapshot} (nonempty : batch ≠ []) :
    ∃ snapshot, collapse? settings.flushMode batch = some snapshot ∧
      request? settings identity now batch =
        some ⟨identity.agentId, identity.hostname, now, some identity.startup, snapshot⟩ := by
  have collapsed : (collapse? settings.flushMode batch).isSome = true := by
    obtain ⟨first, rest, rfl⟩ := List.exists_cons_of_ne_nil nonempty
    cases settings.flushMode with
    | latest => simp [collapse?, List.getLast?_cons]
    | merge => rfl
  obtain ⟨snapshot, found⟩ := Option.isSome_iff_exists.mp collapsed
  exact ⟨snapshot, found, by rw [request?, found, Option.map_some]⟩

/-- The delivery of a batch that is not empty begins with its first attempt. -/
theorem beginDelivery_of_ne_nil (reporter : Reporter) (now : Instant) {batch : List Snapshot}
    (nonempty : batch ≠ []) :
    ∃ request, request? reporter.settings reporter.identity now batch = some request ∧
      reporter.beginDelivery now batch =
        ({ reporter with
            flusher := .delivering { batch, body := bodyOf request, retries := 0, pausing := false }
            stats := { reporter.stats with
              total := reporter.stats.total + 1
              batchSize := batch.length } },
          [.flushed batch, .send (bodyOf request)]) := by
  obtain ⟨snapshot, _, made⟩ := request?_of_ne_nil reporter.settings reporter.identity now nonempty
  exact ⟨_, made, by rw [beginDelivery, made]⟩

/-- A batch has room for a snapshot. -/
theorem batchLimit_pos (reporter : Reporter) : 0 < reporter.batchLimit := by
  rw [batchLimit]
  omega

end Reporter

end FleetTraffic
