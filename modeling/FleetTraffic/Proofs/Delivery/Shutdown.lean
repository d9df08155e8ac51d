import FleetTraffic.Proofs.Delivery.Accounting

/-!
# Reporters with a clock

Stopping a reporter sets a time at which the rest is abandoned. What the flusher has in hand at the stop is
not lost with it, because the flusher takes its turn before that time, and a stopped flusher that takes its
turn delivers what it has in hand. So the accounts hold at every moment, however long the network takes to
answer and whether it answers at all.
-/

namespace FleetTraffic

namespace Reporter

/-- Whether the flusher waits for snapshots. -/
def isWaiting (reporter : Reporter) : Bool :=
  match reporter.flusher with
  | .idle _ => true
  | _ => false

/-- Only a flusher that waits has something in hand. -/
theorem inHand_eq_nil {reporter : Reporter} (busy : reporter.isWaiting = false) : reporter.inHand = [] := by
  unfold inHand
  split
  next pending idle =>
    rw [isWaiting, idle] at busy
    cases busy
  next => rfl

end Reporter

/-- The trace of a reporter with a clock, in milliseconds. -/
structure ClockedTrace where
  trace : ReporterTrace
  clock : Nat := 0
  /-- When the rest will be abandoned, once the reporter was stopped. -/
  deadline? : Option Nat := none

namespace ClockedTrace

/-- Whether an event may happen now: the rest is abandoned only when stopping has taken too long, and the
flusher does not fail. Everything else may happen at any time. -/
def Allows (clocked : ClockedTrace) : ReporterEvent → Prop
  | .abandon => ∃ deadline, clocked.deadline? = some deadline ∧ deadline ≤ clocked.clock
  | .flusherFails => False
  | _ => True

/-- The trace after an event. The first stop sets the deadline. -/
def after (clocked : ClockedTrace) (now : Instant) (event : ReporterEvent) : ClockedTrace where
  trace := clocked.trace.after now event
  clock := clocked.clock
  deadline? :=
    match event with
    | .stop =>
      let timeout := clocked.trace.reporter.settings.shutdownTimeout.toNat
      some (clocked.deadline?.getD (clocked.clock + timeout))
    | _ => clocked.deadline?

/-- The trace after some time without an event. -/
def wait (clocked : ClockedTrace) (time : Nat) : ClockedTrace :=
  { clocked with clock := clocked.clock + time }

/-- Whether some time may pass. A flusher that was told to stop takes its turn before the deadline, so at the
deadline it does not wait for snapshots any more. -/
def MayWait (clocked : ClockedTrace) (time : Nat) : Prop :=
  ∀ deadline ∈ clocked.deadline?, deadline ≤ clocked.clock + time →
    clocked.trace.reporter.isWaiting = false

/-- The traces that a reporter may come to. Events follow one another in any order with any time between them,
as long as the flusher gets its turn. -/
inductive Reachable (settings : ReporterSettings) (identity : AgentIdentity) : ClockedTrace → Prop where
  | fresh : Reachable settings identity { trace := .fresh settings identity }
  | event {clocked : ClockedTrace} (before : Reachable settings identity clocked) (now : Instant)
      (event : ReporterEvent) (allowed : clocked.Allows event) :
      Reachable settings identity (clocked.after now event)
  | pass {clocked : ClockedTrace} (before : Reachable settings identity clocked) (time : Nat)
      (turn : clocked.MayWait time) : Reachable settings identity (clocked.wait time)

/-- What holds of every reachable trace: the accounts are kept, and where a stopped flusher still has
something in hand its deadline lies ahead. -/
structure Patient (settings : ReporterSettings) (clocked : ClockedTrace) : Prop where
  orderly : clocked.trace.Orderly
  settings : clocked.trace.reporter.settings = settings
  told : clocked.deadline? ≠ none → clocked.trace.reporter.stopped = true
  ahead : clocked.trace.reporter.stopped = true → clocked.trace.reporter.inHand ≠ [] →
    ∀ deadline ∈ clocked.deadline?, clocked.clock < deadline

variable {settings : ReporterSettings} {clocked : ClockedTrace}

/-- When a reporter may be abandoned, its flusher has nothing in hand. -/
theorem inHand_of_allowed (patient : clocked.Patient settings) (allowed : clocked.Allows .abandon)
    (told : clocked.trace.reporter.stopped = true) : clocked.trace.reporter.inHand = [] := by
  by_contra some
  obtain ⟨deadline, set, passed⟩ := allowed
  have ahead := patient.ahead told some deadline set
  omega

/-- A deadline that is set stays as it is. -/
theorem deadline?_after_of_some (now : Instant) (event : ReporterEvent) {deadline : Nat}
    (set : clocked.deadline? = some deadline) : (clocked.after now event).deadline? = some deadline := by
  cases event with
  | stop => simp [after, set]
  | _ => exact set

/-- Only a stop sets a deadline, the time that stopping may take from now. -/
theorem deadline?_after_of_none (now : Instant) {event : ReporterEvent} {deadline : Nat}
    (unset : clocked.deadline? = none) (set : (clocked.after now event).deadline? = some deadline) :
    event = .stop ∧ deadline = clocked.clock + clocked.trace.reporter.settings.shutdownTimeout.toNat := by
  cases event with
  | stop =>
    simp only [after, unset, Option.getD_none, Option.some.injEq] at set
    exact ⟨rfl, set.symm⟩
  | _ => exact nomatch unset.symm.trans set

/-- An event that may happen leaves the deadline ahead of what a stopped flusher has in hand: the first stop
sets it ahead, and any other event leaves both as they are or empties the hand. -/
theorem patient_after (positive : 0 < settings.shutdownTimeout) (patient : clocked.Patient settings)
    (now : Instant) {event : ReporterEvent} (allowed : clocked.Allows event) :
    (clocked.after now event).Patient settings := by
  have move := clocked.trace.reporter.move_step now event
  have stopped := Reporter.stopped_of_move move
  refine ⟨?_, (Reporter.same_of_move move).1.trans patient.settings, ?_, ?_⟩
  · refine ReporterTrace.orderly_of_move patient.orderly move ?_ ?_
    · rintro rfl
      exact allowed
    · rintro rfl
      exact inHand_of_allowed patient allowed
  · intro set
    cases before : clocked.deadline? with
    | some deadline => exact stopped.mpr (.inl (patient.told (by simp [before])))
    | none =>
      obtain ⟨deadline, set⟩ := Option.ne_none_iff_exists'.mp set
      exact stopped.mpr (.inr (deadline?_after_of_none now before set).1)
  · intro _ held deadline set
    cases before : clocked.deadline? with
    | some former =>
      have told := patient.told (by simp [before])
      have same := (deadline?_after_of_some now event before).symm.trans set
      have kept : clocked.trace.reporter.inHand ≠ [] := by
        rcases Reporter.inHand_of_move move told with kept | empty
        · exact kept ▸ held
        · exact absurd empty held
      exact patient.ahead told kept deadline (before.trans same)
    | none =>
      have timeout : 0 < settings.shutdownTimeout.toNat := positive
      have set := (deadline?_after_of_none now before set).2
      rw [patient.settings] at set
      change clocked.clock < deadline
      omega

/-- When the clock comes to the deadline, the flusher has nothing in hand. -/
theorem patient_wait (patient : clocked.Patient settings) {time : Nat} (turn : clocked.MayWait time) :
    (clocked.wait time).Patient settings where
  orderly := patient.orderly
  settings := patient.settings
  told := patient.told
  ahead := by
    intro _ held deadline set
    by_contra passed
    exact held (Reporter.inHand_eq_nil (turn deadline set (Nat.le_of_not_lt passed)))

/-- Every reachable trace is patient, by induction on how it was reached. -/
theorem patient_of_reachable {identity : AgentIdentity} (positive : 0 < settings.shutdownTimeout)
    (reachable : Reachable settings identity clocked) : clocked.Patient settings := by
  induction reachable with
  | fresh => exact ⟨ReporterTrace.orderly_fresh settings identity, rfl, fun set => absurd rfl set, nofun⟩
  | event _ now event allowed patient => exact patient_after positive patient now allowed
  | pass _ _ turn patient => exact patient_wait patient turn

/-- No snapshot is lost silently. At every moment of a reporter that gives the flusher some time to stop, what
was accepted is what was flushed, then what the flusher has in hand, then what is queued, then what was
discarded by a stop; exactly what was turned away by a full queue or discarded is counted; and neither the
batches nor the queue are greater than they may be. -/
theorem nothing_lost_silently {identity : AgentIdentity} (positive : 0 < settings.shutdownTimeout)
    (reachable : Reachable settings identity clocked) : clocked.trace.Accounted :=
  (patient_of_reachable positive reachable).orderly.toAccounted

/-- The trace after several events at one time. -/
def afterAll (clocked : ClockedTrace) (now : Instant) (events : List ReporterEvent) : ClockedTrace :=
  events.foldl (fun clocked event => clocked.after now event) clocked

/-- Events that may happen at any time lead to reachable traces. -/
theorem reachable_afterAll {identity : AgentIdentity} (before : Reachable settings identity clocked)
    (now : Instant) (events : List ReporterEvent)
    (allowed : ∀ event ∈ events, ∀ clocked : ClockedTrace, clocked.Allows event) :
    Reachable settings identity (clocked.afterAll now events) := by
  induction events generalizing clocked with
  | nil => exact before
  | cons event rest induction =>
    have first := Reachable.event before now event (allowed event List.mem_cons_self clocked)
    exact induction first fun event member => allowed event (List.mem_cons_of_mem _ member)

/-- Batches of two snapshots and a queue of four. -/
def inPairs : ReporterSettings := { serverUrl := "", batchSize := 2 }

/-- A snapshot that is told from others by the name of its host. -/
def named (hostname : String) : Snapshot := { hostname }

/-- The first snapshot is in hand, four more are queued and one is turned away when the reporter is stopped.
The flusher begins to deliver the first two, and the network does not answer. -/
def hanging : ClockedTrace :=
  let identity : AgentIdentity := ⟨"agent", "host", .epoch⟩
  ClockedTrace.afterAll { trace := .fresh inPairs identity } .epoch
    [.start, .offer (named "a"), .wake, .offer (named "b"), .offer (named "c"), .offer (named "d"),
      .offer (named "e"), .offer (named "f"), .stop, .wake]

/-- When the time that stopping may take is over, the three snapshots that are still queued are discarded and
counted beside the one that was turned away. -/
theorem hanging_abandoned :
    let left := (hanging.wait 5000).after .epoch .abandon
    (0 < inPairs.shutdownTimeout ∧ Reachable inPairs ⟨"agent", "host", .epoch⟩ left) ∧
    left.trace.accepted = ["a", "b", "c", "d", "e"].map named ∧
    left.trace.flushed = [[named "a", named "b"]] ∧
    left.trace.discarded = ["c", "d", "e"].map named ∧ left.trace.reporter.stats.dropped = 4 ∧
    left.trace.Accounted := by
  intro left
  have reachable : Reachable inPairs ⟨"agent", "host", .epoch⟩ hanging :=
    reachable_afterAll .fresh .epoch _ (by simp [Allows])
  have turn : hanging.MayWait 5000 := fun _ _ _ => by decide +kernel
  have passed : (hanging.wait 5000).Allows .abandon := ⟨5000, by decide +kernel, by decide +kernel⟩
  have ended : Reachable inPairs ⟨"agent", "host", .epoch⟩ left :=
    .event (.pass reachable 5000 turn) .epoch .abandon passed
  have positive : 0 < inPairs.shutdownTimeout := by decide
  exact ⟨⟨positive, ended⟩, by decide +kernel, by decide +kernel, by decide +kernel, by decide +kernel,
    nothing_lost_silently positive ended⟩

end ClockedTrace

end FleetTraffic
