import FleetTraffic.Proofs.Delivery.Attempts

/-!
# The batches of a reporter and its counts

The trace of a reporter shows how often each of its batches was sent. What the reporter counts is held against
this tally: it counts each batch once, each but the one in delivery as delivered or given up, and each attempt
beyond the first of its batch when the attempt is decided on. So while a batch waits for its next attempt, the
count is one ahead of the trace. Every step of the reporter keeps the counts and the trace together.
-/

namespace FleetTraffic

/-- How often each batch was sent after a further effect, the latest batch first. A batch begins without an
attempt, and what is sent is an attempt for the latest batch. -/
def ReporterEffect.tally (attempts : List Nat) : ReporterEffect → List Nat
  | .flushed _ => 0 :: attempts
  | .send _ => attempts.modifyHead (· + 1)
  | _ => attempts

/-- The batch that the flusher delivers. -/
def Reporter.delivery? (reporter : Reporter) : Option Delivery :=
  match reporter.flusher with
  | .delivering delivery => some delivery
  | _ => none

/-- A flusher that has ended or failed delivers nothing. -/
theorem Reporter.delivery?_of_isGone {reporter : Reporter} (gone : reporter.isGone = true) :
    reporter.delivery? = none := by
  unfold delivery?
  split
  next delivery delivering => simp [isGone, delivering] at gone
  next => rfl

namespace ReporterTrace

/-- How often each batch was sent, the latest batch first. -/
def attempts (trace : ReporterTrace) : List Nat := trace.effects.foldl ReporterEffect.tally []

/-- The attempts beyond the first one of each batch. -/
def furtherAttempts (trace : ReporterTrace) : Nat := (trace.attempts.map (· - 1)).sum

/-- Further effects are tallied beside the former ones. -/
theorem attempts_extend (trace : ReporterTrace) (reporter : Reporter) (effects : List ReporterEffect) :
    attempts ⟨reporter, trace.effects ++ effects⟩ = effects.foldl ReporterEffect.tally trace.attempts :=
  List.foldl_append

/-- What a reporter counts is what it has done. One attempt is counted that was not made yet if the latest
batch waits for it, or was abandoned while it did. -/
structure Settled (trace : ReporterTrace) (pausing : Bool) : Prop where
  /-- Each batch that has begun counts once. -/
  begun : trace.attempts.length = trace.reporter.stats.total
  /-- No batch was sent less than once, or tried again more often than it may be. -/
  sent : ∀ count ∈ trace.attempts, 1 ≤ count ∧ count ≤ trace.reporter.settings.retryCount.toNat + 1
  /-- Each batch but the one in delivery was either delivered or given up. -/
  balanced : trace.reporter.stats.total =
    trace.reporter.stats.delivered + trace.reporter.stats.failed + trace.reporter.delivery?.isSome.toNat
  /-- Each attempt beyond the first one of its batch counts, and the one that is waited for. -/
  retried : trace.reporter.stats.retries = trace.furtherAttempts + pausing.toNat
  /-- No more attempts count than the batches may have together. -/
  bounded : trace.reporter.stats.retries ≤
    trace.reporter.stats.total * trace.reporter.settings.retryCount.toNat

/-- The latest batch, while it is in delivery, was sent for the first time and then for every retry but the
one that it waits for. -/
def Latest (trace : ReporterTrace) (delivery : Delivery) : Prop :=
  delivery.retries ≤ trace.reporter.settings.retryCount.toNat ∧
    ∃ earlier, trace.attempts = (delivery.retries + (!delivery.pausing).toNat) :: earlier

/-- Whether the batch in delivery waits for its next attempt. -/
def isPausing (trace : ReporterTrace) : Bool := trace.reporter.delivery?.any (·.pausing)

/-- What a step keeps beside what is settled. -/
structure Tallied (trace : ReporterTrace) : Prop extends trace.Settled trace.isPausing where
  latest : ∀ delivery ∈ trace.reporter.delivery?, trace.Latest delivery

/-- A fresh reporter has begun no batch. -/
theorem tallied_fresh (settings : ReporterSettings) (identity : AgentIdentity) :
    (fresh settings identity).Tallied where
  begun := rfl
  sent := nofun
  balanced := rfl
  retried := rfl
  bounded := Nat.zero_le _
  latest := nofun

variable {trace : ReporterTrace} {next : Reporter} {effects : List ReporterEffect}

/-! ## The branches of a step -/

/-- A step that sends nothing and counts neither a batch nor a retry leaves settled what was, as long as every
batch but the one in delivery is still delivered or given up. -/
theorem settled_of_quiet {pausing : Bool} (settled : trace.Settled pausing)
    (settings : next.settings = trace.reporter.settings)
    (quiet : effects.foldl ReporterEffect.tally trace.attempts = trace.attempts)
    (total : next.stats.total = trace.reporter.stats.total)
    (retries : next.stats.retries = trace.reporter.stats.retries)
    (balanced : next.stats.total =
      next.stats.delivered + next.stats.failed + next.delivery?.isSome.toNat) :
    Settled ⟨next, trace.effects ++ effects⟩ pausing := by
  have attempts := (attempts_extend trace next effects).trans quiet
  refine ⟨?_, ?_, balanced, ?_, ?_⟩
  · rw [attempts, total]
    exact settled.begun
  · rw [attempts, settings]
    exact settled.sent
  · rw [furtherAttempts, attempts, retries]
    exact settled.retried
  · rw [retries, total, settings]
    exact settled.bounded

/-- A step that sends nothing, counts no batch and leaves the batch in delivery as it is keeps the tally. -/
theorem tallied_of_same (tallied : trace.Tallied) (settings : next.settings = trace.reporter.settings)
    (quiet : effects.foldl ReporterEffect.tally trace.attempts = trace.attempts)
    (delivery : next.delivery? = trace.reporter.delivery?)
    (counts : next.stats.total = trace.reporter.stats.total ∧
      next.stats.delivered = trace.reporter.stats.delivered ∧
      next.stats.failed = trace.reporter.stats.failed ∧ next.stats.retries = trace.reporter.stats.retries) :
    Tallied ⟨next, trace.effects ++ effects⟩ := by
  obtain ⟨total, delivered, failed, retries⟩ := counts
  have balanced := tallied.balanced
  rw [← total, ← delivered, ← failed, ← delivery] at balanced
  refine ⟨?_, ?_⟩
  · rw [isPausing, delivery]
    exact settled_of_quiet tallied.toSettled settings quiet total retries balanced
  · rw [delivery]
    intro latest delivering
    rw [Latest, settings, attempts_extend, quiet]
    exact tallied.latest latest delivering

/-- The delivery of a batch begins with its first attempt. -/
theorem tallied_begin (tallied : trace.Tallied) {pending batch rest : List Snapshot} {body : String}
    (idle : trace.reporter.flusher = .idle pending) :
    Tallied
      ⟨{ trace.reporter with
          queue := rest
          flusher := .delivering { batch, body, retries := 0, pausing := false }
          stats := { trace.reporter.stats with
            total := trace.reporter.stats.total + 1
            batchSize := batch.length } },
        trace.effects ++ [.flushed batch, .send body]⟩ := by
  have none : trace.reporter.delivery? = none := by rw [Reporter.delivery?, idle]
  have balanced := tallied.balanced
  have retried := tallied.retried
  rw [none] at balanced
  rw [isPausing, none] at retried
  refine ⟨⟨?_, ?_, ?_, ?_, ?_⟩, ?_⟩
  · rw [attempts_extend]
    exact congrArg (· + 1) tallied.begun
  · rw [attempts_extend]
    intro count counted
    rcases List.mem_cons.mp counted with rfl | earlier
    · exact ⟨Nat.le_refl _, Nat.le_add_left _ _⟩
    · exact tallied.sent count earlier
  · exact congrArg (· + 1) balanced
  · rw [furtherAttempts, attempts_extend]
    exact retried.trans (congrArg (· + 0) (Nat.zero_add _).symm)
  · exact tallied.bounded.trans (Nat.mul_le_mul_right _ (Nat.le_succ _))
  · rintro _ ⟨⟩
    exact ⟨Nat.zero_le _, trace.attempts, attempts_extend trace _ _⟩

/-- A batch that was delivered or given up is settled. -/
theorem tallied_settle (tallied : trace.Tallied) {delivery : Delivery}
    (delivering : trace.reporter.flusher = .delivering delivery) (sent : delivery.pausing = false)
    (settings : next.settings = trace.reporter.settings) (idle : next.flusher = .idle [])
    (total : next.stats.total = trace.reporter.stats.total)
    (retries : next.stats.retries = trace.reporter.stats.retries)
    (counted : next.stats.delivered + next.stats.failed =
      trace.reporter.stats.delivered + trace.reporter.stats.failed + 1) :
    Tallied ⟨next, trace.effects ++ []⟩ := by
  have some : trace.reporter.delivery? = some delivery := by rw [Reporter.delivery?, delivering]
  have none : next.delivery? = none := by rw [Reporter.delivery?, idle]
  have balanced := tallied.balanced
  have settled := tallied.toSettled
  rw [some] at balanced
  rw [isPausing, some, Option.any_some, sent] at settled
  refine ⟨?_, ?_⟩
  · rw [isPausing, none]
    refine settled_of_quiet settled settings rfl total retries ?_
    rw [total, counted, none]
    exact balanced
  · rw [none]
    exact nofun

/-- The attempts beyond the first ones are no more than each batch may have. -/
theorem further_le {attempts : List Nat} {limit : Nat} (sent : ∀ count ∈ attempts, count ≤ limit + 1) :
    (attempts.map (· - 1)).sum ≤ attempts.length * limit := by
  have each : ∀ further ∈ attempts.map (· - 1), further ≤ limit := by
    intro further listed
    obtain ⟨count, counted, rfl⟩ := List.mem_map.mp listed
    exact Nat.sub_le_of_le_add (sent count counted)
  simpa using List.sum_le_card_nsmul _ _ each

/-- A batch that will be tried again has one more retry, which is counted before it is made. -/
theorem tallied_pause (tallied : trace.Tallied) {delivery : Delivery}
    (delivering : trace.reporter.flusher = .delivering delivery) (sent : delivery.pausing = false)
    (left : delivery.retries < trace.reporter.settings.retryCount.toNat) :
    Tallied
      ⟨{ trace.reporter with
          flusher := .delivering { delivery with retries := delivery.retries + 1, pausing := true }
          stats := { trace.reporter.stats with retries := trace.reporter.stats.retries + 1 } },
        trace.effects ++ [.pause]⟩ := by
  have some : trace.reporter.delivery? = some delivery := by rw [Reporter.delivery?, delivering]
  have balanced := tallied.balanced
  have retried := tallied.retried
  rw [some] at balanced
  rw [isPausing, some, Option.any_some, sent, Bool.toNat_false, Nat.add_zero] at retried
  obtain ⟨_, earlier, latest⟩ := tallied.latest delivery some
  simp only [sent, Bool.not_false, Bool.toNat_true] at latest
  refine ⟨⟨?_, ?_, ?_, ?_, ?_⟩, ?_⟩
  · rw [attempts_extend]
    exact tallied.begun
  · rw [attempts_extend]
    exact tallied.sent
  · exact balanced
  · rw [furtherAttempts, attempts_extend]
    exact congrArg (· + 1) retried
  · -- The earlier batches have used up what they may, and this one has a retry left.
    have begun := tallied.begun
    have within : ∀ count ∈ earlier, count ≤ trace.reporter.settings.retryCount.toNat + 1 :=
      fun count counted => (tallied.sent count (latest ▸ List.mem_cons_of_mem _ counted)).2
    have others := further_le within
    rw [latest, List.length_cons] at begun
    rw [furtherAttempts, latest, List.map_cons, List.sum_cons, Nat.add_sub_cancel] at retried
    simp only
    rw [← begun, Nat.succ_mul]
    omega
  · rintro _ ⟨⟩
    exact ⟨left, earlier, (attempts_extend trace _ _).trans latest⟩

/-- When the pause is over, the retry that was counted is made. -/
theorem tallied_again (tallied : trace.Tallied) {delivery : Delivery}
    (delivering : trace.reporter.flusher = .delivering delivery) (paused : delivery.pausing = true) :
    Tallied
      ⟨{ trace.reporter with flusher := .delivering { delivery with pausing := false } },
        trace.effects ++ [.send delivery.body]⟩ := by
  have some : trace.reporter.delivery? = some delivery := by rw [Reporter.delivery?, delivering]
  have balanced := tallied.balanced
  have retried := tallied.retried
  rw [some] at balanced
  rw [isPausing, some, Option.any_some, paused, Bool.toNat_true] at retried
  obtain ⟨within, earlier, latest⟩ := tallied.latest delivery some
  simp only [paused, Bool.not_true, Bool.toNat_false, Nat.add_zero] at latest
  have head := tallied.sent delivery.retries (latest ▸ List.mem_cons_self)
  have sends : trace.attempts.modifyHead (· + 1) = (delivery.retries + 1) :: earlier := by
    rw [latest, List.modifyHead_cons]
  have attempts (reporter : Reporter) :
      ReporterTrace.attempts ⟨reporter, trace.effects ++ [.send delivery.body]⟩ =
        (delivery.retries + 1) :: earlier := (attempts_extend trace reporter _).trans sends
  refine ⟨⟨?_, ?_, ?_, ?_, ?_⟩, ?_⟩
  · rw [attempts, List.length_cons, ← tallied.begun, latest, List.length_cons]
  · rw [attempts]
    intro count counted
    rcases List.mem_cons.mp counted with rfl | former
    · exact ⟨Nat.le_add_left _ _, Nat.succ_le_succ within⟩
    · exact tallied.sent count (latest ▸ List.mem_cons_of_mem _ former)
  · exact balanced
  · rw [furtherAttempts, latest, List.map_cons, List.sum_cons] at retried
    rw [furtherAttempts, attempts, List.map_cons, List.sum_cons, Nat.add_sub_cancel]
    change trace.reporter.stats.retries = _ + 0
    omega
  · exact tallied.bounded
  · rintro _ ⟨⟩
    exact ⟨within, earlier, attempts _⟩

/-- Every step but an abandonment keeps the tally. -/
theorem tallied_of_move (tallied : trace.Tallied) {now : Instant} {event : ReporterEvent}
    (move : trace.reporter.Move now event next effects) (kept : event ≠ .abandon) :
    Tallied ⟨next, trace.effects ++ effects⟩ := by
  cases move with
  | beat _ _ heartbeats sends =>
    rcases sends with rfl | ⟨heartbeat, rfl⟩ <;>
      exact tallied_of_same tallied rfl rfl rfl ⟨rfl, rfl, rfl, rfl⟩
  | same | refuse | turnAway | accept | tell =>
    exact tallied_of_same tallied rfl rfl rfl ⟨rfl, rfl, rfl, rfl⟩
  | start unstarted | withdraw unstarted =>
    refine tallied_of_same tallied rfl rfl ?_ ⟨rfl, rfl, rfl, rfl⟩
    rw [Reporter.delivery?, Reporter.delivery?, unstarted]
  | take idle | finish idle | lose idle =>
    refine tallied_of_same tallied rfl rfl ?_ ⟨rfl, rfl, rfl, rfl⟩
    rw [Reporter.delivery?, Reporter.delivery?, idle]
  | abandon => exact absurd rfl kept
  | begin _ idle => exact tallied_begin tallied idle
  | deliver delivering sent =>
    exact tallied_settle tallied delivering sent rfl rfl rfl rfl (Nat.add_right_comm _ _ _)
  | giveUp _ delivering sent =>
    exact tallied_settle tallied delivering sent rfl rfl rfl rfl (Nat.add_assoc _ _ _).symm
  | pause _ delivering sent left => exact tallied_pause tallied delivering sent left
  | again delivering paused => exact tallied_again tallied delivering paused

/-- An abandonment settles the batch in delivery, and the retry that it may have waited for stays counted. -/
theorem settled_abandon (tallied : trace.Tallied) (now : Instant) (told : trace.reporter.stopped = true) :
    (trace.after now .abandon).Settled trace.isPausing ∧
      (trace.after now .abandon).reporter.isGone = true := by
  have balanced := tallied.balanced
  rw [after]
  simp only [Reporter.step, Reporter.abandon, told, if_true]
  refine ⟨settled_of_quiet tallied.toSettled rfl rfl rfl rfl ?_, rfl⟩
  simp only [Reporter.discardQueue]
  change _ = _ + 0
  omega

end ReporterTrace

end FleetTraffic
