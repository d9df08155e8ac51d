import FleetTraffic.Proofs.Delivery.Completion
import FleetTraffic.Proofs.Delivery.Moves
import FleetTraffic.Proofs.Wire.Request

/-!
# How often a batch is tried

The delivery of a batch comes to an end with the first attempt that succeeds or fails for good, and at the
latest when the retries are used up. Whatever the sender of heartbeats and the collectors do meanwhile, every
attempt sends the request that was written at the beginning, and each one begins one pause after the end of the
one before. When all is over the batch counts once, as delivered or as failed, and every attempt but the first
counts as a retry.
-/

namespace FleetTraffic

namespace Attempt

/-- How one of the scripted attempts goes, counted from 0. After the last one they succeed at once. -/
def nth (script : List Attempt) (index : Nat) : Attempt := script.getD index {}

/-- Whether another attempt would be of no use: this one succeeds, or fails for good. -/
def isFinal (attempt : Attempt) : Bool :=
  match attempt.outcome with
  | .ok () => true
  | .error error => !error.isRetryable

/-- An attempt that succeeds is final. -/
theorem isFinal_of_ok {attempt : Attempt} (success : attempt.outcome = .ok ()) : attempt.isFinal = true := by
  rw [isFinal, success]

/-- An attempt that fails is final if its error does not pass. -/
theorem isFinal_of_error {attempt : Attempt} {error : DeliveryError}
    (failure : attempt.outcome = .error error) : attempt.isFinal = !error.isRetryable := by
  rw [isFinal, failure]

/-- The number of attempts for a batch: up to the first final one, and at most one more than the retries. -/
def count (script : List Attempt) (retryCount : Nat) : Nat :=
  min (retryCount + 1) (script.findIdx isFinal + 1)

/-- The time at which an attempt begins: the first one at a given time, every other one a pause after the end of
the one before. -/
def beginning (script : List Attempt) (retryDelay start : Nat) : Nat → Nat
  | 0 => start
  | index + 1 => beginning script retryDelay start index + (nth script index).delay + retryDelay

/-- The next attempt is the first one of those that are left. -/
theorem nextAttempt_drop (script : List Attempt) (index : Nat) :
    Timeline.nextAttempt (script.drop index) = (nth script index, script.drop (index + 1)) := by
  rw [nth]
  rcases Nat.lt_or_ge index script.length with inside | beyond
  · rw [List.drop_eq_getElem_cons inside, List.getD_eq_getElem _ _ inside]
    rfl
  · rw [List.drop_of_length_le beyond, List.drop_of_length_le (by omega), List.getD_eq_default _ _ beyond]
    rfl

/-- There is an attempt. -/
theorem count_pos (script : List Attempt) (retryCount : Nat) : 0 < count script retryCount := by
  rw [count]
  omega

/-- The first final attempt of a script is final, also where it comes after the last one. -/
theorem isFinal_nth_findIdx (script : List Attempt) :
    (nth script (script.findIdx isFinal)).isFinal = true := by
  rcases Nat.lt_or_ge (script.findIdx isFinal) script.length with inside | beyond
  · rw [nth, List.getD_eq_getElem _ _ inside]
    exact List.findIdx_getElem
  · rw [nth, List.getD_eq_default _ _ beyond]
    rfl

/-- Attempts before the first final one are not final. -/
theorem not_isFinal_of_lt {script : List Attempt} {index : Nat} (before : index < script.findIdx isFinal) :
    (nth script index).isFinal = false := by
  rw [nth, List.getD_eq_getElem _ _ (before.trans_le List.findIdx_le_length)]
  exact List.not_of_lt_findIdx before

/-- Another attempt follows if retries are left and this one is not final. -/
theorem succ_lt_count {script : List Attempt} {retryCount index : Nat}
    (within : index < count script retryCount) (left : index < retryCount)
    (unfinished : (nth script index).isFinal = false) : index + 1 < count script retryCount := by
  have other : index ≠ script.findIdx isFinal := by
    rintro rfl
    rw [isFinal_nth_findIdx] at unfinished
    cases unfinished
  rw [count] at within ⊢
  omega

/-- No other attempt follows if no retries are left or this one is final. -/
theorem succ_eq_count {script : List Attempt} {retryCount index : Nat}
    (within : index < count script retryCount)
    (last : retryCount ≤ index ∨ (nth script index).isFinal = true) :
    index + 1 = count script retryCount := by
  have ended : retryCount ≤ index ∨ script.findIdx isFinal ≤ index := by
    refine last.imp_right fun final => Nat.le_of_not_lt fun before => ?_
    rw [not_isFinal_of_lt before] at final
    cases final
  rw [count] at within ⊢
  omega

end Attempt

/-- The numbers after the answer to the last attempt for a batch. -/
def DeliveryStats.settled (stats : DeliveryStats) (wall : Instant) :
    Except DeliveryError Unit → DeliveryStats
  | .ok () => { stats with delivered := stats.delivered + 1, lastDelivery := some wall }
  | .error error => { stats with failed := stats.failed + 1, lastError := some error.message }

namespace Timeline

/-- Begin to deliver a batch now. -/
def flush (line : Timeline) (wall : Instant) (batch : List Snapshot) : Timeline :=
  let (reporter, effects) := line.reporter.beginDelivery wall batch
  effects.foldl note { line with reporter }

section Plan

variable (line : Timeline) (batch : List Snapshot) (body : String)

/-- The number of attempts for a batch that is flushed now. -/
def attempts : Nat := Attempt.count line.sends line.reporter.settings.retryCount.toNat

/-- The time at which an attempt for it begins. -/
def beginning (index : Nat) : Nat :=
  Attempt.beginning line.sends line.reporter.settings.retryDelay.toNat line.clock index

/-- The time at which an attempt for it ends. -/
def ending (index : Nat) : Nat := line.beginning index + (Attempt.nth line.sends index).delay

/-- The reports that were sent after a number of attempts, the latest first. -/
def reportsAfter (count : Nat) : List (Nat × String) :=
  ((List.range count).map (line.beginning ·, body)).reverse ++ line.reports

/-- The errand of the flusher during an attempt. -/
def attempting (index : Nat) : Errand where
  settings := line.reporter.settings
  flusher := .delivering { batch, body, retries := index, pausing := false }
  stats := { line.reporter.stats with
    total := line.reporter.stats.total + 1
    batchSize := batch.length
    retries := line.reporter.stats.retries + index
    dropped := 0 }
  sends := line.sends.drop (index + 1)
  due := line.ending index
  outcome := (Attempt.nth line.sends index).outcome
  reports := line.reportsAfter body (index + 1)

/-- The errand of the flusher in the pause after an attempt. -/
def pausing (index : Nat) : Errand :=
  { line.attempting batch body index with
    flusher := .delivering { batch, body, retries := index + 1, pausing := true }
    stats := { (line.attempting batch body index).stats with
      retries := line.reporter.stats.retries + (index + 1) }
    due := line.beginning (index + 1) }

/-- The errand of the flusher after the last attempt. -/
def settled (wall : Instant) (index : Nat) : Errand :=
  { line.attempting batch body index with
    flusher := .idle []
    stats := (line.attempting batch body index).stats.settled wall (Attempt.nth line.sends index).outcome }

/-- How far the delivery of a batch that was flushed at a time has come. -/
inductive Progress (wall : Instant) (later : Timeline) : Prop where
  /-- An attempt is under way. -/
  | attempt {index : Nat} (within : index < line.attempts)
      (errand : later.errand = line.attempting batch body index) (early : later.clock ≤ line.ending index)
  /-- The next attempt is waited for. -/
  | pause {index : Nat} (within : index + 1 < line.attempts)
      (errand : later.errand = line.pausing batch body index)
      (early : later.clock ≤ line.beginning (index + 1))
  /-- The last attempt was answered. -/
  | settled {index : Nat} (last : index + 1 = line.attempts)
      (errand : later.errand = line.settled batch body wall index) (time : later.clock = line.ending index)

end Plan

variable {line later next : Timeline} {wall : Instant} {batch : List Snapshot} {body : String}

/-- What leaves the errand of the flusher alone, and the clock, does not change how far its delivery has
come. -/
theorem Progress.of_same (progress : line.Progress batch body wall later) (errand : next.errand = later.errand)
    (clock : next.clock = later.clock) : line.Progress batch body wall next := by
  cases progress with
  | attempt within former early => exact .attempt within (errand.trans former) (clock.trans_le early)
  | pause within former early => exact .pause within (errand.trans former) (clock.trans_le early)
  | settled last former time => exact .settled last (errand.trans former) (clock.trans time)

/-- After the last attempt nothing is in delivery. -/
theorem not_delivering_of_settled {index : Nat} (errand : later.errand = line.settled batch body wall index) :
    later.isDelivering = false := by
  have idle : later.reporter.flusher = .idle [] := congrArg Errand.flusher errand
  rw [isDelivering, idle]

/-- The report of one more attempt comes first. -/
theorem reportsAfter_succ (line : Timeline) (body : String) (count : Nat) :
    line.reportsAfter body (count + 1) = (line.beginning count, body) :: line.reportsAfter body count := by
  rw [reportsAfter, List.range_succ, List.map_append, List.reverse_append]
  rfl

/-- When an attempt is answered, another one follows after a pause, or the batch is settled. -/
theorem progress_of_attempt {index : Nat} (within : index < line.attempts)
    (errand : later.errand = line.attempting batch body index) (early : later.clock ≤ line.ending index)
    (turn : later.Turn wall next) : line.Progress batch body wall next := by
  have same : line.Progress batch body wall later := .attempt within errand early
  simp only [Timeline.errand, attempting, Errand.mk.injEq] at errand
  obtain ⟨settings, flusher, stats, sends, due, outcome, reports⟩ := errand
  cases turn with
  | wake state | flushTick state | again state => cases state.symm.trans flusher <;> contradiction
  | deliver state sent come success =>
    have success := outcome.symm.trans success
    have last : index + 1 = line.attempts :=
      Attempt.succ_eq_count within (.inr (Attempt.isFinal_of_ok success))
    refine .settled last (Errand.ext settings rfl ?_ sends due outcome reports)
      (early.antisymm (due ▸ come))
    simp only [settled, success]
    exact congrArg (DeliveryStats.settled · wall (.ok ())) stats
  | @pause delivery error state sent come failure retryable left =>
    have failure := outcome.symm.trans failure
    obtain rfl : delivery = _ := Flusher.delivering.inj (state.symm.trans flusher)
    rw [settings] at left
    have follows : index + 1 < line.attempts :=
      Attempt.succ_lt_count within left (by rw [Attempt.isFinal_of_error failure, retryable]; rfl)
    have time : later.clock + later.reporter.settings.retryDelay.toNat = line.beginning (index + 1) := by
      rw [settings, show later.clock = line.ending index by omega]
      rfl
    refine .pause follows (Errand.ext settings rfl ?_ sends time outcome reports) ?_
    · exact congrArg (fun stats : DeliveryStats => { stats with retries := stats.retries + 1 }) stats
    · exact (Nat.le_add_right _ _).trans time.le
  | @giveUp delivery error state sent come failure spent =>
    have failure := outcome.symm.trans failure
    obtain rfl : delivery = _ := Flusher.delivering.inj (state.symm.trans flusher)
    rw [settings] at spent
    have last : index + 1 = line.attempts := by
      refine Attempt.succ_eq_count within ?_
      cases retryable : error.isRetryable with
      | true => exact .inl (spent retryable)
      | false => exact .inr (by rw [Attempt.isFinal_of_error failure, retryable]; rfl)
    refine .settled last (Errand.ext settings rfl ?_ sends due outcome reports)
      (early.antisymm (due ▸ come))
    simp only [settled, failure]
    exact congrArg (DeliveryStats.settled · wall (.error error)) stats
  | retire | beat | answer | poll => exact same.of_same rfl rfl

/-- When a pause is over, the next attempt begins with the same request. -/
theorem progress_of_pause {index : Nat} (within : index + 1 < line.attempts)
    (errand : later.errand = line.pausing batch body index)
    (early : later.clock ≤ line.beginning (index + 1)) (turn : later.Turn wall next) :
    line.Progress batch body wall next := by
  have same : line.Progress batch body wall later := .pause within errand early
  simp only [Timeline.errand, pausing, attempting, Errand.mk.injEq] at errand
  obtain ⟨settings, flusher, stats, sends, due, outcome, reports⟩ := errand
  cases turn with
  | wake state | flushTick state | deliver state sent | pause state sent | giveUp state sent =>
    cases state.symm.trans flusher <;> contradiction
  | @again delivery state paused come =>
    obtain rfl : delivery = _ := Flusher.delivering.inj (state.symm.trans flusher)
    have time : later.clock = line.beginning (index + 1) := by omega
    have drawn := Attempt.nextAttempt_drop line.sends (index + 1)
    rw [← sends] at drawn
    refine .attempt within (Errand.ext settings rfl stats ?_ ?_ ?_ ?_) ?_
    · exact congrArg Prod.snd drawn
    · simp only [Timeline.errand, drawn, time]
      rfl
    · simp only [Timeline.errand, drawn]
      rfl
    · rw [attempting, reportsAfter_succ, ← reports, ← time]
      rfl
    · rw [ending, ← time]
      exact Nat.le_add_right _ _
  | retire | beat | answer | poll => exact same.of_same rfl rfl

/-- While a batch is in delivery, turns bring the delivery forward. -/
theorem progress_of_turn (progress : line.Progress batch body wall later) (going : later.isDelivering = true)
    (turn : later.Turn wall next) : line.Progress batch body wall next := by
  cases progress with
  | attempt within errand early => exact progress_of_attempt within errand early turn
  | pause within errand early => exact progress_of_pause within errand early turn
  | settled _ errand => cases (not_delivering_of_settled errand).symm.trans going

/-- While a batch is in delivery and nothing is due, the attempt or the pause has not come to its end. -/
theorem clock_lt_flusherDue (going : line.isDelivering = true) (rest : line.dueStep? wall = none) :
    line.clock < line.flusherDue := by
  have flusher := (Option.or_eq_none_iff.mp rest).1
  obtain ⟨delivery, state⟩ := exists_delivery going
  simp only [flusherStep?, state] at flusher
  split at flusher
  next later => exact later
  next => split at flusher <;> cases flusher

/-- While a batch is in delivery, the clock moves no further than to the end of the attempt or the pause. -/
theorem progress_of_wait (progress : line.Progress batch body wall later) (going : later.isDelivering = true)
    (rest : later.dueStep? wall = none) {limit : Nat} (before : later.clock < limit) :
    line.Progress batch body wall { later with clock := later.nextTime limit } := by
  have early := (later.nextTime_spec before).2.2 going (clock_lt_flusherDue going rest)
  cases progress with
  | attempt within errand =>
    exact .attempt within errand (early.trans_eq (congrArg Errand.due errand))
  | pause within errand =>
    exact .pause within errand (early.trans_eq (congrArg Errand.due errand))
  | settled _ errand => cases (not_delivering_of_settled errand).symm.trans going

/-- A batch that is flushed is in its first attempt. -/
theorem progress_flush (line : Timeline) (made wall : Instant) {request : ReportRequest}
    (nonempty : batch ≠ [])
    (requested : Reporter.request? line.reporter.settings line.reporter.identity made batch = some request) :
    (line.flush made batch).clock = line.clock ∧
      line.Progress batch (Reporter.bodyOf request) wall (line.flush made batch) := by
  obtain ⟨request', requested', begun⟩ := line.reporter.beginDelivery_of_ne_nil made nonempty
  obtain rfl := Option.some.inj (requested.symm.trans requested')
  have first := Attempt.nextAttempt_drop line.sends 0
  rw [List.drop_zero] at first
  have flushed : (line.flush made batch).errand =
      line.attempting batch (Reporter.bodyOf request) 0 := by
    simp only [flush, begun, List.foldl_cons, List.foldl_nil, note, first]
    rfl
  have clock : (line.flush made batch).clock = line.clock := (foldl_note_fixed _ _).2.1
  refine ⟨clock, .attempt (Attempt.count_pos _ _) flushed ?_⟩
  rw [clock]
  exact Nat.le_add_right _ _

/-- The beginning of a delivery lets nothing work by a timer without a period. -/
theorem ticking_flush (ticking : line.Ticking) (made : Instant) (batch : List Snapshot) :
    (line.flush made batch).Ticking := by
  obtain ⟨reporter, _, collectors, timer, -⟩ := foldl_note_fixed
    (line.reporter.beginDelivery made batch).2
    { line with reporter := (line.reporter.beginDelivery made batch).1 }
  have same : (line.reporter.beginDelivery made batch).1.heartbeats = line.reporter.heartbeats := by
    rw [Reporter.beginDelivery]
    split <;> rfl
  constructor
  · rw [flush, reporter, timer, same]
    exact ticking.heartbeats
  · rw [flush, collectors]
    exact ticking.collectors

/-- A flusher that looks at the queue or at what it has in hand and begins to deliver flushes a batch that is not
empty. -/
theorem flush_of_look (line : Timeline) {event : ReporterEvent} (look : event = .wake ∨ event = .flushTick)
    {pending : List Snapshot} (idle : line.reporter.flusher = .idle pending)
    (begun : (line.occur wall event).2.isDelivering = true) :
    ∃ queue, ∃ batch ≠ [],
      (line.occur wall event).2 =
        flush { line with reporter := { line.reporter with queue } } wall batch := by
  have move := line.reporter.move_step wall event
  simp only [occur] at begun ⊢
  generalize line.reporter.step wall event = result at move begun ⊢
  obtain ⟨reporter, effects⟩ := result
  rw [isDelivering, (foldl_note_fixed effects _).1] at begun
  cases move with
  | @begin _ _ batch rest _ _ _ nonempty _ _ _ made =>
    refine ⟨rest, batch, nonempty, ?_⟩
    simp only [flush, Reporter.beginDelivery, made]
  | same | beat => simp [idle] at begun
  | refuse | turnAway | accept | start | tell | withdraw | abandon | lose => simp at look
  | take | finish => simp at begun
  | deliver state | giveUp _ state | pause _ state | again state => cases idle.symm.trans state

/-- A flusher that begins to deliver flushes a batch that is not empty. -/
theorem flush_of_turn {pending : List Snapshot} (idle : line.reporter.flusher = .idle pending)
    (turn : line.Turn wall next) (begun : next.isDelivering = true) :
    ∃ queue flushTimer, ∃ batch ≠ [],
      next = flush { line with reporter := { line.reporter with queue }, flushTimer } wall batch := by
  cases turn with
  | wake =>
    obtain ⟨queue, batch, nonempty, flushed⟩ := flush_of_look line (.inl rfl) idle begun
    exact ⟨queue, line.flushTimer, batch, nonempty, flushed⟩
  | flushTick =>
    obtain ⟨queue, batch, nonempty, flushed⟩ :=
      flush_of_look { line with flushTimer := line.flushTimer.tick line.clock } (.inr rfl) idle begun
    exact ⟨queue, _, batch, nonempty, flushed⟩
  | again state | deliver state | pause state | giveUp state => cases idle.symm.trans state
  | retire | beat | answer | poll => simp [isDelivering, idle] at begun

/-- The attempts end one after another. -/
theorem ending_mono (line : Timeline) : Monotone line.ending :=
  monotone_nat_of_le_succ fun index => by
    simp only [ending, beginning, Attempt.beginning]
    omega

/-- The first attempt does not end before the batch is flushed. -/
theorem clock_le_ending (line : Timeline) (index : Nat) : line.clock ≤ line.ending index :=
  (Nat.le_add_right _ _).trans (line.ending_mono (Nat.zero_le index))

/-- An attempt or a pause is over by the end of the last attempt. -/
theorem flusherDue_le_of_progress (progress : line.Progress batch body wall later)
    (going : later.isDelivering = true) :
    later.clock ≤ later.flusherDue ∧ later.flusherDue ≤ line.ending (line.attempts - 1) := by
  cases progress with
  | attempt within errand early =>
    rw [show later.flusherDue = _ from congrArg Errand.due errand]
    exact ⟨early, line.ending_mono (Nat.le_sub_one_of_lt within)⟩
  | pause within errand early =>
    rw [show later.flusherDue = _ from congrArg Errand.due errand]
    exact ⟨early, (Nat.le_add_right _ _).trans (line.ending_mono (Nat.le_sub_one_of_lt within))⟩
  | settled _ errand => cases (not_delivering_of_settled errand).symm.trans going

/-- A batch that was flushed has been tried and is settled. -/
structure Concluded (line : Timeline) (batch : List Snapshot) (body : String) (wall : Instant)
    (ended : Timeline) : Prop where
  /-- The flusher waits for snapshots again. -/
  idle : ended.reporter.flusher = .idle []
  /-- Every attempt has sent the same text at its time, and nothing else was reported. -/
  reports : ended.reports = line.reportsAfter body line.attempts
  /-- They went as the script says, and no more of it is used up. -/
  sends : ended.sends = line.sends.drop line.attempts
  /-- The last attempt ends now. -/
  clock : ended.clock = line.ending (line.attempts - 1)
  /-- The batch counts once, by the outcome of the last attempt, and every attempt but the first as a retry.
  What was dropped meanwhile is another matter. -/
  stats : ended.reporter.stats =
    DeliveryStats.settled
      { line.reporter.stats with
        total := line.reporter.stats.total + 1
        batchSize := batch.length
        retries := line.reporter.stats.retries + (line.attempts - 1)
        dropped := ended.reporter.stats.dropped }
      wall (Attempt.nth line.sends (line.attempts - 1)).outcome

/-- A delivery that has come to its end is concluded. -/
theorem concluded_of_progress (progress : line.Progress batch body wall later)
    (done : later.isDelivering = false) : line.Concluded batch body wall later := by
  cases progress with
  | attempt _ errand | pause _ errand =>
    rw [isDelivering, show later.reporter.flusher = .delivering _ from congrArg Errand.flusher errand] at done
    cases done
  | @settled index last errand time =>
    obtain rfl : index = line.attempts - 1 := by omega
    have reports : later.reports = line.reportsAfter body (line.attempts - 1 + 1) :=
      congrArg Errand.reports errand
    have sends : later.sends = line.sends.drop (line.attempts - 1 + 1) := congrArg Errand.sends errand
    have stats := congrArg (fun errand : Errand =>
      { errand.stats with dropped := later.reporter.stats.dropped }) errand
    rw [last] at reports sends
    refine ⟨congrArg Errand.flusher errand, reports, sends, time, stats.trans ?_⟩
    simp only [settled, attempting]
    cases (Attempt.nth line.sends (line.attempts - 1)).outcome <;> rfl

/-- Whatever batch is flushed, whatever retries and pauses are set and however the calls to the server go: all
attempts send the one request that was made for the batch, there are as many of them as it takes, but no more
than the retries allow, and then the batch is settled by the outcome of the last. The sender of heartbeats and
the collectors may do what they like meanwhile. -/
theorem flush_concludes (reachable : line.Reachable) (made wall : Instant) (nonempty : batch ≠ []) :
    ∃ request,
      Reporter.request? line.reporter.settings line.reporter.identity made batch = some request ∧
        JsonCodec.request.decode (.ofBytes (Reporter.bodyOf request).toUTF8) = .ok request ∧
        ∀ limit, line.ending (line.attempts - 1) ≤ limit → ∃ enough, ∀ fuel, enough ≤ fuel →
          line.Concluded batch (Reporter.bodyOf request) wall
            ((line.flush made batch).runUntil wall limit (!·.isDelivering) fuel) := by
  obtain ⟨request, requested, -⟩ := line.reporter.beginDelivery_of_ne_nil made nonempty
  obtain ⟨clock, first⟩ := line.progress_flush made wall nonempty requested
  refine ⟨request, requested, JsonCodec.decode_toUTF8 JsonCodec.faithful_request request,
    fun limit late => ⟨(line.flush made batch).stepBound limit, fun fuel enough => ?_⟩⟩
  have within : (line.flush made batch).clock ≤ limit := by
    rw [clock]
    exact (line.clock_le_ending _).trans late
  have progress : line.Progress batch (Reporter.bodyOf request) wall
      ((line.flush made batch).runUntil wall limit (!·.isDelivering) fuel) :=
    runUntil_preserves
      (fun _ _ before going step =>
        progress_of_turn before (by simpa using going) (turn_of_dueStep step))
      (fun _ before going rest earlier =>
        progress_of_wait before (by simpa using going) rest earlier) fuel first
  refine concluded_of_progress progress (Bool.eq_false_iff.mpr fun going => ?_)
  -- A run that ends in the delivery has waited for its end, which is due by then.
  have ended := runUntil_of_delivering (ticking_flush reachable.ticking made batch) wall within enough
  obtain ⟨rest, come⟩ := ended.resolve_left (by simp [going])
  have early := clock_lt_flusherDue going rest
  have due := (flusherDue_le_of_progress progress going).2
  omega

/-- The first two attempts of a started reporter fail, after 30 and 20 milliseconds, while a collector offers
snapshots. -/
def stubborn : Timeline :=
  let settings : ReporterSettings := { serverUrl := "", retryDelay := 100 }
  let sends : List Attempt :=
    [⟨30, .error (.transport "refused")⟩, ⟨20, .error (.status 503)⟩, ⟨10, .ok ()⟩]
  let line : Timeline := { reporter := { settings, identity := ⟨"agent", "host", .epoch⟩ }, sends }
  (line.start .epoch).collect 50 [some {}, none, some {}]

/-- The third attempt delivers the batch, 260 milliseconds after it was flushed. -/
theorem stubborn_concludes :
    ∃ request fuel,
      let ended := (stubborn.flush .epoch [{}, {}]).runUntil .epoch 300 (!·.isDelivering) fuel
      stubborn.Reachable ∧ stubborn.Concluded [{}, {}] (Reporter.bodyOf request) .epoch ended ∧
        ended.reports.map Prod.fst = [250, 130, 0] ∧ ended.clock = 260 ∧
        ended.reporter.stats.retries = 2 ∧ ended.reporter.stats.delivered = 1 ∧
        ended.reporter.stats.lastError = none := by
  have reachable : stubborn.Reachable := ((Reachable.fresh _ _ _ _).start .epoch).collect 50 _
  obtain ⟨request, -, -, concludes⟩ :=
    flush_concludes reachable .epoch .epoch (List.cons_ne_nil ({} : Snapshot) [{}])
  obtain ⟨enough, concludes⟩ := concludes 300 (by decide)
  have ended := concludes enough (Nat.le_refl enough)
  refine ⟨request, enough, reachable, ended, ?_, ended.clock, ?_, ?_, ?_⟩
  · rw [ended.reports]
    rfl
  all_goals
    rw [ended.stats]
    rfl

end Timeline

end FleetTraffic
