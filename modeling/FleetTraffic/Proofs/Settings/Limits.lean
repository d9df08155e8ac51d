import FleetTraffic.Delivery.Reporter
import FleetTraffic.Proofs.Settings.Validation

/-!
# Limits that follow from other settings

Two limits are not settings of their own. The queue of a reporter is to hold two batches. An agent is forgotten
after twice the time for which it counts as online, unless another age is set. The second product stops at the
greatest number that can be set. The first has to fit into a word, and asking for it fails if it does not.

So there is a reporter only if a batch is smaller than `2 ^ 63`, and its queue holds two full batches and not one
snapshot more. Settings with larger batches are accepted all the same, and no reporter can be made for them. How
many places a queue can have at most is the business of the library that makes it, and is left open here.
-/

namespace FleetTraffic

namespace ReporterSettings

variable (settings : ReporterSettings)

/-- The number of places is twice the size of a batch. It is there exactly if a batch is smaller than
`2 ^ 63`. -/
theorem queueCapacity?_eq : settings.queueCapacity?.map UInt64.toNat =
    if settings.batchSize.toNat < 2 ^ 63 then some (2 * settings.batchSize.toNat) else none := by
  by_cases small : settings.batchSize.toNat < 2 ^ 63
  · have fits : settings.batchSize.toNat * 2 < UInt64.size := by
      rw [UInt64.size]
      omega
    have product : (settings.batchSize * 2).toNat = 2 * settings.batchSize.toNat := by
      rw [UInt64.toNat_mul, Nat.mul_comm 2]
      exact Nat.mod_eq_of_lt fits
    rw [queueCapacity?, if_pos fits, if_pos small, Option.map_some, product]
  · have large : ¬settings.batchSize.toNat * 2 < UInt64.size := by
      rw [UInt64.size]
      omega
    rw [queueCapacity?, if_neg large, if_neg small, Option.map_none]

end ReporterSettings

namespace Reporter

/-- The reporter after snapshots were offered to it, one after the other. -/
def offerAll (reporter : Reporter) (snapshots : List Snapshot) : Reporter :=
  snapshots.foldl (fun reporter snapshot => (reporter.offer snapshot).1) reporter

/-- A reporter that has not been stopped and has not lost its flusher keeps what is offered as long as its queue
has a place. -/
theorem offer_taking {reporter : Reporter} (taking : reporter.stopped = false)
    (sound : reporter.flusher ≠ .failed) (within : reporter.queue.length ≤ reporter.capacity)
    (snapshot : Snapshot) :
    ∃ dropped, (reporter.offer snapshot).1 =
      { reporter with
        queue := (reporter.queue ++ [snapshot]).take reporter.capacity
        stats := { reporter.stats with dropped } } := by
  have takes : ¬((reporter.stopped || decide (reporter.flusher = .failed)) = true) := by
    simp [taking, sound]
  rw [offer, if_neg takes]
  split
  next room =>
    have fits : (reporter.queue ++ [snapshot]).length ≤ reporter.capacity := by
      rw [List.length_append, List.length_singleton]
      omega
    exact ⟨reporter.stats.dropped, by rw [List.take_of_length_le fits]⟩
  next full =>
    have filled : reporter.capacity = reporter.queue.length := by omega
    exact ⟨reporter.stats.dropped + 1, by rw [filled, List.take_left]⟩

/-- Of all that is offered to such a reporter, the first snapshots are kept as far as there are places. -/
theorem queue_offerAll (reporter : Reporter) (taking : reporter.stopped = false)
    (sound : reporter.flusher ≠ .failed) (within : reporter.queue.length ≤ reporter.capacity)
    (snapshots : List Snapshot) :
    (reporter.offerAll snapshots).queue = (reporter.queue ++ snapshots).take reporter.capacity := by
  induction snapshots generalizing reporter with
  | nil => rw [offerAll, List.foldl_nil, List.append_nil, List.take_of_length_le within]
  | cons snapshot rest inductionHypothesis =>
    obtain ⟨dropped, next⟩ := offer_taking taking sound within snapshot
    have queue : (reporter.offer snapshot).1.queue =
        (reporter.queue ++ [snapshot]).take reporter.capacity := by rw [next]
    have capacity : (reporter.offer snapshot).1.capacity = reporter.capacity := by rw [next]; rfl
    have further := inductionHypothesis (reporter.offer snapshot).1
      (by rw [next]; exact taking) (by rw [next]; exact sound)
      (by rw [queue, capacity]; exact List.length_take_le _ _)
    rw [queue, capacity] at further
    -- What was turned away before has no place behind what was kept.
    have again (kept : List Snapshot) : (kept.take reporter.capacity ++ rest).take reporter.capacity =
        (kept ++ rest).take reporter.capacity := by
      have left : reporter.capacity - min reporter.capacity kept.length =
          reporter.capacity - kept.length := by omega
      rw [List.take_append, List.take_append, List.take_take, Nat.min_self, List.length_take, left]
    rw [again, List.append_assoc, List.singleton_append] at further
    exact further

/-- A number of snapshots finds place in the queue, whatever they are. -/
def Holds (reporter : Reporter) (number : Nat) : Prop :=
  ∀ snapshots : List Snapshot, snapshots.length = number → (reporter.offerAll snapshots).queue = snapshots

/-- A new reporter holds as many snapshots as its queue has places. -/
theorem holds_iff (settings : ReporterSettings) (identity : AgentIdentity) (number : Nat) :
    Holds { settings, identity } number ↔ number ≤ capacity { settings, identity } := by
  have kept := queue_offerAll { settings, identity } rfl nofun (Nat.zero_le _)
  constructor
  · intro holds
    have whole := holds (List.replicate number {}) List.length_replicate
    rw [kept, List.nil_append] at whole
    have length := congrArg List.length whole
    rw [List.length_take, List.length_replicate] at length
    omega
  · intro within snapshots length
    rw [kept, List.nil_append, List.take_of_length_le (length ▸ within)]

/-- A reporter is made if a batch is smaller than `2 ^ 63` and its queue can have all its places, and it is a new
one. -/
theorem create?_eq_some_iff {greatest : Nat} {settings : ReporterSettings} {identity : AgentIdentity}
    {reporter : Reporter} :
    create? greatest settings identity = some reporter ↔
      settings.batchSize.toNat < 2 ^ 63 ∧ capacity { settings, identity } ≤ greatest ∧
        { settings, identity } = reporter := by
  have places := settings.queueCapacity?_eq
  rw [create?]
  by_cases small : settings.batchSize.toNat < 2 ^ 63
  · rw [if_pos small, Option.map_eq_some_iff] at places
    obtain ⟨number, found, double⟩ := places
    simp only [found, double, Option.bind_eq_bind, Option.bind_some, Option.ite_none_right_eq_some,
      Option.some.injEq, capacity, small, true_and]
  · rw [if_neg small, Option.map_eq_none_iff] at places
    simp only [places, Option.bind_eq_bind, Option.bind_none, reduceCtorEq, small, false_and]

section Batches

variable {settings : ReporterSettings} (positive : 0 < settings.batchSize.toNat)

include positive

/-- If a batch is not empty, the queue is to have places for two. -/
theorem capacity_eq (identity : AgentIdentity) :
    capacity { settings, identity } = 2 * settings.batchSize.toNat := by
  have atLeastOne : 1 ≤ 2 * settings.batchSize.toNat := by omega
  exact max_eq_left atLeastOne

/-- If a batch is not empty, a reporter is made exactly if a batch is smaller than `2 ^ 63` and a queue can have
places for two. -/
theorem exists_create?_iff (greatest : Nat) (identity : AgentIdentity) :
    (∃ reporter, create? greatest settings identity = some reporter) ↔
      settings.batchSize.toNat < 2 ^ 63 ∧ 2 * settings.batchSize.toNat ≤ greatest := by
  simp only [create?_eq_some_iff, exists_and_left, exists_eq', and_true, capacity_eq positive identity]

/-- If a batch is not empty, a reporter that is made holds two full batches, and not one snapshot more. -/
theorem two_batches {greatest : Nat} {identity : AgentIdentity} {reporter : Reporter}
    (made : create? greatest settings identity = some reporter) :
    reporter.batchLimit = settings.batchSize.toNat ∧
      ∀ number, reporter.Holds number ↔ number ≤ 2 * settings.batchSize.toNat := by
  obtain ⟨-, -, rfl⟩ := create?_eq_some_iff.mp made
  refine ⟨max_eq_left positive, fun number => ?_⟩
  rw [holds_iff, capacity_eq positive]

end Batches

end Reporter

/-- In settings that are accepted a batch is not empty. -/
theorem AgentSettings.batchSize_pos {settings : AgentSettings} (passed : settings.check = .ok ()) :
    0 < settings.reporter.batchSize.toNat :=
  ((check_eq_ok_iff settings).mp passed).2.2
    ("reporter.batch_size", settings.reporter.batchSize.toNat) (by simp [numbers]) (by simp) (by simp)

/-- For every text that is accepted for an agent, the number of places in the queue is twice the size of a batch if
a batch is smaller than `2 ^ 63`, and asking for it fails otherwise. A reporter is made exactly if besides a queue
can have as many places, and then it holds two full batches and not one snapshot more. For every text that is
accepted for a server, agents are forgotten at the age that is set, or else at the smaller of twice the time for
which they count as online and the greatest number. -/
theorem limits_of_accepted (text : String) :
    (∀ settings, AgentSettings.load text = .ok settings →
      let size := settings.reporter.batchSize.toNat
      settings.reporter.queueCapacity?.map UInt64.toNat = (if size < 2 ^ 63 then some (2 * size) else none) ∧
      ∀ greatest identity,
        ((∃ reporter, Reporter.create? greatest settings.reporter identity = some reporter) ↔
          size < 2 ^ 63 ∧ 2 * size ≤ greatest) ∧
        ∀ reporter, Reporter.create? greatest settings.reporter identity = some reporter →
          reporter.batchLimit = size ∧ ∀ number, reporter.Holds number ↔ number ≤ 2 * size) ∧
    ∀ settings, ServerSettings.load text = .ok settings →
      settings.aggregation.cleanupMaxAge.toNat =
        settings.aggregation.cleanupMaxAge?.elim
          (min (2 * settings.aggregation.agentTimeout.toNat) Counter.greatest) UInt64.toNat := by
  constructor
  · intro settings loads size
    have positive := AgentSettings.batchSize_pos (SettingsError.checked_eq_ok loads).2
    refine ⟨settings.reporter.queueCapacity?_eq, fun greatest identity => ?_⟩
    exact ⟨Reporter.exists_create?_iff positive greatest identity, fun _ => Reporter.two_batches positive⟩
  · intro settings loads
    exact settings.aggregation.toNat_cleanupMaxAge

/-- An agent that sends to one server, in batches of some size. -/
def batching (batchSize : UInt64) : AgentSettings where
  reporter := { serverUrl := "http://server/metrics", batchSize }

/-- How many places a queue can have with a library that counts them in 61 bits. -/
def longestQueue : Nat := 2305843009213693951

/-- With the greatest size that is smaller than `2 ^ 63` the number of places is exact still. Two batches of three
snapshots find place in a queue. Twice the greatest number of seconds is the greatest number. -/
theorem greatestSettings_limited :
    (AgentSettings.load ("[reporter]\nserver_url = \"http://server/metrics\"\n" ++
        "batch_size = 9223372036854775807") = .ok (batching 9223372036854775807) ∧
      (batching 9223372036854775807).reporter.queueCapacity?.map UInt64.toNat =
        some (2 * 9223372036854775807)) ∧
    (AgentSettings.load "[reporter]\nserver_url = \"http://server/metrics\"\nbatch_size = 3" =
        .ok (batching 3) ∧
      ∃ reporter,
        Reporter.create? longestQueue (batching 3).reporter ⟨"a", "host", .epoch⟩ = some reporter ∧
          reporter.batchLimit = 3 ∧ reporter.Holds (2 * 3)) ∧
    ∃ settings, ServerSettings.load ("[server]\nport = 1\nhost = \"h\"\n[aggregation]\n" ++
        "agent_timeout_secs = 18446744073709551615") = .ok settings ∧
      settings.aggregation.cleanupMaxAge.toNat = Counter.greatest := by
  have greatest : AgentSettings.load ("[reporter]\nserver_url = \"http://server/metrics\"\n" ++
      "batch_size = 9223372036854775807") = .ok (batching 9223372036854775807) := by decide +kernel
  have three : AgentSettings.load "[reporter]\nserver_url = \"http://server/metrics\"\nbatch_size = 3" =
      .ok (batching 3) := by decide +kernel
  have server : ServerSettings.load ("[server]\nport = 1\nhost = \"h\"\n[aggregation]\n" ++
      "agent_timeout_secs = 18446744073709551615") =
      .ok ⟨1, "h", { agentTimeout := 18446744073709551615 }, ServerSettings.standardLogInterval⟩ := by
    decide +kernel
  refine ⟨⟨greatest, ?_⟩, ⟨three, ?_⟩, ⟨_, server, ?_⟩⟩
  · exact ((limits_of_accepted _).1 _ greatest).1.trans (if_pos (by decide))
  · obtain ⟨comesAbout, holds⟩ :=
      ((limits_of_accepted _).1 _ three).2 longestQueue ⟨"a", "host", .epoch⟩
    obtain ⟨reporter, made⟩ := comesAbout.mpr (by decide)
    obtain ⟨limit, places⟩ := holds reporter made
    exact ⟨reporter, made, limit, (places (2 * 3)).mpr (by decide)⟩
  · exact ((limits_of_accepted _).2 _ server).trans (by decide)

/-- Settings are accepted by which a batch has `2 ^ 63` snapshots. Twice as many do not fit into a word, so asking
for the number of places fails, and no reporter can be made. -/
theorem hugeBatch_overflows :
    AgentSettings.load ("[reporter]\nserver_url = \"http://server/metrics\"\n" ++
        "batch_size = 9223372036854775808") = .ok (batching 9223372036854775808) ∧
      (batching 9223372036854775808).reporter.queueCapacity? = none ∧
      ∀ greatest identity,
        Reporter.create? greatest (batching 9223372036854775808).reporter identity = none :=
  ⟨by decide +kernel, by decide, fun _ _ => rfl⟩

end FleetTraffic
