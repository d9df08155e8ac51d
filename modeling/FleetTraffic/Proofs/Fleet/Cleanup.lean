import FleetTraffic.Proofs.Delivery.Acceptance
import FleetTraffic.Proofs.Fleet.Strategies
import FleetTraffic.Settings.Server

/-!
# Cleanup and agents that are online

Two settings look at how long an agent was silent: up to the one it counts as online, from the other on it is
forgotten. The check of the settings looks at each alone and demands that it is greater than zero. If the
second is left out it is twice the first, and then nobody is forgotten who is online. If it is set the same
holds exactly as long as it is not the smaller one. What the check does ensure is that nobody is forgotten who
was heard from within the last second.
-/

namespace FleetTraffic

namespace Span

/-- Spans are compared by their whole seconds, and then by the nanoseconds above them. -/
theorem shorter_iff (first second : Span) :
    first.shorter second = true ↔ first.seconds < second.seconds ∨
      first.seconds = second.seconds ∧ first.nanos < second.nanos := by
  simp [shorter]

/-- What is longer than a span is longer than every span that is not longer than it. -/
theorem shorter_of_not_shorter {first second third : Span} (le : second.shorter first = false)
    (longer : second.shorter third = true) : first.shorter third = true := by
  rw [Bool.eq_false_iff, ne_eq, shorter_iff] at le
  rw [shorter_iff] at longer ⊢
  omega

/-- Of two spans at most one is the shorter. -/
theorem not_shorter_of_shorter {first second : Span} (shorter : first.shorter second = true) :
    ¬second.shorter first = true := by
  rw [shorter_iff] at shorter ⊢
  omega

end Span

namespace Duration

/-- More seconds are not less time. -/
theorem ofSeconds_mono {first second : UInt64} (le : first ≤ second) :
    (ofSeconds first).nanos ≤ (ofSeconds second).nanos :=
  Nat.mul_le_mul_right nanosPerSecond (UInt64.le_iff_toNat_le.mp le)

/-- The span of more time is not shorter, also where it stops at the longest one. -/
theorem toSpan_mono {first second : Duration} (le : first.nanos ≤ second.nanos) :
    second.toSpan.shorter first.toSpan = false := by
  rw [Bool.eq_false_iff, ne_eq, Span.shorter_iff, toSpan, toSpan]
  simp only [Span.shorter_iff, Span.longest, nanosPerSecond]
  split
  next => split <;> simp only <;> omega
  next => split <;> simp only <;> omega

end Duration

/-- Agents are forgotten no sooner than they go offline, unless it is set that they are. -/
theorem AggregationSettings.agentTimeout_le_cleanupMaxAge {settings : AggregationSettings}
    (spares : ∀ maxAge, settings.cleanupMaxAge? = some maxAge → settings.agentTimeout ≤ maxAge) :
    settings.agentTimeout ≤ settings.cleanupMaxAge := by
  rw [cleanupMaxAge]
  cases set : settings.cleanupMaxAge? with
  | none =>
    rw [Option.getD_none, UInt64.le_iff_toNat_le, Counter.toNat_clamp]
    have bound := Counter.toNat_le_greatest settings.agentTimeout
    omega
  | some maxAge => exact spares maxAge set

namespace ServerSettings

/-- Settings that pass the check forget agents after one second at the soonest. -/
theorem one_le_cleanupMaxAge {settings : ServerSettings} (passed : check settings = .ok ()) :
    1 ≤ settings.aggregation.cleanupMaxAge := by
  have positive := ((check_eq_ok_iff settings).mp passed).2
  rw [UInt64.le_iff_toNat_le, UInt64.toNat_one]
  exact positive ("aggregation.cleanup_max_age_secs", settings.aggregation.cleanupMaxAge.toNat)
    (by simp [numbers])

end ServerSettings

namespace Fleet

/-- Under either strategy the agents that are forgotten are the expired ones of the roster. -/
theorem expire_fst (fleet : Fleet) (maxAge : Duration) (now : Instant) :
    (fleet.expire maxAge now).1 = fleet.roster.expiredAgents maxAge now := by
  cases fleet <;> rfl

/-- An agent of a coherent roster is online exactly if its silence is shorter than the timeout, and it is
forgotten exactly if its silence is longer than the age of cleanup. -/
theorem status_and_cleanup {roster : Roster} (coherent : roster.Coherent) (timeout maxAge : Duration)
    (now : Instant) {summary : AgentSummary} (listed : summary ∈ roster.summaries timeout now) :
    (summary.status = .online ↔
        (now.since summary.record.lastHeartbeat).shorter timeout.toSpan = true) ∧
      (summary.record.agentId ∈ roster.expiredAgents maxAge now ↔
        maxAge.toSpan.shorter (now.since summary.record.lastHeartbeat) = true) := by
  obtain ⟨record, known, rfl⟩ := List.mem_map.mp listed
  obtain ⟨agent, found⟩ := (SortedMap.mem_values_iff roster.records record).mp known
  obtain ⟨own, active⟩ := (coherent agent).own record found
  constructor
  · rw [Roster.status_summarize_iff, Roster.isLive, active, Bool.true_and, Roster.summarize]
  · rw [Roster.mem_expiredAgents_iff coherent]
    simp only [Roster.summarize, own, Roster.fileOf, found, Option.some.injEq, exists_eq_left',
      Roster.isExpired]

end Fleet

namespace ServerSettings

/-- After any calls under settings that were accepted, cleanup forgets no agent that is online just before if
the age of cleanup is left out, or is not smaller than the time for which agents count as online. In any case
an agent is both online and forgotten exactly if its silence lies between the two, and nobody is forgotten who
was heard from within the last second. -/
theorem cleanup_spares_online {text : String} {settings : ServerSettings} (loads : load text = .ok settings)
    (calls : List FleetCall) (now : Instant) :
    let fleet := (Fleet.ofSettings settings.aggregation).afterAll calls
    let forgotten := (fleet.expire (.ofSeconds settings.aggregation.cleanupMaxAge) now).1
    ((∀ maxAge, settings.aggregation.cleanupMaxAge? = some maxAge →
        settings.aggregation.agentTimeout ≤ maxAge) →
      ∀ summary ∈ fleet.summaries now, summary.status = .online →
        summary.record.agentId ∉ forgotten) ∧
    ∀ summary ∈ fleet.summaries now,
      let silence := now.since summary.record.lastHeartbeat
      (summary.status = .online ∧ summary.record.agentId ∈ forgotten ↔
        silence.shorter (Duration.ofSeconds settings.aggregation.agentTimeout).toSpan = true ∧
          (Duration.ofSeconds settings.aggregation.cleanupMaxAge).toSpan.shorter silence = true) ∧
      (summary.record.agentId ∈ forgotten → (Duration.ofSeconds 1).toSpan.shorter silence = true) := by
  intro fleet forgotten
  obtain ⟨roster, options⟩ := Fleet.roster_ofSettings settings.aggregation calls
  have coherent : fleet.roster.Coherent := roster ▸ Roster.coherent_run _ _
  have told (summary : AgentSummary) (listed : summary ∈ fleet.summaries now) :=
    Fleet.status_and_cleanup coherent fleet.options.timeout (.ofSeconds settings.aggregation.cleanupMaxAge) now
      listed
  rw [show fleet.options = settings.aggregation.options from options] at told
  simp only [forgotten, Fleet.expire_fst]
  refine ⟨?_, ?_⟩
  · intro spares summary listed online dropped
    obtain ⟨live, expired⟩ := told summary listed
    have noLess := Duration.ofSeconds_mono (AggregationSettings.agentTimeout_le_cleanupMaxAge spares)
    have longer := Span.shorter_of_not_shorter (Duration.toSpan_mono noLess) (expired.mp dropped)
    exact Span.not_shorter_of_shorter longer (live.mp online)
  · intro summary listed
    obtain ⟨live, expired⟩ := told summary listed
    have atLeast := Duration.ofSeconds_mono (one_le_cleanupMaxAge (SettingsError.checked_eq_ok loads).2)
    exact ⟨and_congr live expired, fun dropped =>
      Span.shorter_of_not_shorter (Duration.toSpan_mono atLeast) (expired.mp dropped)⟩

/-- Where the server listens, and for how many seconds agents count as online and are remembered. -/
def remembering (agentTimeout cleanupMaxAge : UInt64) : ServerSettings where
  port := 8080
  host := "localhost"
  aggregation := { agentTimeout, cleanupMaxAge? := some cleanupMaxAge }
  statsLogInterval := standardLogInterval

/-- Two agents report at the beginning and half a minute later. -/
def halfAMinuteApart : List FleetCall :=
  [.change (.report (.single "a" .epoch "x.org" 10) (.early 0)),
    .change (.report (.single "b" .epoch "x.org" 5) (.early 30))]

/-- With one minute for both, the agent that is forgotten after eighty seconds is the one that went offline. -/
theorem remembering_spares_online :
    let settings := remembering 60 60
    let fleet := (Fleet.ofSettings settings.aggregation).afterAll halfAMinuteApart
    let forgotten := (fleet.expire (.ofSeconds settings.aggregation.cleanupMaxAge) (.early 80)).1
    load ("[server]\nport = 8080\nhost = \"localhost\"\n[aggregation]\nagent_timeout_secs = 60\n" ++
        "cleanup_max_age_secs = 60") = .ok settings ∧
      (fleet.summaries (.early 80)).map AgentSummary.status = [.offline, .online] ∧
      forgotten = ["a"] ∧
      ∀ summary ∈ fleet.summaries (.early 80), summary.status = .online →
        summary.record.agentId ∉ forgotten := by
  intro settings fleet forgotten
  have loads : load ("[server]\nport = 8080\nhost = \"localhost\"\n[aggregation]\n" ++
      "agent_timeout_secs = 60\ncleanup_max_age_secs = 60") = .ok settings := by decide +kernel
  refine ⟨loads, by decide +kernel, by decide +kernel, ?_⟩
  apply (cleanup_spares_online loads halfAMinuteApart (.early 80)).1
  rintro maxAge ⟨⟩
  decide

/-- Settings are accepted by which agents are forgotten before they go offline: an agent that was silent for
more than a hundred seconds is then online and forgotten. -/
theorem remembering_forgets_online :
    let settings := remembering 300 100
    let fleet := (Fleet.ofSettings settings.aggregation).afterAll halfAMinuteApart
    load ("[server]\nport = 8080\nhost = \"localhost\"\n[aggregation]\nagent_timeout_secs = 300\n" ++
        "cleanup_max_age_secs = 100") = .ok settings ∧
      ∃ summary ∈ fleet.summaries (.early 110), summary.status = .online ∧
        summary.record.agentId ∈ (fleet.expire (.ofSeconds settings.aggregation.cleanupMaxAge) (.early 110)).1 := by
  exact ⟨by decide +kernel, by decide +kernel⟩

end ServerSettings

end FleetTraffic
