import FleetTraffic.Settings.Agent
import FleetTraffic.Settings.Server
import Mathlib

/-!
# Which settings are accepted

A check makes its demands one after the other, and the first that is not met gives the violation. Here the
demands of each check stand in a list. So a text is accepted exactly if it decodes and meets all of them, and a
text that is turned down is told the first one that it does not meet.

Beside the demands stand all numbers that the settings hold. The server demands of each of them that it is
greater than zero. The agent leaves out two: the number of retries, which may well be zero, and the delay between
them. With a delay of zero an agent is accepted too, and repeats what fails without a pause.
-/

namespace FleetTraffic

/-- What settings are asked for, and the violation if they are not so. -/
structure Demand where
  met : Bool
  violation : Violation

namespace Demand

/-- Something must not be so. -/
def excluding (refuse : Prop) [Decidable refuse] (violation : Violation) : Demand := ⟨!decide refuse, violation⟩

/-- A number must be greater than zero. -/
def positive (name : String) (value : UInt64) : Demand := ⟨decide (0 < value), .notPositive name value.toNat⟩

/-- A text must not be empty. -/
def nonEmpty (name : String) (value : String) : Demand := ⟨value != "", .empty name⟩

/-- A refusal is met exactly if what it is about is not so. -/
@[simp]
theorem met_excluding (refuse : Prop) [Decidable refuse] (violation : Violation) :
    (excluding refuse violation).met = true ↔ ¬refuse := by
  simp only [excluding, Bool.not_eq_true', decide_eq_false_iff_not]

/-- The demand of a number is met exactly if the number is greater than zero. -/
@[simp]
theorem met_positive (name : String) (value : UInt64) :
    (positive name value).met = true ↔ 0 < value.toNat := by
  rw [positive, decide_eq_true_eq, UInt64.lt_iff_toNat_lt, UInt64.toNat_zero]

/-- The demand of a text is met exactly if the text is not empty. -/
@[simp]
theorem met_nonEmpty (name : String) (value : String) :
    (nonEmpty name value).met = true ↔ value ≠ "" := by
  rw [nonEmpty, bne_iff_ne]

/-- The check of one demand. -/
def check (demand : Demand) : Except Violation Unit :=
  if demand.met then .ok () else .error demand.violation

/-- What is said of a list of demands: the violation of the first one that is not met. -/
def verdict (demands : List Demand) : Except Violation Unit :=
  match demands.find? fun demand => !demand.met with
  | none => .ok ()
  | some demand => .error demand.violation

/-- Where nothing is asked for all is well. -/
theorem verdict_nil : verdict [] = pure () := rfl

/-- The first demand is checked before the others. -/
theorem verdict_cons (demand : Demand) (rest : List Demand) :
    verdict (demand :: rest) = demand.check >>= fun _ => verdict rest := by
  rw [verdict, List.find?_cons, check]
  cases demand.met <;> rfl

/-- To refuse before all else is to check that something is not so. -/
theorem check_excluding_bind (refuse : Prop) [Decidable refuse] (violation : Violation)
    (rest : Except Violation Unit) :
    ((excluding refuse violation).check >>= fun _ => rest) =
      if refuse then throw violation >>= fun _ : Unit => rest else rest := by
  by_cases refused : refuse
  · simp only [check, excluding, refused, decide_true, Bool.not_true, Bool.false_eq_true, if_false, if_true]
    rfl
  · simp only [check, excluding, refused, decide_false, Bool.not_false, if_true, if_false]
    rfl

/-- The demand of a number greater than zero is checked as the settings do. -/
theorem check_positive (name : String) (value : UInt64) :
    (positive name value).check = Violation.positive name value := by
  simp only [check, positive, Violation.positive, decide_eq_true_eq]

/-- The demand of a text that is not empty is checked as the settings do. -/
theorem check_nonEmpty (name : String) (value : String) :
    (nonEmpty name value).check = Violation.nonEmpty name value := by
  by_cases empty : value = "" <;> simp [check, nonEmpty, Violation.nonEmpty, empty]

/-- All is well exactly if every demand is met. -/
theorem verdict_eq_ok_iff (demands : List Demand) :
    verdict demands = .ok () ↔ ∀ demand ∈ demands, demand.met = true := by
  have all : demands.find? (fun demand => !demand.met) = none ↔ ∀ demand ∈ demands, demand.met = true := by
    simp
  rw [← all, verdict]
  cases demands.find? fun demand => !demand.met <;> simp

/-- A violation is that of the first demand that is not met. -/
theorem verdict_eq_error_iff (demands : List Demand) (violation : Violation) :
    verdict demands = .error violation ↔ ∃ before demand after,
      demands = before ++ demand :: after ∧ (∀ earlier ∈ before, earlier.met = true) ∧
        demand.met = false ∧ demand.violation = violation := by
  have first (demand : Demand) : demands.find? (fun demand => !demand.met) = some demand ↔
      demand.met = false ∧ ∃ before after, demands = before ++ demand :: after ∧
        ∀ earlier ∈ before, earlier.met = true := by
    simp [List.find?_eq_some_iff_append]
  rw [verdict]
  constructor
  · intro fails
    cases found : demands.find? fun demand => !demand.met with
    | none =>
      rw [found] at fails
      cases fails
    | some demand =>
      rw [found] at fails
      obtain ⟨unmet, before, after, split, earlier⟩ := (first demand).mp found
      exact ⟨before, demand, after, split, earlier, unmet, Except.error.inj fails⟩
  · rintro ⟨before, demand, after, split, earlier, unmet, rfl⟩
    rw [(first demand).mpr ⟨unmet, before, after, split, earlier⟩]

/-- If a demand is about a number, it is about one of these, and met exactly if that is greater than zero. -/
def Tells (numbers : List (String × Nat)) (demand : Demand) : Prop :=
  ∀ name value, demand.violation = .notPositive name value →
    (name, value) ∈ numbers ∧ (demand.met = true ↔ 0 < value)

/-- The demand of a listed number tells it. -/
theorem tells_positive {numbers : List (String × Nat)} {name : String} {value : UInt64}
    (listed : (name, value.toNat) ∈ numbers) : (positive name value).Tells numbers := by
  rintro _ _ ⟨⟩
  exact ⟨listed, met_positive name value⟩

/-- A demand that is not about a number tells none. -/
theorem tells_of_other {numbers : List (String × Nat)} {demand : Demand}
    (other : ∀ name value, demand.violation ≠ .notPositive name value) : demand.Tells numbers :=
  fun name value same => absurd same (other name value)

/-- A number that is named in a violation is zero, and one of those that the demands tell. -/
theorem number_of_verdict {demands : List Demand} {numbers : List (String × Nat)}
    (tells : ∀ demand ∈ demands, demand.Tells numbers) {name : String} {value : Nat}
    (fails : verdict demands = .error (.notPositive name value)) :
    value = 0 ∧ (name, 0) ∈ numbers := by
  obtain ⟨before, demand, after, rfl, -, unmet, told⟩ := (verdict_eq_error_iff _ _).mp fails
  obtain ⟨listed, positive⟩ := tells demand (List.mem_append_right _ List.mem_cons_self) name value told
  have zero : value = 0 := by
    rw [unmet] at positive
    simpa using positive
  exact ⟨zero, zero ▸ listed⟩

end Demand

/-- Checked settings were decoded and passed their check. -/
theorem SettingsError.checked_eq_ok {α : Type} {check : α → Except Violation Unit}
    {decoded : Except Fault α} {settings : α} (passes : checked check decoded = .ok settings) :
    decoded = .ok settings ∧ check settings = .ok () := by
  cases decoded with
  | error fault => cases passes
  | ok found =>
    cases passed : check found with
    | error violation =>
      rw [checked, passed] at passes
      cases passes
    | ok _ =>
      rw [checked, passed] at passes
      cases passes
      exact ⟨rfl, passed⟩

/-- Settings are taken exactly if they are decoded and pass their check. -/
theorem SettingsError.checked_eq_ok_iff {α : Type} {check : α → Except Violation Unit}
    {decoded : Except Fault α} {settings : α} :
    checked check decoded = .ok settings ↔ decoded = .ok settings ∧ check settings = .ok () := by
  constructor
  · exact checked_eq_ok
  · rintro ⟨rfl, passed⟩
    rw [checked, passed]

/-- Settings are turned down for a violation exactly if they are decoded and the check finds it. -/
theorem SettingsError.checked_eq_invalid_iff {α : Type} {check : α → Except Violation Unit}
    {decoded : Except Fault α} {violation : Violation} :
    checked check decoded = .error (.invalid violation) ↔
      ∃ settings, decoded = .ok settings ∧ check settings = .error violation := by
  cases decoded with
  | error fault => simp [checked]
  | ok found => cases passed : check found <;> simp [checked, passed]

/-! ## The server -/

namespace AggregationSettings

/-- The age of cleanup is the one that is set, or else twice the time for which agents count as online, but no more
than the greatest number that can be set. -/
theorem toNat_cleanupMaxAge (settings : AggregationSettings) :
    settings.cleanupMaxAge.toNat =
      settings.cleanupMaxAge?.elim (min (2 * settings.agentTimeout.toNat) Counter.greatest)
        UInt64.toNat := by
  rw [cleanupMaxAge]
  cases settings.cleanupMaxAge? with
  | none => exact Counter.toNat_clamp _
  | some maxAge => rfl

/-- By default the age of cleanup is greater than zero if the other time is. -/
theorem cleanupMaxAge_positive_iff (settings : AggregationSettings)
    (timeout : 0 < settings.agentTimeout.toNat) :
    0 < settings.cleanupMaxAge.toNat ↔
      ∀ maxAge ∈ settings.cleanupMaxAge?.toList, 0 < maxAge.toNat := by
  rw [toNat_cleanupMaxAge]
  cases settings.cleanupMaxAge? with
  | none =>
    simp only [Option.elim_none, Option.toList_none, List.not_mem_nil, false_implies, implies_true,
      iff_true, Counter.greatest]
    omega
  | some maxAge => simp only [Option.elim_some, Option.toList_some, List.mem_singleton, forall_eq]

end AggregationSettings

namespace ServerSettings

/-- The numbers among the settings, explicit or by default, under the names that they have in a text. -/
def numbers (settings : ServerSettings) : List (String × Nat) :=
  [("server.port", settings.port.toNat),
    ("aggregation.agent_timeout_secs", settings.aggregation.agentTimeout.toNat),
    ("aggregation.cleanup_interval_secs", settings.aggregation.cleanupInterval.toNat),
    ("aggregation.cleanup_max_age_secs", settings.aggregation.cleanupMaxAge.toNat),
    ("aggregation.cache_ttl_secs", settings.aggregation.cacheTtl.toNat),
    ("monitoring.stats_log_interval_secs", settings.statsLogInterval.toNat)]

/-- No number is left out: settings that agree in these, and in all that is not a number, are the same. -/
theorem ext_of_numbers {first second : ServerSettings} (same : first.numbers = second.numbers)
    (host : first.host = second.host) (strategy : first.aggregation.strategy = second.aggregation.strategy)
    (set : first.aggregation.cleanupMaxAge?.isSome = second.aggregation.cleanupMaxAge?.isSome)
    (restarts : first.aggregation.restartDetection = second.aggregation.restartDetection)
    (baselines : first.aggregation.baselineTracking = second.aggregation.baselineTracking) :
    first = second := by
  obtain ⟨_, _, ⟨_, _, _, age, _⟩, _⟩ := first
  obtain ⟨_, _, ⟨_, _, _, age', _⟩, _⟩ := second
  simp only [numbers, List.cons.injEq, Prod.mk.injEq, true_and, and_true, UInt64.toNat_inj,
    UInt16.toNat_inj] at same
  -- An age that is set is a number of its own, and one that is left out follows from the other time.
  cases age <;> cases age' <;> simp_all [AggregationSettings.cleanupMaxAge]

/-- What the settings are asked for. The age of cleanup is looked at only if it is set. -/
def demands (settings : ServerSettings) : List Demand :=
  [.excluding (settings.port = 0) (.portOutOfRange "server.port" settings.port.toNat),
    .nonEmpty "server.host" settings.host,
    .positive "aggregation.agent_timeout_secs" settings.aggregation.agentTimeout,
    .positive "aggregation.cleanup_interval_secs" settings.aggregation.cleanupInterval] ++
  settings.aggregation.cleanupMaxAge?.toList.map (Demand.positive "aggregation.cleanup_max_age_secs") ++
  [.positive "aggregation.cache_ttl_secs" settings.aggregation.cacheTtl,
    .positive "monitoring.stats_log_interval_secs" settings.statsLogInterval]

/-- The check says of the settings what is said of the demands. -/
theorem check_eq_verdict (settings : ServerSettings) : check settings = Demand.verdict settings.demands := by
  rw [check, demands]
  cases settings.aggregation.cleanupMaxAge? <;>
    simp only [Option.toList, List.map_cons, List.map_nil, List.cons_append, List.nil_append,
      Demand.verdict_cons, Demand.verdict_nil, Demand.check_excluding_bind, Demand.check_positive,
      Demand.check_nonEmpty, bind_pure_unit]

/-- The settings pass their check exactly if the host is not empty and every number is greater than zero. The age
of cleanup is so by default. -/
theorem check_eq_ok_iff (settings : ServerSettings) :
    check settings = .ok () ↔ settings.host ≠ "" ∧ ∀ number ∈ settings.numbers, 0 < number.2 := by
  have port : ¬settings.port = 0 ↔ 0 < settings.port.toNat := by
    rw [← UInt16.toNat_inj, UInt16.toNat_zero, Nat.pos_iff_ne_zero]
  -- An age that is left out is not looked at, but the other time is.
  have forgetting := settings.aggregation.cleanupMaxAge_positive_iff
  rw [check_eq_verdict, Demand.verdict_eq_ok_iff]
  simp only [demands, numbers, List.forall_mem_append, List.forall_mem_cons, List.forall_mem_map,
    List.not_mem_nil, false_implies, implies_true, and_true, Demand.met_excluding, Demand.met_positive,
    Demand.met_nonEmpty, port]
  tauto

/-- The demands are about the numbers of the settings. -/
theorem tells_demands (settings : ServerSettings) :
    ∀ demand ∈ settings.demands, demand.Tells settings.numbers := by
  have forgetting : ∀ maxAge ∈ settings.aggregation.cleanupMaxAge?.toList,
      (Demand.positive "aggregation.cleanup_max_age_secs" maxAge).Tells settings.numbers := by
    intro maxAge set
    have same : settings.aggregation.cleanupMaxAge.toNat = maxAge.toNat := by
      rw [AggregationSettings.toNat_cleanupMaxAge, Option.mem_toList.mp set, Option.elim_some]
    apply Demand.tells_positive
    simp [numbers, same]
  simp only [demands, List.forall_mem_append, List.forall_mem_cons, List.forall_mem_map, List.not_mem_nil,
    false_implies, implies_true, and_true]
  refine ⟨⟨⟨Demand.tells_of_other nofun, Demand.tells_of_other nofun, Demand.tells_positive ?_,
    Demand.tells_positive ?_⟩, forgetting⟩, Demand.tells_positive ?_, Demand.tells_positive ?_⟩
  all_goals simp [numbers]

/-- A text that is turned down for a number has a zero there. -/
theorem number_of_refusal {text name : String} {value : Nat}
    (refused : load text = .error (.invalid (.notPositive name value))) :
    ∃ settings, decoder.decode text = .ok settings ∧ value = 0 ∧ (name, 0) ∈ settings.numbers := by
  obtain ⟨settings, decoded, fails⟩ := SettingsError.checked_eq_invalid_iff.mp refused
  rw [check_eq_verdict] at fails
  exact ⟨settings, decoded, Demand.number_of_verdict settings.tells_demands fails⟩

end ServerSettings

/-! ## The agent -/

namespace AgentSettings

/-- The numbers among the settings, explicit or by default, under the names that they have in a text. -/
def numbers (settings : AgentSettings) : List (String × Nat) :=
  [("agent.collect_interval_ms", settings.collectInterval.toNat),
    ("reporter.timeout_ms", settings.reporter.timeout.toNat),
    ("reporter.retry_count", settings.reporter.retryCount.toNat),
    ("reporter.retry_delay_ms", settings.reporter.retryDelay.toNat),
    ("reporter.batch_size", settings.reporter.batchSize.toNat),
    ("reporter.flush_interval_ms", settings.reporter.flushInterval.toNat),
    ("reporter.heartbeat_interval_secs", settings.reporter.heartbeatSeconds.toNat),
    ("reporter.shutdown_timeout_ms", settings.reporter.shutdownTimeout.toNat)]

/-- No number is left out: settings that agree in these, and in all that is not a number, are the same. -/
theorem ext_of_numbers {first second : AgentSettings} (same : first.numbers = second.numbers)
    (agentId : first.agentId? = second.agentId?)
    (serverUrl : first.reporter.serverUrl = second.reporter.serverUrl)
    (heartbeatUrl : first.reporter.heartbeatUrl? = second.reporter.heartbeatUrl?)
    (flushMode : first.reporter.flushMode = second.reporter.flushMode) : first = second := by
  obtain ⟨_, _, ⟨_, _⟩⟩ := first
  obtain ⟨_, _, ⟨_, _⟩⟩ := second
  simp only [numbers, List.cons.injEq, Prod.mk.injEq, true_and, and_true, UInt64.toNat_inj,
    UInt32.toNat_inj] at same
  simp_all

/-- What the settings are asked for. -/
def demands (settings : AgentSettings) : List Demand :=
  [.excluding (settings.agentId? = some "") (.emptyWhenSet "agent.agent_id"),
    .positive "agent.collect_interval_ms" settings.collectInterval,
    .nonEmpty "reporter.server_url" settings.reporter.serverUrl,
    .positive "reporter.timeout_ms" settings.reporter.timeout,
    .positive "reporter.batch_size" settings.reporter.batchSize,
    .positive "reporter.flush_interval_ms" settings.reporter.flushInterval,
    .positive "reporter.heartbeat_interval_secs" settings.reporter.heartbeatSeconds,
    .positive "reporter.shutdown_timeout_ms" settings.reporter.shutdownTimeout]

/-- The check says of the settings what is said of the demands. -/
theorem check_eq_verdict (settings : AgentSettings) : check settings = Demand.verdict settings.demands := by
  simp only [check, ReporterSettings.check, demands, Demand.verdict_cons, Demand.verdict_nil,
    Demand.check_excluding_bind, Demand.check_positive, Demand.check_nonEmpty, bind_pure_unit]

/-- The settings pass their check exactly if no text is empty that must not be, and every number is greater than
zero except for the number of retries and their delay. -/
theorem check_eq_ok_iff (settings : AgentSettings) :
    check settings = .ok () ↔ settings.agentId? ≠ some "" ∧ settings.reporter.serverUrl ≠ "" ∧
      ∀ number ∈ settings.numbers, number.1 ≠ "reporter.retry_count" →
        number.1 ≠ "reporter.retry_delay_ms" → 0 < number.2 := by
  rw [check_eq_verdict, Demand.verdict_eq_ok_iff]
  simp only [demands, numbers, List.forall_mem_cons, List.not_mem_nil, false_implies, implies_true,
    and_true, Demand.met_excluding, Demand.met_positive, Demand.met_nonEmpty, ne_eq, String.reduceEq,
    not_false_eq_true, not_true_eq_false, true_implies]
  tauto

/-- Every number but that of retries is greater than zero exactly if all that are checked are, and the delay between
retries is as well. -/
theorem numbers_positive_iff (settings : AgentSettings) :
    (∀ number ∈ settings.numbers, number.1 ≠ "reporter.retry_count" → 0 < number.2) ↔
      (∀ number ∈ settings.numbers, number.1 ≠ "reporter.retry_count" →
        number.1 ≠ "reporter.retry_delay_ms" → 0 < number.2) ∧
      0 < settings.reporter.retryDelay.toNat := by
  simp only [numbers, List.forall_mem_cons, List.not_mem_nil, false_implies, implies_true, and_true, ne_eq,
    String.reduceEq, not_false_eq_true, not_true_eq_false, true_implies]
  tauto

/-- The demands are about the numbers of the settings. -/
theorem tells_demands (settings : AgentSettings) :
    ∀ demand ∈ settings.demands, demand.Tells settings.numbers := by
  simp only [demands, List.forall_mem_cons, List.not_mem_nil, false_implies, implies_true, and_true]
  refine ⟨Demand.tells_of_other nofun, Demand.tells_positive ?_, Demand.tells_of_other nofun,
    Demand.tells_positive ?_, Demand.tells_positive ?_, Demand.tells_positive ?_,
    Demand.tells_positive ?_, Demand.tells_positive ?_⟩
  all_goals simp [numbers]

/-- A text that is turned down for a number has a zero there. -/
theorem number_of_refusal {text name : String} {value : Nat}
    (refused : load text = .error (.invalid (.notPositive name value))) :
    ∃ settings, decoder.decode text = .ok settings ∧ value = 0 ∧ (name, 0) ∈ settings.numbers := by
  obtain ⟨settings, decoded, fails⟩ := SettingsError.checked_eq_invalid_iff.mp refused
  rw [check_eq_verdict] at fails
  exact ⟨settings, decoded, Demand.number_of_verdict settings.tells_demands fails⟩

end AgentSettings

/-! ## Both together -/

/-- A text is accepted for a server exactly if it decodes to settings whose host is not empty and whose numbers are
all greater than zero. For an agent it is accepted exactly if it decodes to settings without an empty text where
there must be none, whose numbers are greater than zero except for the number of retries and the delay between
them. So in accepted settings of an agent every number but that of retries is greater than zero exactly if the
delay is. -/
theorem accepted_iff_positive (text : String) :
    (∀ settings, ServerSettings.load text = .ok settings ↔
      ServerSettings.decoder.decode text = .ok settings ∧ settings.host ≠ "" ∧
        ∀ number ∈ settings.numbers, 0 < number.2) ∧
    (∀ settings, AgentSettings.load text = .ok settings ↔
      AgentSettings.decoder.decode text = .ok settings ∧ settings.agentId? ≠ some "" ∧
        settings.reporter.serverUrl ≠ "" ∧
        ∀ number ∈ settings.numbers, number.1 ≠ "reporter.retry_count" →
          number.1 ≠ "reporter.retry_delay_ms" → 0 < number.2) ∧
    ∀ settings, AgentSettings.load text = .ok settings →
      ((∀ number ∈ settings.numbers, number.1 ≠ "reporter.retry_count" → 0 < number.2) ↔
        0 < settings.reporter.retryDelay) := by
  refine ⟨?_, ?_, ?_⟩
  · intro settings
    rw [ServerSettings.load, SettingsError.checked_eq_ok_iff, ServerSettings.check_eq_ok_iff]
  · intro settings
    rw [AgentSettings.load, SettingsError.checked_eq_ok_iff, AgentSettings.check_eq_ok_iff]
  · intro settings loads
    have passed := (SettingsError.checked_eq_ok loads).2
    obtain ⟨-, -, positive⟩ := (AgentSettings.check_eq_ok_iff settings).mp passed
    rw [AgentSettings.numbers_positive_iff, and_iff_right positive, UInt64.lt_iff_toNat_lt,
      UInt64.toNat_zero]

/-- An agent that sends to one server, and that repeats what fails a number of times after a delay. -/
def retrying (retryCount : UInt32) (retryDelay : UInt64) : AgentSettings where
  reporter := { serverUrl := "http://server/metrics", retryCount, retryDelay }

/-- The shortest settings of a server are accepted. So are those of an agent that repeats nothing, after one
millisecond, and all its other numbers are greater than zero. -/
theorem shortestSettings_accepted :
    (∃ settings, ServerSettings.load "[server]\nport = 1\nhost = \"h\"" = .ok settings ∧
      ∀ number ∈ settings.numbers, 0 < number.2) ∧
    AgentSettings.load ("[reporter]\nserver_url = \"http://server/metrics\"\nretry_count = 0\n" ++
        "retry_delay_ms = 1") = .ok (retrying 0 1) ∧
      ∀ number ∈ (retrying 0 1).numbers, number.1 ≠ "reporter.retry_count" → 0 < number.2 := by
  have server : ServerSettings.load "[server]\nport = 1\nhost = \"h\"" =
      .ok ⟨1, "h", {}, ServerSettings.standardLogInterval⟩ := by decide +kernel
  have agent : AgentSettings.load ("[reporter]\nserver_url = \"http://server/metrics\"\n" ++
      "retry_count = 0\nretry_delay_ms = 1") = .ok (retrying 0 1) := by decide +kernel
  exact ⟨⟨_, server, (((accepted_iff_positive _).1 _).mp server).2.2⟩, agent,
    ((accepted_iff_positive _).2.2 _ agent).mpr (by decide)⟩

/-- An agent is accepted with a delay of zero. -/
theorem zeroDelay_accepted :
    AgentSettings.load "[reporter]\nserver_url = \"http://server/metrics\"\nretry_delay_ms = 0" =
        .ok (retrying 3 0) ∧
      ("reporter.retry_delay_ms", 0) ∈ (retrying 3 0).numbers :=
  ⟨by decide +kernel, by decide⟩

end FleetTraffic
