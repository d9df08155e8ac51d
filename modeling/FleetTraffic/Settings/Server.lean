import FleetTraffic.Settings.Aggregation
import FleetTraffic.Settings.Error
import FleetTraffic.Toml.Decoder

/-!
# Settings of the server

Where the server listens, how it adds up its fleet and how often it logs. Every number must be
greater than zero, and the host must not be empty; the first violation in the order below counts.
-/

namespace FleetTraffic

/-- Settings of the server. -/
structure ServerSettings where
  port : UInt16
  host : String
  aggregation : AggregationSettings
  /-- The seconds between two log lines about the fleet. -/
  statsLogInterval : UInt64
  deriving DecidableEq

namespace ServerSettings

open TomlDecoder

/-- The seconds between two log lines when nothing is set. -/
def standardLogInterval : UInt64 := 60

/-- Where the server listens: port and host. -/
def listenerDecoder : TomlDecoder (UInt16 × String) :=
  record [.required "port" word16, .required "host" text] fun (port, host, ()) => (port, host)

/-- The strategy of the aggregation. -/
def strategyDecoder : TomlDecoder Strategy :=
  enumeration [("incremental", .incremental), ("recompute", .recompute)]

/-- The settings of the aggregation. -/
def aggregationDecoder : TomlDecoder AggregationSettings :=
  let standard : AggregationSettings := {}
  record
    [ .withDefault "strategy" strategyDecoder standard.strategy,
      .withDefault "agent_timeout_secs" word64 standard.agentTimeout,
      .withDefault "cleanup_interval_secs" word64 standard.cleanupInterval,
      .withDefault "cleanup_max_age_secs" word64.present standard.cleanupMaxAge?,
      .withDefault "restart_detection" bool standard.restartDetection,
      .withDefault "baseline_tracking" bool standard.baselineTracking,
      .withDefault "cache_ttl_secs" word64 standard.cacheTtl ]
    fun (strategy, agentTimeout, cleanupInterval, cleanupMaxAge?, restartDetection,
        baselineTracking, cacheTtl, ()) =>
      { strategy, agentTimeout, cleanupInterval, cleanupMaxAge?, restartDetection,
        baselineTracking, cacheTtl }

/-- The seconds between two log lines. -/
def monitoringDecoder : TomlDecoder UInt64 :=
  record [.withDefault "stats_log_interval_secs" word64 standardLogInterval]
    fun (interval, ()) => interval

/-- The settings of the server. -/
def decoder : TomlDecoder ServerSettings :=
  record
    [ .required "server" listenerDecoder,
      .withDefault "aggregation" aggregationDecoder {},
      .withDefault "monitoring" monitoringDecoder standardLogInterval ]
    fun ((port, host), aggregation, statsLogInterval, ()) =>
      { port, host, aggregation, statsLogInterval }

/-- The first violation among the settings, if there is one. -/
def check (settings : ServerSettings) : Except Violation Unit := do
  if settings.port = 0 then
    throw (.portOutOfRange "server.port" settings.port.toNat)
  Violation.nonEmpty "server.host" settings.host
  Violation.positive "aggregation.agent_timeout_secs" settings.aggregation.agentTimeout
  Violation.positive "aggregation.cleanup_interval_secs" settings.aggregation.cleanupInterval
  match settings.aggregation.cleanupMaxAge? with
  | none => pure ()
  | some maxAge => Violation.positive "aggregation.cleanup_max_age_secs" maxAge
  Violation.positive "aggregation.cache_ttl_secs" settings.aggregation.cacheTtl
  Violation.positive "monitoring.stats_log_interval_secs" settings.statsLogInterval

/-- The settings that a text gives. -/
def load (text : String) : Except SettingsError ServerSettings :=
  SettingsError.checked check (decoder.decode text)

/-- The settings that a file gives, if the file exists. -/
def loadFile (content? : Option String) : Except SettingsError ServerSettings :=
  match content? with
  | none => .error .noFile
  | some text => load text

end ServerSettings

end FleetTraffic
