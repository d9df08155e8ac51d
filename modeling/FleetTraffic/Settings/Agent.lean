import FleetTraffic.Settings.Error
import FleetTraffic.Toml.Decoder

/-!
# Settings of an agent

Who the agent is, how often it takes snapshots, and how it delivers them. Every number but the number
and delay of retries must be greater than zero; the first violation in the order below counts. Times
are in milliseconds unless a name says otherwise.
-/

namespace FleetTraffic

/-- What becomes of several snapshots that are delivered together. -/
inductive FlushMode where
  /-- The latest of them is delivered. -/
  | latest
  /-- They are merged into one. -/
  | merge
  deriving DecidableEq

/-- Settings of the delivery. -/
structure ReporterSettings where
  serverUrl : String
  heartbeatUrl? : Option String := none
  timeout : UInt64 := 10000
  /-- The number of attempts after the first one. -/
  retryCount : UInt32 := 3
  retryDelay : UInt64 := 5000
  /-- The number of snapshots that are delivered together. -/
  batchSize : UInt64 := 10
  flushInterval : UInt64 := 10000
  heartbeatSeconds : UInt64 := 60
  /-- How long stopping may take. -/
  shutdownTimeout : UInt64 := 5000
  flushMode : FlushMode := .latest
  deriving DecidableEq

/-- Settings of an agent. -/
structure AgentSettings where
  /-- The name of the agent, if it is set. -/
  agentId? : Option String := none
  collectInterval : UInt64 := 5000
  reporter : ReporterSettings
  deriving DecidableEq

namespace ReporterSettings

/-- The number of snapshots that the queue holds: two batches. Asking for it fails if the product does not
fit into a word. -/
def queueCapacity? (settings : ReporterSettings) : Option UInt64 :=
  if settings.batchSize.toNat * 2 < UInt64.size then some (settings.batchSize * 2) else none

/-- The milliseconds between two heartbeats. -/
def heartbeatInterval (settings : ReporterSettings) : Nat := settings.heartbeatSeconds.toNat * 1000

/-- The first violation among the settings of the delivery, if there is one. -/
def check (settings : ReporterSettings) : Except Violation Unit := do
  Violation.nonEmpty "reporter.server_url" settings.serverUrl
  Violation.positive "reporter.timeout_ms" settings.timeout
  Violation.positive "reporter.batch_size" settings.batchSize
  Violation.positive "reporter.flush_interval_ms" settings.flushInterval
  Violation.positive "reporter.heartbeat_interval_secs" settings.heartbeatSeconds
  Violation.positive "reporter.shutdown_timeout_ms" settings.shutdownTimeout

end ReporterSettings

namespace AgentSettings

open TomlDecoder

/-- How often snapshots are taken when nothing is set. -/
def standardCollectInterval : UInt64 := 5000

/-- The name of the agent and how often it takes snapshots. -/
def agentDecoder : TomlDecoder (Option String × UInt64) :=
  record
    [ .withDefault "agent_id" text.present none,
      .withDefault "collect_interval_ms" word64 standardCollectInterval ]
    fun (agentId?, collectInterval, ()) => (agentId?, collectInterval)

/-- What becomes of several snapshots. -/
def flushModeDecoder : TomlDecoder FlushMode := enumeration [("latest", .latest), ("merge", .merge)]

/-- The settings of the delivery. -/
def reporterDecoder : TomlDecoder ReporterSettings :=
  let standard : ReporterSettings := { serverUrl := "" }
  record
    [ .required "server_url" text,
      .withDefault "heartbeat_url" text.present standard.heartbeatUrl?,
      .withDefault "timeout_ms" word64 standard.timeout,
      .withDefault "retry_count" word32 standard.retryCount,
      .withDefault "retry_delay_ms" word64 standard.retryDelay,
      .withDefault "batch_size" word64 standard.batchSize,
      .withDefault "flush_interval_ms" word64 standard.flushInterval,
      .withDefault "heartbeat_interval_secs" word64 standard.heartbeatSeconds,
      .withDefault "shutdown_timeout_ms" word64 standard.shutdownTimeout,
      .withDefault "flush_mode" flushModeDecoder standard.flushMode ]
    fun (serverUrl, heartbeatUrl?, timeout, retryCount, retryDelay, batchSize, flushInterval,
        heartbeatSeconds, shutdownTimeout, flushMode, ()) =>
      { serverUrl, heartbeatUrl?, timeout, retryCount, retryDelay, batchSize, flushInterval,
        heartbeatSeconds, shutdownTimeout, flushMode }

/-- The settings of an agent. -/
def decoder : TomlDecoder AgentSettings :=
  record
    [ .withDefault "agent" agentDecoder (none, standardCollectInterval),
      .required "reporter" reporterDecoder ]
    fun ((agentId?, collectInterval), reporter, ()) => { agentId?, collectInterval, reporter }

/-- The first violation among the settings, if there is one. -/
def check (settings : AgentSettings) : Except Violation Unit := do
  if settings.agentId? = some "" then
    throw (.emptyWhenSet "agent.agent_id")
  Violation.positive "agent.collect_interval_ms" settings.collectInterval
  settings.reporter.check

/-- The settings that a text gives. -/
def load (text : String) : Except SettingsError AgentSettings :=
  SettingsError.checked check (decoder.decode text)

/-- The settings that a file gives, if the file exists. -/
def loadFile (content? : Option String) : Except SettingsError AgentSettings :=
  match content? with
  | none => .error .noFile
  | some text => load text

end AgentSettings

end FleetTraffic
