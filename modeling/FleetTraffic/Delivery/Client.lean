import FleetTraffic.Delivery.Error
import FleetTraffic.Delivery.Identity
import FleetTraffic.Http.Message
import FleetTraffic.Identity
import FleetTraffic.Json.Document
import FleetTraffic.Json.Printer
import FleetTraffic.Settings.Agent
import FleetTraffic.Url.Read
import FleetTraffic.Wire.Report

/-!
# The client of the service

An agent posts its reports to one URL and its heartbeats to another one. The network is not part of the
client: it takes a request and makes an exchange of it, which is either a response or nothing.
-/

namespace FleetTraffic

/-- What the network makes of a request. -/
inductive Exchange where
  /-- No response arrives, for a reason in words. -/
  | unreachable (cause : String)
  | responded (response : HttpResponse)
  deriving DecidableEq

/-- An agent's view of the service. -/
structure Client where
  reportUrl : Url
  heartbeatUrl : Url
  agentId : String
  hostname : String
  deriving DecidableEq

namespace Client

/-- The URL that a text stands for. -/
def readUrl (written : String) : Except DeliveryError Url :=
  (Url.ofText written).mapError fun error => .invalidUrl written error.message

/-- The URL for heartbeats: as set, or beside the one for reports. -/
def heartbeatUrlOf (settings : ReporterSettings) (reportUrl : Url) : Except DeliveryError Url :=
  match settings.heartbeatUrl? with
  | some written => readUrl written
  | none =>
    (reportUrl.sibling "heartbeat").mapError fun error =>
      .invalidUrl settings.serverUrl error.message

/-- The client of an agent under the given settings. -/
def ofSettings (settings : ReporterSettings) (agentId hostname : String) :
    Except DeliveryError Client := do
  let reportUrl ← readUrl settings.serverUrl
  let heartbeatUrl ← heartbeatUrlOf settings reportUrl
  return { reportUrl, heartbeatUrl, agentId, hostname }

/-- Whether a text may be the value of a header: it has no control characters other than tabs. -/
def isHeaderValue (value : String) : Bool :=
  value.toList.all fun c => c = '\t' || (0x20 ≤ c.toNat && c.toNat ≠ 0x7F)

/-- The request that posts a body. It can be made only if the agent's names may stand in headers. -/
def post (client : Client) (url : Url) (body : String) : Except DeliveryError HttpRequest :=
  if isHeaderValue client.agentId ∧ isHeaderValue client.hostname then
    .ok
      { method := .post
        target := url.text
        headers :=
          [ ("content-type", "application/json"),
            ("user-agent", "netmon-agent/" ++ serviceVersion),
            ("x-agent-id", client.agentId),
            ("x-hostname", client.hostname) ]
        body := body.toUTF8 }
  else .error (.transport "builder error")

/-- The request that delivers a report. -/
def reportRequest (client : Client) (body : String) : Except DeliveryError HttpRequest :=
  client.post client.reportUrl body

/-- The request that delivers a heartbeat. -/
def heartbeatRequest (client : Client) (heartbeat : Heartbeat) : Except DeliveryError HttpRequest :=
  client.post client.heartbeatUrl (JsonCodec.heartbeat.write heartbeat).toText

/-- What the agent reads in a response. It is delivered only if the status is 200 and the body says
so. -/
def readResponse (response : HttpResponse) : Except DeliveryError ReportResponse :=
  if response.status = 200 then
    match JsonCodec.response.decode (Document.ofBytes response.body) with
    | .error fault => .error (.rejected ("unreadable response: " ++ fault.text))
    | .ok answer => if answer.success then .ok answer else .error (.rejected answer.message)
  else .error (.status response.status)

/-- How an exchange ends for the agent. -/
def outcome : Exchange → Except DeliveryError Unit
  | .unreachable cause => .error (.transport cause)
  | .responded response => (readResponse response).map fun _ => ()

end Client

end FleetTraffic
