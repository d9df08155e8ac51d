import FleetTraffic.Calendar.Instant

/-!
# The identity of an agent

The name, the host and the startup that an agent puts on everything it sends.
-/

namespace FleetTraffic

/-- Who is reporting. -/
structure AgentIdentity where
  agentId : String
  hostname : String
  startup : Instant
  deriving DecidableEq

namespace AgentIdentity

/-- The whole seconds from 1970 to an instant, none before 1970. -/
def unixSeconds (now : Instant) : Nat := (now.since Instant.epoch).wholeSeconds.toNat

/-- The identity of an agent that starts now on a host. Without a name of its own it is named after
the host and the time, so that every start gives another name. -/
def detect (agentId? : Option String) (hostname : String) (now : Instant) : AgentIdentity where
  agentId := agentId?.getD (hostname ++ "-" ++ toString (unixSeconds now))
  hostname := hostname
  startup := now

end AgentIdentity

end FleetTraffic
