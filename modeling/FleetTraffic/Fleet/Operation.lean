import FleetTraffic.Agent

/-!
# Operations on a fleet

What can happen to the server's picture of its fleet, with the time at which it happens, and what the
server answers to it.
-/

namespace FleetTraffic

/-- Something that changes the picture of the fleet. -/
inductive FleetOperation where
  /-- A report arrives. -/
  | report (report : Report) (now : Instant)
  /-- An agent shows that it runs. -/
  | touch (agent : String) (now : Instant)
  /-- An agent shows that it runs and describes itself. -/
  | heartbeat (heartbeat : Heartbeat) (now : Instant)
  /-- Agents that were last heard from more than `maxAge` ago are forgotten. -/
  | expire (maxAge : Duration) (now : Instant)
  deriving DecidableEq

/-- The answer to an operation. -/
inductive FleetAnswer where
  /-- The verdict on a report. -/
  | verdict (verdict : RestartVerdict)
  /-- Whether the agent of a heartbeat is known. -/
  | known (known : Bool)
  /-- The agents that were forgotten. -/
  | forgotten (agents : List String)
  deriving DecidableEq

/-- How many agents there are, how many of them are live, and how many domains have traffic. -/
structure FleetStats where
  agents : Nat
  liveAgents : Nat
  domains : Nat
  deriving DecidableEq

end FleetTraffic
