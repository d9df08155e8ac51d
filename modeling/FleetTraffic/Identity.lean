/-!
# Name and version

What the service answers when it is asked who it is, and what agents announce.
-/

namespace FleetTraffic

/-- The name of the service. -/
def serviceName : String := "netmon"

/-- The version of the service and of its agents. -/
def serviceVersion : String := "0.3.0"

end FleetTraffic
