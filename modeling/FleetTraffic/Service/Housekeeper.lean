import FleetTraffic.Fleet

/-!
# The housekeeper

Beside the requests, a housekeeper forgets agents that were silent for too long, at once when it is
started and then once a period, until it is told to end. It also looks at the numbers of the fleet at
times of its own, which changes nothing that can be asked for.

Nothing else happens to the fleet while time passes, so of the sweeps that fall into a stretch of
time at one time of day the first one finds all there is to find.
-/

namespace FleetTraffic

/-- What a housekeeper is doing. -/
inductive HousekeeperPhase where
  | unstarted
  | running
  | finished
  deriving DecidableEq

/-- A fleet with its housekeeper. Times are in milliseconds. -/
structure Housekeeper where
  fleet : Fleet
  /-- The time between two sweeps. -/
  period : Nat
  /-- The time between two looks at the numbers. -/
  statsPeriod : Nat
  /-- The silence after which an agent is forgotten. -/
  maxAge : Duration
  clock : Nat := 0
  /-- When the next sweep is due. -/
  due : Nat := 0
  phase : HousekeeperPhase := .unstarted
  /-- Whether it was told to end. -/
  told : Bool := false
  deriving DecidableEq

namespace Housekeeper

/-- Forget the agents that were silent for too long. -/
def sweep (keeper : Housekeeper) (wall : Instant) : Housekeeper :=
  { keeper with fleet := (keeper.fleet.expire keeper.maxAge wall).2 }

/-- The first time after the clock that is whole periods away from the due sweep. -/
def nextDue (keeper : Housekeeper) : Nat :=
  keeper.due + ((keeper.clock - keeper.due) / keeper.period + 1) * keeper.period

/-- Do what is due at the clock's time: end if told to, and sweep if it is time. -/
def settle (keeper : Housekeeper) (wall : Instant) : Housekeeper :=
  match keeper.phase with
  | .running =>
    if keeper.told then { keeper with phase := .finished }
    else if keeper.due ≤ keeper.clock then { keeper.sweep wall with due := keeper.nextDue }
    else keeper
  | _ => keeper

/-- Start the housekeeper. A period of zero ends it before it has done anything. -/
def start (keeper : Housekeeper) (wall : Instant) : Housekeeper :=
  match keeper.phase with
  | .unstarted =>
    if keeper.period = 0 ∨ keeper.statsPeriod = 0 then { keeper with phase := .finished }
    else { keeper with phase := .running, due := keeper.clock }.settle wall
  | _ => keeper

/-- Let a number of milliseconds pass. -/
def advance (keeper : Housekeeper) (wall : Instant) (time : Nat) : Housekeeper :=
  { keeper with clock := keeper.clock + time }.settle wall

/-- Tell the housekeeper to end. -/
def stop (keeper : Housekeeper) (wall : Instant) : Housekeeper :=
  { keeper with told := true }.settle wall

/-- Whether the housekeeper has ended, if it was started. -/
def finished? (keeper : Housekeeper) : Option Bool :=
  match keeper.phase with
  | .unstarted => none
  | .running => some false
  | .finished => some true

end Housekeeper

end FleetTraffic
