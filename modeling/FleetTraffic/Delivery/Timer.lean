/-!
# Periodic timers

A timer ticks once a period. A tick that comes late by more than a few milliseconds moves the next one
to the next multiple of the period after now, so ticks that were missed are not made up for.
-/

namespace FleetTraffic

/-- A periodic timer, by milliseconds: when it ticks next, and its period. -/
structure Timer where
  due : Nat
  period : Nat
  deriving DecidableEq

namespace Timer

/-- The lateness that does not count. -/
def tolerance : Nat := 5

/-- The timer after a tick that is taken now. -/
def tick (timer : Timer) (now : Nat) : Timer :=
  { timer with
    due :=
      if timer.due + tolerance < now then now + timer.period - (now - timer.due) % timer.period
      else timer.due + timer.period }

/-- A bound for the ticks that are left from now up to a time. A tick that comes late is taken now. -/
def ticksLeft (timer : Timer) (now limit : Nat) : Nat :=
  limit + 1 - if timer.due + tolerance < now then now else timer.due

end Timer

end FleetTraffic
