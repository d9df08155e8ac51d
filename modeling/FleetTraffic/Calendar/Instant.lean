import FleetTraffic.Calendar.Date
import FleetTraffic.Calendar.Span

/-!
# Instants

A point of time in UTC with nanoseconds. The last second of a minute may be followed by a leap
second, written as a fraction of a second or more on top of second 59, so a leap second lies between
`:59.999999999` and the next minute.

Instants are ordered by `rank`, a number in mixed radix that has the year as its most significant
digit and the fraction as its least. A difference counts days by the calendar and a leap second only
if one of the two instants lies in it.
-/

namespace FleetTraffic

/-- The number of seconds in a day without leap seconds. -/
def secondsPerDay : Nat := 86400

/-- A point of time in UTC. -/
structure Instant where
  date : Date
  second : Nat
  nano : Nat
  second_bound : second < secondsPerDay
  nano_bound : nano < 2 * nanosPerSecond
  leap_place : nanosPerSecond ≤ nano → second % 60 = 59
  deriving DecidableEq

namespace Instant

/-- The instant with the given parts, if there is one. -/
def of? (date : Date) (second nano : Nat) : Option Instant :=
  if inDay : second < secondsPerDay then
    if inSecond : nano < 2 * nanosPerSecond then
      if place : nanosPerSecond ≤ nano → second % 60 = 59 then
        some ⟨date, second, nano, inDay, inSecond, place⟩
      else none
    else none
  else none

/-- The first instant of 1970. -/
def epoch : Instant where
  date := ⟨1970, 1, 1, by decide, by decide, by decide⟩
  second := 0
  nano := 0
  second_bound := by decide
  nano_bound := by decide
  leap_place := by decide

instance : Inhabited Instant := ⟨epoch⟩

/-- The place of an instant in the order of time. -/
def rank (instant : Instant) : Int :=
  ((((instant.date.year * 13 + instant.date.month) * 32 + instant.date.day) * secondsPerDay +
    instant.second) * (2 * nanosPerSecond) + instant.nano)

instance : LT Instant := ⟨fun first second => first.rank < second.rank⟩

instance (first second : Instant) : Decidable (first < second) :=
  inferInstanceAs (Decidable (first.rank < second.rank))

/-- The later of two instants. -/
def later (first second : Instant) : Instant := if first < second then second else first

/-- The seconds that a leap second adds to the distance between two times of day: one if the earlier
of them lies in a leap second, counted towards the later. -/
def leapAdjustment (first second : Instant) : Int :=
  if second.second < first.second then if nanosPerSecond ≤ second.nano then 1 else 0
  else if first.second < second.second then if nanosPerSecond ≤ first.nano then -1 else 0
  else 0

/-- The span from the second instant to the first. -/
def since (first second : Instant) : Span :=
  let days := first.date.dayNumber - second.date.dayNumber
  let fraction : Int := first.nano - second.nano
  { seconds := days * secondsPerDay + (first.second - second.second) + leapAdjustment first second +
      fraction / nanosPerSecond
    nanos := (fraction % nanosPerSecond).toNat }

/-- Move an instant back by a number of seconds less than a day, negative to move it forward. A
leap second moves as the last second of its minute. -/
def shiftBack? (instant : Instant) (seconds : Int) : Option Instant :=
  let moved : Int := instant.second - seconds
  if moved < 0 then do
    let date ← instant.date.previous?
    of? date (moved + secondsPerDay).toNat instant.nano
  else if moved < secondsPerDay then of? instant.date moved.toNat instant.nano
  else do
    let date ← instant.date.next?
    of? date (moved - secondsPerDay).toNat instant.nano

/-- Taking an instant apart and putting it together again gives the instant. -/
theorem of?_parts (instant : Instant) :
    of? instant.date instant.second instant.nano = some instant := by
  simp only [of?, instant.second_bound, instant.nano_bound, dif_pos]
  rw [dif_pos instant.leap_place]

/-- Instants of the same rank are equal, so the order of time is total. -/
theorem eq_of_rank_eq {first second : Instant} (same : first.rank = second.rank) :
    first = second := by
  obtain ⟨⟨year, month, day, _, ⟨_, _⟩, _, dayBound⟩, seconds, nano, inDay, inSecond, _⟩ := first
  obtain ⟨⟨year', month', day', _, ⟨_, _⟩, _, dayBound'⟩, seconds', nano', inDay', inSecond', _⟩ := second
  have short : daysInMonth year month ≤ 31 := by unfold daysInMonth; split <;> (try split) <;> omega
  have short' : daysInMonth year' month' ≤ 31 := by unfold daysInMonth; split <;> (try split) <;> omega
  simp only [rank, secondsPerDay, nanosPerSecond] at same inDay inDay' inSecond inSecond'
  have sameYear : year = year' := by omega
  have sameMonth : month = month' := by omega
  have sameDay : day = day' := by omega
  have sameSecond : seconds = seconds' := by omega
  have sameNano : nano = nano' := by omega
  subst sameYear sameMonth sameDay sameSecond sameNano
  rfl

end Instant

end FleetTraffic
