/-!
# Spans of time

A signed span between two instants, as whole seconds and the nanoseconds above them, and a length of time, as
nanoseconds. The longest span is 2^63 − 1 milliseconds; a length of time beyond it stands for that longest span.
-/

namespace FleetTraffic

/-- The number of nanoseconds in a second. -/
def nanosPerSecond : Nat := 1000000000

/-- A signed span: `seconds` rounded down, and the nanoseconds that remain. -/
structure Span where
  seconds : Int
  nanos : Nat
  deriving DecidableEq

namespace Span

/-- Shorter spans come first; of spans with the same whole seconds, the one with fewer nanoseconds. -/
def shorter (first second : Span) : Bool :=
  first.seconds < second.seconds || (first.seconds == second.seconds && first.nanos < second.nanos)

/-- The longest span, 2^63 − 1 milliseconds. -/
def longest : Span := ⟨9223372036854775, 807000000⟩

/-- The whole seconds of a span, dropping the fraction towards zero. -/
def wholeSeconds (span : Span) : Int :=
  if span.seconds < 0 ∧ 0 < span.nanos then span.seconds + 1 else span.seconds

end Span

/-- A length of time, in nanoseconds. -/
structure Duration where
  nanos : Nat
  deriving DecidableEq

namespace Duration

/-- A number of seconds. -/
def ofSeconds (seconds : UInt64) : Duration := ⟨seconds.toNat * nanosPerSecond⟩

/-- The span of a length of time, or the longest span if that is shorter. -/
def toSpan (duration : Duration) : Span :=
  let span : Span := ⟨duration.nanos / nanosPerSecond, duration.nanos % nanosPerSecond⟩
  if span.shorter .longest then span else .longest

end Duration

end FleetTraffic
