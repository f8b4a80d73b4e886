import QueryClause.Calendar.DateTime
import QueryClause.Number.Word64

/-!
# Time spans

A `TimeSpan` counts ticks of a hundred nanoseconds in 64 bits.  `TimeSpan.ofNanos` rounds a number
of nanoseconds to ticks and keeps to the range; `TimeSpan.nanos` is exact.
-/

namespace QueryClause

/-- A span of time in ticks of 100 nanoseconds. -/
structure TimeSpan where
  ticks : Int64
  deriving DecidableEq, Repr, Inhabited

namespace TimeSpan

/-- Ticks in a millisecond. -/
def ticksPerMillisecond : Int64 := 10000

/-- Ticks in a second. -/
def ticksPerSecond : Int64 := 10000000

/-- A number of seconds, or the nearer end of the range. -/
def ofSeconds (n : Int64) : TimeSpan := ⟨Word64.clamp (n.toInt * ticksPerSecond.toInt)⟩

/-- The length in seconds. -/
def totalSeconds (s : TimeSpan) : Float := s.ticks.toFloat / ticksPerSecond.toFloat

/-- The length in nanoseconds. -/
def nanos (s : TimeSpan) : Int := s.ticks.toInt * 100

/-- The span in the other direction, or the end of the range. -/
def reverse (s : TimeSpan) : TimeSpan := ⟨Word64.clamp (-s.ticks.toInt)⟩

/-- The microseconds in a number of nanoseconds, toward zero; a tenth of the largest 64-bit integer
where they have more than 64 bits. -/
def wholeMicros (n : Int) : Int :=
  let micros := n.tdiv 1000
  if Word64.fits micros then micros else 922337203685477580

/-- The span of so many nanoseconds: the microseconds toward zero, and the hundreds that the number
is above a multiple of a thousand. -/
def ofNanos (n : Int) : TimeSpan :=
  ⟨Word64.clamp ((Word64.clamp (wholeMicros n * 10)).toInt + n % 1000 / 100)⟩

end TimeSpan

end QueryClause
