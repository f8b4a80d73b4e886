import QueryClause.Calendar.Date

/-!
# Instants

A `DateTime` is a date and a time of day, counted in nanoseconds and without a time zone.  A leap
second is the 59th second of its minute with a nanosecond count from one thousand million up.

`DateTime.instant` places a point on the line of nanoseconds; `DateTime.shift?` moves along the line
and `DateTime.since` measures a distance on it.  Both count a leap second only where one of the
points lies in it.
-/

namespace QueryClause

/-- Nanoseconds in a second. -/
def nanosPerSecond : Nat := 1000000000

/-- Nanoseconds in a day without a leap second. -/
def nanosPerDay : Nat := 86400000000000

/-- A time of day. -/
structure TimeOfDay where
  /-- Seconds since midnight. -/
  seconds : Nat
  /-- Nanoseconds since the start of the second; a thousand million and more in a leap second. -/
  nanos : Nat
  seconds_lt : seconds < 86400
  nanos_lt : nanos < 1000000000 ∨ (nanos < 2000000000 ∧ seconds % 60 = 59)
  deriving DecidableEq, Repr

namespace TimeOfDay

/-- The first point of a day. -/
def midnight : TimeOfDay := ⟨0, 0, by decide, by decide⟩

/-- The last point of a day without a leap second. -/
def last : TimeOfDay := ⟨86399, 999999999, by decide, by decide⟩

instance : Inhabited TimeOfDay := ⟨midnight⟩

/-- The hour, from 0 to 23. -/
def hour (t : TimeOfDay) : Nat := t.seconds / 3600

/-- The minute, from 0 to 59. -/
def minute (t : TimeOfDay) : Nat := t.seconds / 60 % 60

/-- The second, from 0 to 59. -/
def second (t : TimeOfDay) : Nat := t.seconds % 60

/-- Whether the time lies in a leap second. -/
def isLeap (t : TimeOfDay) : Bool := nanosPerSecond ≤ t.nanos

/-- The time so many nanoseconds after midnight. -/
def ofNanos (n : Nat) : TimeOfDay where
  seconds := n / 1000000000 % 86400
  nanos := n % 1000000000
  seconds_lt := Nat.mod_lt _ (by decide)
  nanos_lt := .inl (Nat.mod_lt _ (by decide))

/-- The time with the given parts, if there is one. -/
def ofParts? (hour minute second nanos : Nat) : Option TimeOfDay :=
  if h : (hour < 24 ∧ minute < 60 ∧ second < 60) ∧
      (nanos < 1000000000 ∨ (nanos < 2000000000 ∧ second = 59)) then
    some ⟨hour * 3600 + minute * 60 + second, nanos, by omega, by omega⟩
  else none

/-- The order of the day. -/
def compare (s t : TimeOfDay) : Ordering :=
  (Ord.compare s.seconds t.seconds).then (Ord.compare s.nanos t.nanos)

end TimeOfDay

/-- A date with a time of day. -/
structure DateTime where
  date : Date
  time : TimeOfDay
  deriving DecidableEq, Repr, Inhabited

namespace DateTime

/-- The earliest point. -/
def first : DateTime := ⟨Date.first, TimeOfDay.midnight⟩

/-- The latest point. -/
def last : DateTime := ⟨Date.last, TimeOfDay.last⟩

/-- Earlier points come first. -/
def compare (s t : DateTime) : Ordering :=
  (Ord.compare s.date.number t.date.number).then (s.time.compare t.time)

/-- Nanoseconds since the start of year 1; a leap second runs into the next minute. -/
def instant (t : DateTime) : Int :=
  t.date.number * nanosPerDay + t.time.seconds * nanosPerSecond + t.time.nanos

/-- The point outside of leap seconds with the given place on the line, if the date is in range. -/
def ofInstant? (n : Int) : Option DateTime :=
  (Date.ofNumber? (n / nanosPerDay)).map fun date =>
    ⟨date, TimeOfDay.ofNanos (n % nanosPerDay).toNat⟩

/-- Move inside a leap second and less than a second before its start; `none` if the move ends
elsewhere. -/
def shiftInLeap? (t : DateTime) (n : Int) : Option DateTime :=
  if h : 1000000000 ≤ t.time.nanos ∧ -1000000000 < n ∧ t.time.nanos + n < 2000000000 then
    some { t with time := { t.time with
      nanos := (t.time.nanos + n).toNat
      nanos_lt := by have := t.time.nanos_lt; omega } }
  else none

/-- The point `n` nanoseconds later, if it is in range.  On the way out of a leap second, the leap
second counts for nothing when going forward, and as a second when going back. -/
def shift? (t : DateTime) (n : Int) : Option DateTime :=
  match t.shiftInLeap? n with
  | some u => some u
  | none =>
    if t.time.isLeap && 0 < n then ofInstant? (t.instant - nanosPerSecond + n)
    else ofInstant? (t.instant + n)

/-- The nanoseconds from `s` to `t`; a leap second at the earlier time of day has passed in full. -/
def since (t s : DateTime) : Int :=
  let extra : Int :=
    if s.time.seconds < t.time.seconds && s.time.isLeap then nanosPerSecond
    else if t.time.seconds < s.time.seconds && t.time.isLeap then -nanosPerSecond
    else 0
  t.instant - s.instant + extra

/-- The point that many months later, at the same time of day. -/
def addMonths? (t : DateTime) (n : Int) : Option DateTime :=
  (t.date.addMonths? n).map fun date => { t with date }

end DateTime

end QueryClause
