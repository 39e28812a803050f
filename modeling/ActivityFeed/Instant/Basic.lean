import ActivityFeed.Calendar

/-!
# Instants

An instant is a number of whole seconds from the start of 1970 in UTC and a number of nanoseconds.
A leap second is the second before it with a thousand million nanoseconds more, so instants are
ordered first by their seconds and then by their nanoseconds.
-/

namespace ActivityFeed

/-- A point in time. -/
structure Instant where
  /-- Whole seconds from the start of 1970, rounded down. -/
  seconds : Int
  /-- Nanoseconds since that second; 10^9 and more in a leap second. -/
  nanos : Nat
deriving DecidableEq, Repr, Inhabited

namespace Instant

/-- Nanoseconds of a second. -/
def nanosPerSecond : Nat := 1000000000

/-- Seconds of a day. -/
def secondsPerDay : Int := 86400

/-- Whether an instant is at most as late as another one. -/
def le (a b : Instant) : Bool :=
  a.seconds < b.seconds || (a.seconds == b.seconds && a.nanos ≤ b.nanos)

instance : LE Instant := ⟨fun a b => le a b = true⟩

instance (a b : Instant) : Decidable (a ≤ b) := inferInstanceAs (Decidable (le a b = true))

/-- The time of a day in UTC, as clocks show it. -/
structure Civil where
  date : Date
  hour : Nat
  minute : Nat
  /-- Sixty in a leap second. -/
  second : Nat
  nanos : Nat
deriving DecidableEq, Repr, Inhabited

namespace Civil

/-- The years for which there are instants. -/
def hasYear (year : Int) : Bool :=
  -262143 ≤ year && year ≤ 262142

/-- Whether clocks and calendar can show it. -/
def isValid (c : Civil) : Bool :=
  c.date.isValid && hasYear c.date.year && c.hour ≤ 23 && c.minute ≤ 59 && c.second ≤ 60
    && c.nanos < nanosPerSecond

/-- The instant at which clocks show it. -/
def toInstant (c : Civil) : Instant :=
  let base : Int := c.date.toDays * secondsPerDay + c.hour * 3600 + c.minute * 60
  if c.second = 60 then ⟨base + 59, c.nanos + nanosPerSecond⟩
  else ⟨base + c.second, c.nanos⟩

end Civil

/-- What clocks show at an instant. -/
def civil (t : Instant) : Civil :=
  let ofDay := (t.seconds % secondsPerDay).toNat
  let leap := nanosPerSecond ≤ t.nanos
  { date := Date.ofDays (t.seconds / secondsPerDay)
    hour := ofDay / 3600
    minute := ofDay / 60 % 60
    second := ofDay % 60 + (if leap then 1 else 0)
    nanos := if leap then t.nanos - nanosPerSecond else t.nanos }

end Instant

end ActivityFeed
