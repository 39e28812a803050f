import ActivityFeed.Binary64.Basic
import ActivityFeed.Failure

/-!
# Durations and retry policies

A duration is a whole number of nanoseconds. After the `n`-th failure in a row, counted from zero,
the delay before the next attempt is `min (base · factor ^ n) max`, disturbed by a random fraction
of itself up to the jitter.
-/

namespace ActivityFeed

/-- A length of time. -/
structure Duration where
  nanos : Nat
deriving DecidableEq, Repr, Inhabited

namespace Duration

/-- Nanoseconds of a second. -/
def perSecond : Nat := 1000000000

/-- Nanoseconds of a millisecond. -/
def perMilli : Nat := 1000000

/-- Whole seconds and the nanoseconds after them. -/
def ofParts (seconds nanos : Nat) : Duration := ⟨seconds * perSecond + nanos⟩

/-- Whole seconds. -/
def ofSeconds (n : Nat) : Duration := ⟨n * perSecond⟩

/-- Whole milliseconds. -/
def ofMillis (n : Nat) : Duration := ⟨n * perMilli⟩

/-- The whole seconds. -/
def seconds (d : Duration) : Nat := d.nanos / perSecond

/-- The nanoseconds after the whole seconds. -/
def subsecond (d : Duration) : Nat := d.nanos % perSecond

/-- The whole milliseconds that are not shorter. -/
def ceilMillis (d : Duration) : Nat := (d.nanos + (perMilli - 1)) / perMilli

/-- The longer one. -/
def max (a b : Duration) : Duration := ⟨Nat.max a.nanos b.nanos⟩

end Duration

/-- How long to wait between attempts. -/
structure RetryPolicy where
  /-- The delay after the first failure. -/
  base : Duration
  /-- The growth from one failure to the next. -/
  factor : Binary64
  /-- The largest fraction of a delay by which it is disturbed. -/
  jitter : Binary64
  /-- The longest delay before it is disturbed. -/
  max : Duration
deriving DecidableEq, Repr, Inhabited

namespace RetryPolicy

/-- One second, doubled up to thirty seconds, a fifth of jitter. -/
def standard : RetryPolicy :=
  { base := .ofSeconds 1
    factor := .ofNat 2
    jitter := .ofRatio false 1 5
    max := .ofSeconds 30 }

/-- The first setting that is out of range. -/
def check (p : RetryPolicy) : Except Failure Unit :=
  if p.base.nanos = 0 then .error (.config "backoff.base_delay" "must be > 0")
  else if p.max.nanos < p.base.nanos then
    .error (.config "backoff.max_delay" "must be >= base_delay")
  else if !Binary64.le (.ofNat 1) p.factor || !p.factor.isFinite then
    .error (.config "backoff.factor" "must be >= 1.0")
  else if !Binary64.le (.ofNat 0) p.jitter || !Binary64.lt p.jitter (.ofNat 1) then
    .error (.config "backoff.jitter" "must be in [0, 1)")
  else .ok ()

end RetryPolicy

end ActivityFeed
