import ActivityFeed.Retry.Policy

/-!
# Retry delays

A `Backoff` counts the failures in a row and gives the delay after each. Delays are computed in
floating-point nanoseconds, where a growth out of range becomes infinite and is cut to the longest
delay like any other.
-/

namespace ActivityFeed

/-- A policy and the number of failures in a row. -/
structure Backoff where
  policy : RetryPolicy
  /-- Delays given since the last reset. -/
  failures : Nat
deriving DecidableEq, Repr, Inhabited

/-- A delay before the host has disturbed it. -/
structure Delay where
  /-- The delay that the policy asks for. -/
  nominal : Duration
  /-- The largest fraction by which it is disturbed, if it is. -/
  jitter : Option Binary64
deriving DecidableEq, Repr, Inhabited

namespace Delay

/-- The shortest delay there is. -/
def shortest : Duration := .ofMillis 1

/-- The delay if the host draws no disturbance. -/
def undisturbed (d : Delay) : Duration :=
  d.nominal.max shortest

/-- A fraction as a ratio of natural numbers; what is not finite counts as zero. -/
def ratio : Binary64 → Nat × Nat
  | .finite _ m e => (m * 2 ^ e.toNat, 2 ^ (-e).toNat)
  | _ => (0, 1)

/-- By how many nanoseconds a disturbed delay may be off. It is computed in seconds of 53 bits, in
four roundings, and then rounded to whole nanoseconds. -/
def slack (d : Delay) : Nat :=
  d.nominal.nanos / 2 ^ (50 : Nat) + 2

/-- Whether a draw may give a duration: it differs from the nominal delay by at most the jitter's
fraction of it, and is never shorter than the shortest delay. -/
def admits (d : Delay) (actual : Duration) : Bool :=
  match d.jitter with
  | none => actual = d.undisturbed
  | some jitter =>
    let (num, den) := ratio jitter
    let spread := d.nominal.nanos * num + d.slack * den
    shortest.nanos ≤ actual.nanos
      && (d.nominal.nanos * den ≤ actual.nanos * den + spread)
      && (actual = shortest || actual.nanos * den ≤ d.nominal.nanos * den + spread)

/-- The delay if chance draws a duration; what is no draw of this delay does not disturb it. -/
def actual (d : Delay) (drawn : Duration) : Duration :=
  if d.admits drawn then drawn else d.undisturbed

variable {d : Delay} {drawn : Duration}

theorem admits_undisturbed (d : Delay) : d.admits d.undisturbed = true := by
  unfold admits
  cases d.jitter with
  | none => exact decide_eq_true rfl
  | some jitter =>
    dsimp only
    generalize ratio jitter = fraction
    simp only [Bool.and_eq_true, Bool.or_eq_true, decide_eq_true_eq]
    -- either the nominal delay is long enough, or it is made so
    rcases Nat.le_total d.nominal.nanos shortest.nanos with hshort | hlong
    · have hundisturbed : d.undisturbed = shortest := congrArg Duration.mk (Nat.max_eq_right hshort)
      have hscaled := Nat.mul_le_mul_right fraction.2 hshort
      rw [hundisturbed]
      exact ⟨⟨Nat.le_refl _, by omega⟩, .inl rfl⟩
    · have hundisturbed : d.undisturbed = d.nominal := congrArg Duration.mk (Nat.max_eq_left hlong)
      rw [hundisturbed]
      exact ⟨⟨hlong, Nat.le_add_right ..⟩, .inr (Nat.le_add_right ..)⟩

/-- **Whatever chance draws, the delay is one that the policy admits.** -/
theorem admits_actual (d : Delay) (drawn : Duration) : d.admits (d.actual drawn) = true := by
  unfold actual
  split
  next h => exact h
  next => exact d.admits_undisturbed

/-- A draw of the delay is the delay. -/
theorem actual_of_admits (h : d.admits drawn = true) : d.actual drawn = drawn :=
  if_pos h

end Delay

namespace Backoff

/-- The largest fraction of jitter that is ever applied. -/
def maxJitter : Binary64 := .ofRatio false 99 100

/-- The largest count of failures. -/
def maxFailures : Nat := 4294967295

/-- The largest exponent of the growth. -/
def maxExponent : Nat := 2147483647

/-- A scheduler that has seen no failure. -/
def new (policy : RetryPolicy) : Backoff := ⟨policy, 0⟩

/-- The undisturbed delay after the given number of earlier failures. -/
def delayAfter (b : Backoff) (failures : Nat) : Duration :=
  let growth := Binary64.pow b.policy.factor (min failures maxExponent)
  let nanos := Binary64.min (Binary64.mul (.ofNat b.policy.base.nanos) growth)
    (.ofNat b.policy.max.nanos)
  ⟨nanos.toNatUpTo Text.maxWord⟩

/-- The fraction by which delays are disturbed, if they are. -/
def effectiveJitter (b : Backoff) : Option Binary64 :=
  let jitter := Binary64.min b.policy.jitter maxJitter
  if Binary64.lt (.ofNat 0) jitter then some jitter else none

/-- The delay after one more failure. -/
def next (b : Backoff) : Delay × Backoff :=
  (⟨b.delayAfter b.failures, b.effectiveJitter⟩,
    { b with failures := min (b.failures + 1) maxFailures })

/-- After a success. -/
def reset (b : Backoff) : Backoff := { b with failures := 0 }

end Backoff

end ActivityFeed
