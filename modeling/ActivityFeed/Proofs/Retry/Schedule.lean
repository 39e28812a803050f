import ActivityFeed.Proofs.Binary64.Exact
import ActivityFeed.Proofs.Retry.Delay

/-!
# The schedule of doubling policies

If the factor of a policy is a power of two, and no delay has more than 53 bits of nanoseconds, then
floating point is of no consequence: every product is exact, or out of range and cut to the longest
delay like any other (`nanos_delayAfter`). Nor is it of any consequence that the count of failures
and the exponent stop growing, because the delays have stopped growing long before
(`min_mul_two_pow_min`).

Main result: `delays_of_doubling`.
-/

namespace ActivityFeed

/-- Policies without jitter whose delays grow by a power of two. A longest delay of less than 2 ^ 53
nanoseconds is one of up to 104 days. -/
structure RetryPolicy.Doubles (p : RetryPolicy) (j : Nat) : Prop where
  base_pos : 0 < p.base.nanos
  base_le_max : p.base.nanos ≤ p.max.nanos
  max_lt : p.max.nanos < 2 ^ (53 : Nat)
  factor_eq : p.factor = .ofNat (2 ^ j)
  jitter_nonpos : Binary64.le p.jitter (.ofNat 0) = true

namespace Backoff

/-- A scheduler after several more failures. -/
def after (b : Backoff) : Nat → Backoff
  | 0 => b
  | n + 1 => (b.after n).next.2

variable {b : Backoff} {p : RetryPolicy} {j : Nat}

theorem policy_after (b : Backoff) (n : Nat) : (b.after n).policy = b.policy := by
  induction n with
  | zero => rfl
  | succ n ih => exact ih

/-- The failures are counted up to the largest count. -/
theorem failures_after (hb : b.failures = 0) (n : Nat) :
    (b.after n).failures = min n maxFailures := by
  induction n with
  | zero => rw [after, hb, Nat.zero_min]
  | succ n ih =>
    show min ((b.after n).failures + 1) maxFailures = _
    rw [ih]
    omega

/-- **A delay without rounding.** -/
theorem nanos_delayAfter (h : p.Doubles j) (hb : b.policy = p) (n : Nat) :
    (b.delayAfter n).nanos
      = min (p.base.nanos * 2 ^ (j * min n maxExponent)) p.max.nanos := by
  have hbase : p.base.nanos ≠ 0 := Nat.pos_iff_ne_zero.mp h.base_pos
  have hmax : p.max.nanos ≠ 0 :=
    Nat.pos_iff_ne_zero.mp (Nat.lt_of_lt_of_le h.base_pos h.base_le_max)
  have hbits : p.base.nanos < 2 ^ (53 : Nat) := Nat.lt_of_le_of_lt h.base_le_max h.max_lt
  have hword : p.max.nanos ≤ Text.maxWord := Nat.le_trans (Nat.le_of_lt h.max_lt) (by decide)
  generalize hexponent : j * min n maxExponent = i
  show (Binary64.min (Binary64.mul (.ofNat b.policy.base.nanos)
    (Binary64.pow b.policy.factor (min n maxExponent))) (.ofNat b.policy.max.nanos)).toNatUpTo
      Text.maxWord = _
  rw [hb, h.factor_eq, Binary64.ofNat_two_pow, Binary64.pow_shifted, hexponent,
    Binary64.ofNat_eq_shifted hbase hbits, Binary64.ofNat_eq_shifted hmax h.max_lt,
    Binary64.mul_shifted hbase hbits, Nat.zero_add,
    Binary64.min_shifted hbase hbits hmax h.max_lt]
  by_cases hcut : p.max.nanos < p.base.nanos * 2 ^ i
  · have hwhole : p.max.nanos * 2 ^ 0 = p.max.nanos := by rw [Nat.pow_zero, Nat.mul_one]
    rw [if_pos hcut, Binary64.toNatUpTo_shifted hmax (hwhole.symm ▸ h.max_lt), hwhole,
      Nat.min_eq_right (Nat.le_of_lt hcut)]
    exact Nat.min_eq_left hword
  · have hle : p.base.nanos * 2 ^ i ≤ p.max.nanos := Nat.le_of_not_lt hcut
    rw [if_neg hcut, Binary64.toNatUpTo_shifted hbase (Nat.lt_of_le_of_lt hle h.max_lt),
      Nat.min_eq_left hle]
    exact Nat.min_eq_left (Nat.le_trans hle hword)

/-- What has at most 53 bits is cut long before the largest exponent. -/
theorem min_mul_two_pow_min {base longest limit : Nat} (hbase : 0 < base)
    (hbits : longest < 2 ^ (53 : Nat)) (hlimit : 53 ≤ limit) (j n : Nat) :
    min (base * 2 ^ (j * min n limit)) longest = min (base * 2 ^ (j * n)) longest := by
  rcases Nat.le_total n limit with hle | hge
  · rw [Nat.min_eq_left hle]
  · rcases Nat.eq_zero_or_pos j with rfl | hj
    · rw [Nat.zero_mul, Nat.zero_mul]
    · have hlarge : ∀ m, 53 ≤ m → longest ≤ base * 2 ^ (j * m) := by
        intro m hm
        have hexponent : 53 ≤ j * m := Nat.le_trans hm (Nat.le_mul_of_pos_left m hj)
        calc longest ≤ 2 ^ (53 : Nat) := Nat.le_of_lt hbits
          _ ≤ 2 ^ (j * m) := Nat.pow_le_pow_right (by decide) hexponent
          _ ≤ base * 2 ^ (j * m) := Nat.le_mul_of_pos_left _ hbase
      rw [Nat.min_eq_right hge, Nat.min_eq_right (hlarge limit hlimit),
        Nat.min_eq_right (hlarge n (Nat.le_trans hlimit hge))]

/-- The exact delay after some number of earlier failures. -/
def exactNanos (p : RetryPolicy) (j n : Nat) : Nat :=
  max 1000000 (min (p.base.nanos * 2 ^ (j * n)) p.max.nanos)

theorem exactNanos_mono {m n : Nat} (h : m ≤ n) : exactNanos p j m ≤ exactNanos p j n := by
  have hgrowth : p.base.nanos * 2 ^ (j * m) ≤ p.base.nanos * 2 ^ (j * n) :=
    Nat.mul_le_mul_left _ (Nat.pow_le_pow_right (by decide) (Nat.mul_le_mul_left j h))
  unfold exactNanos
  omega

theorem exactNanos_zero (h : p.Doubles j) : exactNanos p j 0 = max 1000000 p.base.nanos := by
  rw [exactNanos, Nat.mul_zero, Nat.pow_zero, Nat.mul_one, Nat.min_eq_left h.base_le_max]

/-- What a scheduler gives that has seen some number of failures in a row. -/
theorem nanos_undisturbed (h : p.Doubles j) {start : Backoff} (hpolicy : start.policy = p)
    (hfresh : start.failures = 0) (n : Nat) :
    (start.after n).next.1.undisturbed.nanos = exactNanos p j n := by
  have hbits : p.max.nanos < 2 ^ (53 : Nat) := h.max_lt
  show Nat.max ((start.after n).delayAfter (start.after n).failures).nanos _ = _
  rw [nanos_delayAfter h ((policy_after start n).trans hpolicy), failures_after hfresh,
    Nat.min_assoc, show min maxFailures maxExponent = maxExponent from rfl,
    min_mul_two_pow_min h.base_pos hbits (by decide)]
  exact Nat.max_comm ..

/-- **The schedule is exact.** A policy multiplies by a power of two and has no jitter. After any
number of failures since a scheduler was made or last reset, there is one delay that it may give,
and that is the exact one, cut to the longest delay and no shorter than a millisecond. So the delays
do not fall from one failure to the next, none is zero or longer than the longest one (or the
millisecond), and the first one after a reset is the base delay again. The count of failures stops
at its largest value, which does not show in the delays. -/
theorem delays_of_doubling (h : p.Doubles j) {start : Backoff}
    (hstart : start = .new p ∨ ∃ b : Backoff, b.policy = p ∧ start = b.reset) :
    let delay := fun n => (start.after n).next.1.undisturbed.nanos
    (∀ n, delay n = max 1000000 (min (p.base.nanos * 2 ^ (j * n)) p.max.nanos))
      ∧ (∀ n actual, (start.after n).next.1.admits actual = true ↔ actual.nanos = delay n)
      ∧ (∀ n, (start.after n).failures = min n 4294967295)
      ∧ (∀ m n, m ≤ n → delay m ≤ delay n)
      ∧ (∀ n, delay n ≠ 0 ∧ delay n ≤ max 1000000 p.max.nanos)
      ∧ delay 0 = max 1000000 p.base.nanos := by
  intro delay
  obtain ⟨hpolicy, hfresh⟩ : start.policy = p ∧ start.failures = 0 := by
    rcases hstart with rfl | ⟨b, rfl, rfl⟩
    · exact ⟨rfl, rfl⟩
    · exact ⟨rfl, rfl⟩
  have hdelay : ∀ n, delay n = exactNanos p j n := nanos_undisturbed h hpolicy hfresh
  refine ⟨hdelay, fun n actual => ?_, failures_after hfresh, fun m n hle => ?_, fun n => ?_, ?_⟩
  · have hjitter : Binary64.le (start.after n).policy.jitter (.ofNat 0) = true := by
      rw [policy_after, hpolicy]
      exact h.jitter_nonpos
    rw [admits_next_iff hjitter]
    exact ⟨congrArg Duration.nanos, fun heq => congrArg Duration.mk heq⟩
  · rw [hdelay, hdelay]
    exact exactNanos_mono hle
  · rw [hdelay, exactNanos]
    omega
  · rw [hdelay, exactNanos_zero h]

/-- One second, doubled up to thirty seconds: the fourth delay is eight seconds, and after more
failures than are counted it is still thirty. -/
theorem delays_of_doubling_standard :
    let p := { RetryPolicy.standard with jitter := .ofNat 0 }
    let start := ((Backoff.new p).after 2).reset
    (start.after 3).next.1.admits (.ofSeconds 8) = true
      ∧ (start.after 5000000000).next.1.undisturbed.nanos = 30000000000
      ∧ (start.after 5000000000).failures = 4294967295 := by
  intro p start
  have hdoubles : p.Doubles 1 :=
    { base_pos := by decide
      base_le_max := by decide
      max_lt := by decide
      factor_eq := rfl
      jitter_nonpos := by decide }
  obtain ⟨hdelay, hadmits, hfailures, hmono, hbounds, -⟩ :=
    delays_of_doubling hdoubles (.inr ⟨(Backoff.new p).after 2, rfl, rfl⟩)
  have hthird : (start.after 3).next.1.undisturbed.nanos = (Duration.ofSeconds 8).nanos :=
    (hdelay 3).trans (by decide)
  have hfifth : (start.after 5).next.1.undisturbed.nanos = 30000000000 :=
    (hdelay 5).trans (by decide)
  refine ⟨(hadmits 3 _).mpr hthird.symm, ?_⟩
  generalize hn : 5000000000 = n
  have hlow : 30000000000 ≤ (start.after n).next.1.undisturbed.nanos :=
    Nat.le_trans (Nat.le_of_eq hfifth.symm) (hmono 5 n (by omega))
  have hhigh : (start.after n).next.1.undisturbed.nanos ≤ 30000000000 := (hbounds n).2
  refine ⟨Nat.le_antisymm hhigh hlow, (hfailures n).trans ?_⟩
  rw [← hn]
  decide

end Backoff

end ActivityFeed
