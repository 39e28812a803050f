import ActivityFeed.Retry.Backoff

/-!
# Delays without jitter

A jitter that is not positive is none at all: of the delays that a draw might give, there is only
the one that the policy asks for, made as long as the shortest delay there is (`admits_next_iff`).
-/

namespace ActivityFeed

/-- A wait for whole milliseconds is over as soon as the duration has passed. -/
theorem Duration.add_ceilMillis_le_iff (d : Duration) (begun millis : Nat) :
    begun + d.ceilMillis ≤ millis ↔ begun * perMilli + d.nanos ≤ millis * perMilli := by
  unfold ceilMillis perMilli
  omega

namespace Binary64

theorem signedAt_zero (low : Int) (negative : Bool) (e : Int) : signedAt low negative 0 e = 0 := by
  cases negative <;> simp [signedAt]

/-- Bringing the exponent down does not change the sign. -/
theorem signedAt_le_zero_iff (low : Int) (negative : Bool) (m : Nat) (e : Int) :
    signedAt low negative m e ≤ 0 ↔ negative = true ∨ m = 0 := by
  have hzero : m * 2 ^ (e - low).toNat = 0 ↔ m = 0 := by
    have hpower : 2 ^ (e - low).toNat ≠ 0 := Nat.pos_iff_ne_zero.mp (Nat.two_pow_pos _)
    rw [Nat.mul_eq_zero, or_iff_left hpower]
  unfold signedAt
  generalize m * 2 ^ (e - low).toNat = scaled at hzero ⊢
  cases negative with
  | true =>
    show -(scaled : Int) ≤ 0 ↔ true = true ∨ m = 0
    simp
  | false =>
    show (scaled : Int) ≤ 0 ↔ false = true ∨ m = 0
    rw [← hzero]
    simp

theorem ofNat_zero : ofNat 0 = .finite false 0 minExponent :=
  rfl

/-- What is not positive is not above anything positive. -/
theorem le_eq_false_of_nonpos {x : Binary64} (h : le x (ofNat 0) = true) {m : Nat} (hm : m ≠ 0)
    (e : Int) : le (.finite false m e) x = false := by
  rw [ofNat_zero] at h
  cases x with
  | nan => cases h
  | infinite negative =>
    cases negative with
    | true => rfl
    | false => cases h
  | finite negative n f =>
    simp only [le, decide_eq_true_eq, signedAt_zero, signedAt_le_zero_iff] at h
    simp only [le, decide_eq_false_iff_not]
    intro hle
    have hpositive : ¬ signedAt (Min.min e f) false m e ≤ 0 := by
      rw [signedAt_le_zero_iff]
      simp [hm]
    have hnonpositive : signedAt (Min.min e f) negative n f ≤ 0 := by
      rw [signedAt_le_zero_iff]
      exact h
    omega

end Binary64

namespace Backoff

/-- The cut at the largest jitter leaves alone what is not positive. -/
theorem min_maxJitter {jitter : Binary64} (h : Binary64.le jitter (.ofNat 0) = true) :
    Binary64.min jitter maxJitter = jitter := by
  obtain ⟨m, e, hmax, hm⟩ : ∃ m e, maxJitter = .finite false m e ∧ m ≠ 0 :=
    ⟨_, _, rfl, by decide⟩
  have hbelow : Binary64.lt maxJitter jitter = false := by
    rw [Binary64.lt, hmax, Binary64.le_eq_false_of_nonpos h hm, Bool.false_and]
  rw [hmax] at hbelow ⊢
  cases jitter with
  | nan => cases h
  | infinite | finite => rw [Binary64.min, if_neg (by simp [hbelow])] <;> nofun

theorem effectiveJitter_eq_none {b : Backoff}
    (h : Binary64.le b.policy.jitter (.ofNat 0) = true) : b.effectiveJitter = none := by
  unfold effectiveJitter
  rw [min_maxJitter h]
  apply if_neg
  rw [Binary64.lt, h]
  simp

/-- **Without jitter there is one delay.** -/
theorem admits_next_iff {b : Backoff} (h : Binary64.le b.policy.jitter (.ofNat 0) = true)
    (actual : Duration) :
    b.next.1.admits actual = true ↔ actual = (b.delayAfter b.failures).max Delay.shortest := by
  have hjitter : b.next.1.jitter = none := effectiveJitter_eq_none h
  rw [Delay.admits, hjitter, decide_eq_true_eq]
  rfl

end Backoff

end ActivityFeed
