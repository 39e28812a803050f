import ActivityFeed.Binary64.Basic

/-!
# Numbers shifted by whole powers of two

A natural number of at most 53 bits, times a power of two, is a number of the format as long as it
is in range, and infinite beyond that (`shifted`). Rounding leaves such a number alone
(`ofRatio_shifted`), so its product with a power of two is exact or infinite (`mul_shifted`), and
so is a power of a power of two, however it is computed (`pow_shifted`).
-/

namespace ActivityFeed.Binary64

/-- `n · 2 ^ i`, for a positive `n` of at most 53 bits; infinite if that is out of range. -/
def shifted (n i : Nat) : Binary64 :=
  if n.log2 + i < 1024 then .finite false (n * 2 ^ (52 - n.log2)) ((n.log2 + i : Nat) - 52)
  else .infinite false

/-! ## Rounding -/

theorem roundDiv_mul (q : Nat) {d : Nat} (hd : 0 < d) : roundDiv (q * d) d = q := by
  unfold roundDiv
  rw [Nat.mul_div_cancel q hd, Nat.mul_mod_left]
  exact if_pos (by omega)

section Shifted

variable {n : Nat}

theorem mantissa_ne_zero (hn : n ≠ 0) (i : Nat) : n * 2 ^ i ≠ 0 :=
  Nat.mul_ne_zero hn (Nat.pos_iff_ne_zero.mp (Nat.two_pow_pos i))

theorem log2_mul_two_pow (hn : n ≠ 0) (i : Nat) : (n * 2 ^ i).log2 = n.log2 + i := by
  induction i with
  | zero => rw [Nat.pow_zero, Nat.mul_one, Nat.add_zero]
  | succ i ih =>
    rw [Nat.pow_succ, ← Nat.mul_assoc, Nat.mul_comm _ 2, Nat.log2_two_mul (mantissa_ne_zero hn i),
      ih, Nat.add_assoc]

/-- The logarithm of a number times a power of two is a whole number more. -/
theorem floorLog_shifted (hn : n ≠ 0) {a b : Nat} (h : b ≤ a) :
    floorLog (n * 2 ^ a) (2 ^ b) = (n.log2 + (a - b) : Nat) := by
  unfold floorLog
  rw [log2_mul_two_pow hn, Nat.log2_two_pow]
  have hlog : ((n.log2 + a : Nat) : Int) - (b : Nat) = (n.log2 + (a - b) : Nat) := by omega
  have hnonneg : (-((n.log2 + (a - b) : Nat) : Int)).toNat = 0 := by omega
  have hexponent : b + (n.log2 + (a - b)) = n.log2 + a := by omega
  rw [hlog]
  dsimp only
  rw [hnonneg, Int.toNat_natCast, ← Nat.pow_add, hexponent, Nat.pow_add, Nat.pow_zero, Nat.mul_one]
  exact if_pos (Nat.mul_le_mul_right _ (Nat.log2_self_le hn))

theorem log2_le (hn : n ≠ 0) (hbits : n < 2 ^ (53 : Nat)) : n.log2 ≤ 52 := by
  have h := (Nat.log2_lt hn).mpr hbits
  omega

/-- The mantissa of a shifted number has exactly 53 bits. -/
theorem mantissa_lt (hn : n ≠ 0) (hbits : n < 2 ^ (53 : Nat)) :
    n * 2 ^ (52 - n.log2) < 2 ^ (53 : Nat) := by
  have hlog := log2_le hn hbits
  have hexponent : n.log2 + 1 + (52 - n.log2) = 53 := by omega
  calc n * 2 ^ (52 - n.log2)
      < 2 ^ (n.log2 + 1) * 2 ^ (52 - n.log2) :=
        Nat.mul_lt_mul_of_pos_right Nat.lt_log2_self (Nat.two_pow_pos _)
    _ = 2 ^ (53 : Nat) := by rw [← Nat.pow_add, hexponent]

/-- **Rounding leaves alone what has 53 bits**, and what is out of range becomes infinite. -/
theorem ofRatio_shifted (hn : n ≠ 0) (hbits : n < 2 ^ (53 : Nat)) {a b : Nat} (h : b ≤ a) :
    ofRatio false (n * 2 ^ a) (2 ^ b) = shifted n (a - b) := by
  have hlog := log2_le hn hbits
  have hnum := mantissa_ne_zero hn a
  have hmantissa := mantissa_lt hn hbits
  obtain ⟨e, he⟩ : ∃ e : Int, e = (n.log2 + (a - b) : Nat) - 52 := ⟨_, rfl⟩
  have hmax : max (floorLog (n * 2 ^ a) (2 ^ b) - 52) minExponent = e := by
    rw [floorLog_shifted hn h, ← he, minExponent]
    omega
  have hround : roundDiv (n * 2 ^ a * 2 ^ (-e).toNat) (2 ^ b * 2 ^ e.toNat)
      = n * 2 ^ (52 - n.log2) := by
    have hexponent : a + (-e).toNat = 52 - n.log2 + (b + e.toNat) := by omega
    rw [Nat.mul_assoc, ← Nat.pow_add, hexponent, Nat.pow_add, ← Nat.mul_assoc, ← Nat.pow_add]
    exact roundDiv_mul _ (Nat.two_pow_pos _)
  unfold ofRatio
  rw [if_neg hnum]
  dsimp only
  rw [hmax, hround, if_neg (Nat.ne_of_lt hmantissa)]
  dsimp only
  rw [shifted, maxExponent, he]
  by_cases hrange : n.log2 + (a - b) < 1024
  · rw [if_pos hrange, if_neg (by omega)]
  · rw [if_neg hrange, if_pos (by omega)]

theorem ofNat_eq_shifted (hn : n ≠ 0) (hbits : n < 2 ^ (53 : Nat)) : ofNat n = shifted n 0 := by
  have h := ofRatio_shifted hn hbits (Nat.le_refl 0)
  rwa [Nat.pow_zero, Nat.mul_one] at h

theorem ofNat_two_pow (j : Nat) : ofNat (2 ^ j) = shifted 1 j := by
  have h := ofRatio_shifted Nat.one_ne_zero (by decide) (Nat.zero_le j)
  rwa [Nat.one_mul, Nat.pow_zero] at h

/-! ## Products and powers -/

theorem shifted_of_lt {i : Nat} (h : n.log2 + i < 1024) :
    shifted n i = .finite false (n * 2 ^ (52 - n.log2)) ((n.log2 + i : Nat) - 52) :=
  if_pos h

theorem shifted_of_ge {i : Nat} (h : 1024 ≤ n.log2 + i) : shifted n i = .infinite false :=
  if_neg (Nat.not_lt.mpr h)

theorem mul_infinite {m : Nat} (hm : m ≠ 0) (e : Int) :
    mul (.finite false m e) (.infinite false) = .infinite false :=
  if_neg hm

theorem infinite_mul {m : Nat} (hm : m ≠ 0) (e : Int) :
    mul (.infinite false) (.finite false m e) = .infinite false :=
  if_neg hm

/-- **A product with a power of two is exact**, or infinite if it is out of range. -/
theorem mul_shifted (hn : n ≠ 0) (hbits : n < 2 ^ (53 : Nat)) (i k : Nat) :
    mul (shifted n i) (shifted 1 k) = shifted n (i + k) := by
  have hlog := log2_le hn hbits
  have hone : Nat.log2 1 = 0 := by decide
  rcases Nat.lt_or_ge (n.log2 + i) 1024 with hi | hi
  · rcases Nat.lt_or_ge (Nat.log2 1 + k) 1024 with hk | hk
    · rw [shifted_of_lt hi, shifted_of_lt hk, hone]
      obtain ⟨e, he⟩ : ∃ e : Int, e = (n.log2 + i : Nat) - 52 + ((0 + k : Nat) - 52) := ⟨_, rfl⟩
      show ofScaled false _ _ = _
      rw [ofScaled, ← he]
      have hnum : n * 2 ^ (52 - n.log2) * (1 * 2 ^ (52 - 0)) * 2 ^ e.toNat
          = n * 2 ^ (52 - n.log2 + 52 + e.toNat) := by
        rw [Nat.one_mul, Nat.sub_zero, Nat.mul_assoc, Nat.mul_assoc, ← Nat.pow_add, ← Nat.pow_add,
          Nat.add_assoc]
      have hshift : 52 - n.log2 + 52 + e.toNat - (-e).toNat = i + k := by omega
      rw [hnum, ofRatio_shifted hn hbits (by omega), hshift]
    · rw [shifted_of_lt hi, shifted_of_ge hk, shifted_of_ge (by omega)]
      exact mul_infinite (mantissa_ne_zero hn _) _
  · rw [shifted_of_ge hi, shifted_of_ge (show 1024 ≤ n.log2 + (i + k) by omega)]
    rcases Nat.lt_or_ge (Nat.log2 1 + k) 1024 with hk | hk
    · rw [shifted_of_lt hk]
      exact infinite_mul (mantissa_ne_zero Nat.one_ne_zero _) _
    · rw [shifted_of_ge hk]
      rfl

/-! ## Order and whole numbers -/

theorem two_pow_le_shifted (hn : n ≠ 0) (i : Nat) : 2 ^ (n.log2 + i) ≤ n * 2 ^ i := by
  rw [Nat.pow_add]
  exact Nat.mul_le_mul_right _ (Nat.log2_self_le hn)

/-- The mantissa brought down to a lower exponent, and up again to one that all numbers share. -/
theorem signedAt_shifted (hn : n ≠ 0) (hbits : n < 2 ^ (53 : Nat)) (i : Nat) {low : Int}
    (hlow : low ≤ (n.log2 + i : Nat) - 52) (hshared : -52 ≤ low) :
    signedAt low false (n * 2 ^ (52 - n.log2)) ((n.log2 + i : Nat) - 52)
      * (2 ^ (low + 52).toNat : Nat) = (n * 2 ^ i * 2 ^ (52 : Nat) : Nat) := by
  have hlog := log2_le hn hbits
  have hexponent : 52 - n.log2 + ((((n.log2 + i : Nat) : Int) - 52 - low).toNat
      + (low + 52).toNat) = i + 52 := by omega
  show ((n * 2 ^ (52 - n.log2) * 2 ^ (_ : Nat) : Nat) : Int) * _ = _
  rw [← Int.natCast_mul, Nat.mul_assoc, Nat.mul_assoc, ← Nat.pow_add, ← Nat.pow_add, hexponent,
    Nat.pow_add, Nat.mul_assoc]

/-- **Numbers in range compare as they are.** -/
theorem le_shifted {m : Nat} (hn : n ≠ 0) (hbits : n < 2 ^ (53 : Nat)) (hm : m ≠ 0)
    (hmbits : m < 2 ^ (53 : Nat)) {i k : Nat} (hi : n.log2 + i < 1024) (hk : m.log2 + k < 1024) :
    le (shifted n i) (shifted m k) = true ↔ n * 2 ^ i ≤ m * 2 ^ k := by
  rw [shifted_of_lt hi, shifted_of_lt hk, le, decide_eq_true_eq]
  obtain ⟨low, hlow⟩ : ∃ low : Int, low
      = Min.min (((n.log2 + i : Nat) : Int) - 52) (((m.log2 + k : Nat) : Int) - 52) := ⟨_, rfl⟩
  have hpositive : (0 : Int) < (2 ^ (low + 52).toNat : Nat) :=
    Int.natCast_pos.mpr (Nat.two_pow_pos _)
  rw [← hlow, ← Int.mul_le_mul_iff_of_pos_right hpositive,
    signedAt_shifted hn hbits i (by omega) (by omega),
    signedAt_shifted hm hmbits k (by omega) (by omega), Int.ofNat_le]
  exact Nat.mul_le_mul_right_iff (Nat.two_pow_pos _)

theorem min_of_ne_nan {x y : Binary64} (hx : x ≠ .nan) (hy : y ≠ .nan) :
    Binary64.min x y = if lt y x = true then y else x := by
  cases x with
  | nan => exact absurd rfl hx
  | infinite | finite =>
    cases y with
    | nan => exact absurd rfl hy
    | infinite | finite => rfl

theorem shifted_ne_nan (i : Nat) : shifted n i ≠ .nan := by
  unfold shifted
  split <;> nofun

/-- **What is not larger than a whole number is left, and anything else is cut to it**, be it out of
range. -/
theorem min_shifted {m : Nat} (hn : n ≠ 0) (hbits : n < 2 ^ (53 : Nat)) (hm : m ≠ 0)
    (hmbits : m < 2 ^ (53 : Nat)) (i : Nat) :
    Binary64.min (shifted n i) (shifted m 0)
      = if m < n * 2 ^ i then shifted m 0 else shifted n i := by
  have hmlog := log2_le hm hmbits
  have hm0 : m.log2 + 0 < 1024 := by omega
  rw [min_of_ne_nan (shifted_ne_nan i) (shifted_ne_nan 0)]
  rcases Nat.lt_or_ge (n.log2 + i) 1024 with hi | hi
  · have hlt : lt (shifted m 0) (shifted n i) = true ↔ m < n * 2 ^ i := by
      rw [lt, Bool.and_eq_true, Bool.not_eq_true', ← Bool.not_eq_true,
        le_shifted hm hmbits hn hbits hm0 hi, le_shifted hn hbits hm hmbits hi hm0, Nat.pow_zero,
        Nat.mul_one]
      omega
    simp only [hlt]
  · have hlarge : m < n * 2 ^ i := by
      calc m < 2 ^ (53 : Nat) := hmbits
        _ ≤ 2 ^ (n.log2 + i) := Nat.pow_le_pow_right (by decide) (by omega)
        _ ≤ n * 2 ^ i := two_pow_le_shifted hn i
    have hlt : lt (shifted m 0) (shifted n i) = true := by
      rw [shifted_of_lt hm0, shifted_of_ge hi]
      rfl
    rw [if_pos hlt, if_pos hlarge]

/-- **A whole number is rounded to itself.** -/
theorem toNatUpTo_shifted (hn : n ≠ 0) {i : Nat} (hbits : n * 2 ^ i < 2 ^ (53 : Nat))
    (bound : Nat) : (shifted n i).toNatUpTo bound = Nat.min (n * 2 ^ i) bound := by
  have hlog : n.log2 + i < 53 :=
    (Nat.pow_lt_pow_iff_right (by decide)).mp (Nat.lt_of_le_of_lt (two_pow_le_shifted hn i) hbits)
  rw [shifted_of_lt (by omega), toNatUpTo]
  obtain ⟨e, he⟩ : ∃ e : Int, e = (n.log2 + i : Nat) - 52 := ⟨_, rfl⟩
  rw [← he, if_neg Bool.false_ne_true]
  by_cases hwhole : 0 ≤ e
  · have hexponent : 52 - n.log2 + e.toNat = i := by omega
    rw [if_pos hwhole, Nat.mul_assoc, ← Nat.pow_add, hexponent]
  · have hexponent : 52 - n.log2 = i + (-e).toNat := by omega
    have hhalf : 2 ^ ((-e).toNat - 1) < 2 ^ (-e).toNat :=
      Nat.pow_lt_pow_right (by decide) (by omega)
    rw [if_neg hwhole, hexponent, Nat.pow_add, ← Nat.mul_assoc, Nat.mul_comm _ (2 ^ (-e).toNat),
      Nat.mul_add_div (Nat.two_pow_pos _), Nat.div_eq_of_lt hhalf, Nat.add_zero]

end Shifted

/-- **A power of a power of two is exact**, or infinite if it is out of range. The induction is on
the exponent, which is halved at each squaring. -/
theorem mulPow_shifted (i k m : Nat) :
    mulPow (shifted 1 i) (shifted 1 k) m = shifted 1 (i + k * m) := by
  have hmul : ∀ i k, mul (shifted 1 i) (shifted 1 k) = shifted 1 (i + k) :=
    mul_shifted Nat.one_ne_zero (by decide)
  induction m using Nat.strongRecOn generalizing i k with
  | ind m ih =>
    have hodd : (if m % 2 = 1 then mul (shifted 1 i) (shifted 1 k) else shifted 1 i)
        = shifted 1 (i + k * (m % 2)) := by
      split
      next hm => rw [hmul, hm, Nat.mul_one]
      next hm => rw [Nat.mod_two_not_eq_one.mp hm, Nat.mul_zero, Nat.add_zero]
    have hsplit : k * (m % 2) + (k + k) * (m / 2) = k * m := by
      rw [← Nat.two_mul, Nat.mul_comm 2 k, Nat.mul_assoc, ← Nat.mul_add, Nat.mod_add_div]
    unfold mulPow
    rw [hodd, hmul]
    by_cases hlast : m / 2 = 0
    · rw [hlast, Nat.mul_zero, Nat.add_zero] at hsplit
      rw [dif_pos hlast, hsplit]
    · rw [dif_neg hlast, ih (m / 2) (by omega), Nat.add_assoc, hsplit]

theorem pow_shifted (j m : Nat) : pow (shifted 1 j) m = shifted 1 (j * m) := by
  rw [pow, ofNat_eq_shifted Nat.one_ne_zero (by decide), mulPow_shifted, Nat.zero_add]

end ActivityFeed.Binary64
