import ActivityFeed.Binary64.Basic

/-!
# One form for each number

A number of the format has many spellings `± m · 2 ^ e`, and `IsCanonical` keeps one of them. Every
operation gives its result in that form, whatever it is given: a ratio is brought between `2 ^ 52`
and `2 ^ 53` before it is rounded (`floorLog_spec`), unless it is too small for that, and rounding
up to `2 ^ 53` is carried into the exponent (`isCanonical_ofRatio`). So equality of canonical
numbers is equality of what they stand for (`eq_of_le_of_le`), zero apart, which has two signs.
-/

namespace ActivityFeed.Binary64

/-! ## Sides scaled by powers of two -/

section Scaled

variable {a b i j i' j' : Nat}

/-- An order stays when the powers of two on both sides grow alike, or more on the larger side. -/
theorem scaled_le (hexponents : i' + j ≤ i + j') (h : a * 2 ^ i ≤ b * 2 ^ j) :
    a * 2 ^ i' ≤ b * 2 ^ j' := by
  refine Nat.le_of_mul_le_mul_right ?_ (Nat.two_pow_pos j)
  calc a * 2 ^ i' * 2 ^ j
      = a * 2 ^ (i' + j) := by rw [Nat.mul_assoc, ← Nat.pow_add]
    _ ≤ a * 2 ^ (i + j') := Nat.mul_le_mul_left _ (Nat.pow_le_pow_right (by decide) hexponents)
    _ = a * 2 ^ i * 2 ^ j' := by rw [Nat.pow_add, Nat.mul_assoc]
    _ ≤ b * 2 ^ j * 2 ^ j' := Nat.mul_le_mul_right _ h
    _ = b * 2 ^ j' * 2 ^ j := Nat.mul_right_comm _ _ _

theorem scaled_lt (hexponents : i' + j ≤ i + j') (h : a * 2 ^ i < b * 2 ^ j) :
    a * 2 ^ i' < b * 2 ^ j' :=
  Nat.lt_of_not_le fun hle =>
    Nat.not_le_of_lt h (scaled_le (by rwa [Nat.add_comm, Nat.add_comm j' i]) hle)

end Scaled

/-! ## Rounding a ratio -/

variable {num den : Nat}

/-- **The logarithm of a ratio**: the ratio lies between two powers of two, one after the other. -/
theorem floorLog_spec (hnum : num ≠ 0) (hden : den ≠ 0) :
    den * 2 ^ (floorLog num den).toNat ≤ num * 2 ^ (-floorLog num den).toNat
      ∧ num * 2 ^ (-(floorLog num den + 1)).toNat < den * 2 ^ (floorLog num den + 1).toNat := by
  have hnumLow := Nat.log2_self_le hnum
  have hnumHigh := Nat.lt_log2_self (n := num)
  have hdenLow := Nat.log2_self_le hden
  have hdenHigh := Nat.lt_log2_self (n := den)
  -- both bounds with the logarithms of the two numbers, which are off by at most one
  have hbelow : den * 2 ^ num.log2 ≤ num * 2 ^ (den.log2 + 1) := by
    rw [Nat.mul_comm num]
    exact Nat.mul_le_mul (Nat.le_of_lt hdenHigh) hnumLow
  have habove : num * 2 ^ den.log2 < den * 2 ^ (num.log2 + 1) := by
    rw [Nat.mul_comm den]
    exact Nat.mul_lt_mul_of_lt_of_le hnumHigh hdenLow (Nat.pos_of_ne_zero hden)
  unfold floorLog
  dsimp only
  split
  next hfits => exact ⟨hfits, scaled_lt (by omega) habove⟩
  next hlarge =>
    refine ⟨scaled_le (by omega) hbelow, ?_⟩
    rw [Int.sub_add_cancel]
    exact Nat.lt_of_not_le hlarge

theorem le_roundDiv {low : Nat} (hden : 0 < den) (h : low * den ≤ num) :
    low ≤ roundDiv num den := by
  have hquotient : low ≤ num / den := (Nat.le_div_iff_mul_le hden).mpr h
  unfold roundDiv
  dsimp only
  split
  · exact hquotient
  · split <;> omega

theorem roundDiv_le {high : Nat} (hden : 0 < den) (h : num < high * den) :
    roundDiv num den ≤ high := by
  have hquotient : num / den < high := (Nat.div_lt_iff_lt_mul hden).mpr h
  unfold roundDiv
  dsimp only
  split
  · exact Nat.le_of_lt hquotient
  · split <;> omega

theorem isCanonical_zero (negative : Bool) : (zero negative).IsCanonical :=
  ⟨by decide, Int.le_refl _, by decide, .inr rfl⟩

/-- **The mantissa before it is carried**: at most `2 ^ 53`, and of 53 bits at least unless the
exponent is the least one. -/
theorem mantissa_bounds (hnum : num ≠ 0) (hden : den ≠ 0) {e : Int}
    (he : e = max (floorLog num den - 52) minExponent) :
    roundDiv (num * 2 ^ (-e).toNat) (den * 2 ^ e.toNat) ≤ 2 ^ (53 : Nat)
      ∧ (2 ^ (52 : Nat) ≤ roundDiv (num * 2 ^ (-e).toNat) (den * 2 ^ e.toNat)
        ∨ e = minExponent) := by
  obtain ⟨hlow, hhigh⟩ := floorLog_spec hnum hden
  generalize floorLog num den = k at he hlow hhigh
  have hscale : 0 < den * 2 ^ e.toNat :=
    Nat.mul_pos (Nat.pos_of_ne_zero hden) (Nat.two_pow_pos _)
  refine ⟨roundDiv_le hscale ?_, ?_⟩
  · rw [Nat.mul_left_comm, ← Nat.pow_add]
    exact scaled_lt (by omega) hhigh
  · by_cases hnormal : e = k - 52
    · left
      refine le_roundDiv hscale ?_
      rw [Nat.mul_left_comm, ← Nat.pow_add]
      exact scaled_le (by omega) hlow
    · right
      omega

/-- **What is rounded is canonical**, whatever the ratio. -/
theorem isCanonical_ofRatio (negative : Bool) (num : Nat) (hden : den ≠ 0) :
    (ofRatio negative num den).IsCanonical := by
  unfold ofRatio
  split
  next => exact isCanonical_zero negative
  next hnum =>
    obtain ⟨e, he⟩ : ∃ e : Int, e = max (floorLog num den - 52) minExponent := ⟨_, rfl⟩
    have hmin : minExponent ≤ e := he ▸ Int.le_max_right _ _
    obtain ⟨hupper, hlower⟩ := mantissa_bounds hnum hden he
    dsimp only
    rw [← he]
    generalize roundDiv _ _ = m at hupper hlower
    by_cases hcarry : m = 2 ^ (53 : Nat)
    · rw [if_pos hcarry]
      dsimp only
      split
      · trivial
      · exact ⟨by decide, by omega, by omega, .inl (Nat.le_refl _)⟩
    · rw [if_neg hcarry]
      dsimp only
      split
      · trivial
      · exact ⟨by omega, hmin, by omega, hlower⟩

/-! ## The operations -/

theorem isCanonical_ofNat (n : Nat) : (ofNat n).IsCanonical :=
  isCanonical_ofRatio false n Nat.one_ne_zero

theorem isCanonical_ofScaled (negative : Bool) (m : Nat) (e : Int) :
    (ofScaled negative m e).IsCanonical :=
  isCanonical_ofRatio negative _ (Nat.ne_of_gt (Nat.two_pow_pos _))

variable {x y : Binary64}

theorem isCanonical_neg (hx : x.IsCanonical) : x.neg.IsCanonical := by
  cases x <;> exact hx

/-- A product is rounded, unless it is infinite or no number at all. -/
theorem isCanonical_mul (x y : Binary64) : (mul x y).IsCanonical := by
  fun_cases mul x y
  -- the last case is that of two finite factors
  case case8 => exact isCanonical_ofScaled _ _ _
  all_goals trivial

theorem isCanonical_div (x y : Binary64) : (div x y).IsCanonical := by
  fun_cases div x y
  case case5 => exact isCanonical_zero _
  case case8 hn k =>
    exact isCanonical_ofRatio _ _ (Nat.mul_ne_zero hn (Nat.ne_of_gt (Nat.two_pow_pos _)))
  all_goals trivial

/-- The induction is on the exponent, which is halved at each squaring. -/
theorem isCanonical_mulPow (hx : x.IsCanonical) (a : Binary64) (n : Nat) :
    (mulPow x a n).IsCanonical := by
  have hodd : ∀ (r a : Binary64) (n : Nat), r.IsCanonical →
      (if n % 2 = 1 then mul r a else r).IsCanonical := by
    intro r a n hr
    split
    · exact isCanonical_mul r a
    · exact hr
  fun_induction mulPow x a n with
  | case1 r a n => exact hodd r a n hx
  | case2 r a n _ _ ih => exact ih (hodd r a n hx)

theorem isCanonical_pow (a : Binary64) (n : Nat) : (pow a n).IsCanonical :=
  isCanonical_mulPow (isCanonical_ofNat 1) a n

theorem isCanonical_min (hx : x.IsCanonical) (hy : y.IsCanonical) :
    (Binary64.min x y).IsCanonical := by
  fun_cases Binary64.min x y
  all_goals first | exact hx | exact hy

/-- Scaling multiplies or divides, once or several times. -/
theorem isCanonical_scaleTen? {k : Int} (hx : x.IsCanonical) (h : scaleTen? x k = some y) :
    y.IsCanonical := by
  fun_induction scaleTen? x k with
  | case1 => exact Option.some.inj h ▸ isCanonical_mul _ _
  | case3 => exact Option.some.inj h ▸ isCanonical_div _ _
  | case4 => cases h; exact hx
  | case6 f k _ _ _ ih => exact ih (isCanonical_div _ _) h
  | case2 | case5 => cases h

/-! ## Canonical numbers of one value -/

section Value

variable {s t : Bool} {m n : Nat} {e f low : Int}

/-- Of two canonical forms with one value, neither has the larger exponent: with a larger one comes
a mantissa of 53 bits, and the other mantissa would have more. -/
theorem exponent_le (hx : (finite s m e).IsCanonical) (hy : (finite t n f).IsCanonical)
    (hlow : low ≤ e) (h : m * 2 ^ (e - low).toNat = n * 2 ^ (f - low).toNat) : f ≤ e := by
  obtain ⟨hm, he, -, -⟩ := hx
  refine Int.not_lt.mp fun hlarger => ?_
  have hn : 2 ^ (52 : Nat) ≤ n := hy.2.2.2.resolve_right (by omega)
  have hshort : m * 2 ^ (e - low).toNat < 2 ^ (53 : Nat) * 2 ^ (e - low).toNat :=
    Nat.mul_lt_mul_of_pos_right hm (Nat.two_pow_pos _)
  have hlong : 2 ^ (53 : Nat) * 2 ^ (e - low).toNat ≤ n * 2 ^ (f - low).toNat := by
    calc 2 ^ (53 : Nat) * 2 ^ (e - low).toNat
        = 2 ^ (52 : Nat) * 2 ^ (1 + (e - low).toNat) := by
          rw [← Nat.pow_add, ← Nat.pow_add, ← Nat.add_assoc]
      _ ≤ n * 2 ^ (f - low).toNat :=
          Nat.mul_le_mul hn (Nat.pow_le_pow_right (by decide) (by omega))
  omega

theorem eq_zero_of_mantissa (h : (finite s 0 e).IsCanonical) : finite s 0 e = zero s := by
  have he : e = minExponent := h.2.2.2.resolve_left (by decide)
  rw [he, zero]

/-- Numbers of one value have one size, and one sign unless they are zero. -/
theorem of_signedAt_eq (h : signedAt low s m e = signedAt low t n f) :
    m * 2 ^ (e - low).toNat = n * 2 ^ (f - low).toNat ∧ (s = t ∨ m = 0 ∧ n = 0) := by
  have hzero : ∀ (m : Nat) (k : Int), m * 2 ^ (k - low).toNat = 0 → m = 0 := fun m k h =>
    (Nat.mul_eq_zero.mp h).resolve_right (Nat.ne_of_gt (Nat.two_pow_pos _))
  unfold signedAt at h
  cases s <;> cases t <;> simp only [Bool.false_eq_true, if_false, if_true] at h
  case false.false | true.true => exact ⟨by omega, .inl rfl⟩
  case false.true | true.false =>
    exact ⟨by omega, .inr ⟨hzero m e (by omega), hzero n f (by omega)⟩⟩

end Value

/-- **A value has one canonical form**: numbers of which neither is less than the other one are the
same, or they are zeros. -/
theorem eq_of_le_of_le (hx : x.IsCanonical) (hy : y.IsCanonical) (hxy : le x y = true)
    (hyx : le y x = true) : x = y ∨ ∃ s t, x = zero s ∧ y = zero t := by
  cases x with
  | nan => cases hxy
  | infinite s =>
    cases y with
    | nan => cases hxy
    | infinite t =>
      cases s <;> cases t
      case false.false | true.true => exact .inl rfl
      case false.true => exact absurd hxy Bool.false_ne_true
      case true.false => exact absurd hyx Bool.false_ne_true
    | finite =>
      cases s
      · exact absurd hxy Bool.false_ne_true
      · exact absurd hyx Bool.false_ne_true
  | finite s m e =>
    cases y with
    | nan => cases hxy
    | infinite t =>
      cases t
      · exact absurd hyx Bool.false_ne_true
      · exact absurd hxy Bool.false_ne_true
    | finite t n f =>
      have heq : signedAt (Min.min e f) s m e = signedAt (Min.min e f) t n f := by
        refine Int.le_antisymm (of_decide_eq_true hxy) ?_
        rw [Int.min_comm]
        exact of_decide_eq_true hyx
      obtain ⟨hsize, rfl | ⟨rfl, rfl⟩⟩ := of_signedAt_eq heq
      · have hexponent : e = f :=
          Int.le_antisymm (exponent_le hy hx (Int.min_le_right _ _) hsize.symm)
            (exponent_le hx hy (Int.min_le_left _ _) hsize)
        subst hexponent
        rw [Nat.eq_of_mul_eq_mul_right (Nat.two_pow_pos _) hsize]
        exact .inl rfl
      · exact .inr ⟨s, t, eq_zero_of_mantissa hx, eq_zero_of_mantissa hy⟩

end ActivityFeed.Binary64
