import ActivityFeed.Text.Utf8

/-!
# Reading UTF-8 line by line

A line feed is one octet that never stands inside a well-formed sequence, so it also ends every
malformed one: what stands at the front of some octets is the same with a line feed behind them as
with nothing behind them (`front_lineFeed`). Octets may therefore be read line by line or all at
once (`decode_lineFeed`), and no line feed appears that was not among the octets
(`lineFeed_not_mem_decode`): every character that is read from two or more octets lies above it.
-/

namespace ActivityFeed.Text.Utf8

/-- A line feed fits nowhere as a second octet. -/
theorem secondFits_lineFeed (first : UInt8) : secondFits first 10 = false := by
  unfold secondFits
  split
  · rfl
  · split
    · rfl
    · split
      · rfl
      · split <;> rfl

/-- Behind a line feed nothing belongs to what stands in front of it. -/
theorem front_lineFeed (first : UInt8) (rest later : List UInt8) :
    front first (rest ++ 10 :: later) = front first rest := by
  have htail : isContinuation 10 = false := rfl
  unfold front
  split
  · rfl
  · rfl
  · rcases rest with _ | ⟨b, rest⟩
    · simp [htail]
    · rfl
  · rcases rest with _ | ⟨b, _ | ⟨c, rest⟩⟩
    · rcases later with _ | ⟨d, later⟩ <;> simp [secondFits_lineFeed]
    · by_cases hb : secondFits first b = true <;> simp [htail, hb]
    · rfl
  · rcases rest with _ | ⟨b, _ | ⟨c, _ | ⟨d, rest⟩⟩⟩
    · rcases later with _ | ⟨d, _ | ⟨e, later⟩⟩ <;> simp [secondFits_lineFeed]
    · rcases later with _ | ⟨d, later⟩ <;>
        by_cases hb : secondFits first b = true <;> simp [htail, hb]
    · by_cases hb : secondFits first b = true <;>
        by_cases hc : isContinuation c = true <;> simp [htail, hb, hc]
    · rfl

/-- What stands at the front takes no more octets than there are. -/
theorem front_used_le (first : UInt8) (rest : List UInt8) :
    (front first rest).2 ≤ rest.length := by
  unfold front
  split
  · exact Nat.zero_le _
  · exact Nat.zero_le _
  · rcases rest with _ | ⟨b, rest⟩
    · exact Nat.le_refl _
    · dsimp only
      split <;> simp
  · rcases rest with _ | ⟨b, _ | ⟨c, rest⟩⟩
    · exact Nat.le_refl _
    · dsimp only
      split <;> simp
    · dsimp only
      split
      · split <;> simp
      · simp
  · rcases rest with _ | ⟨b, _ | ⟨c, _ | ⟨d, rest⟩⟩⟩
    · exact Nat.le_refl _
    · dsimp only
      split <;> simp
    · dsimp only
      split
      · split <;> simp
      · simp
    · dsimp only
      split
      · split
        · split <;> simp
        · simp
      · simp

theorem decodeFrom_lineFeed (skip : Nat) (x later : List UInt8) (h : skip ≤ x.length) :
    decodeFrom skip (x ++ 10 :: later) = decodeFrom skip x ++ '\n' :: decode later := by
  induction x generalizing skip with
  | nil =>
    have hskip : skip = 0 := Nat.le_zero.mp h
    subst hskip
    rfl
  | cons b rest ih =>
    cases skip with
    | zero =>
      rw [List.cons_append, decodeFrom, decodeFrom, front_lineFeed]
      exact congrArg _ (ih _ (front_used_le b rest))
    | succ skip =>
      exact ih skip (Nat.le_of_succ_le_succ h)

/-- **Octets are read alike line by line and all at once.** -/
theorem decode_lineFeed (x later : List UInt8) :
    decode (x ++ 10 :: later) = decode x ++ '\n' :: decode later :=
  decodeFrom_lineFeed 0 x later (Nat.zero_le _)

/-! ## No line feeds out of nothing -/

theorem ofNat_ne_lineFeed {n : Nat} (h : n ≠ 10) : Char.ofNat n ≠ '\n' := by
  intro heq
  by_cases hvalid : n.isValidChar
  · rw [Char.ofNat, dif_pos hvalid] at heq
    exact h (congrArg Char.toNat heq)
  · rw [Char.ofNat, dif_neg hvalid] at heq
    exact absurd heq (by decide)

/-- The first octet of a sequence tells its length, and is the larger the longer the sequence is. -/
theorem following?_bounds {first : UInt8} {n : Nat} (h : following? first = some n) :
    n = 0 ∨ (n = 1 ∧ 0xC2 ≤ first.toNat) ∨ (n = 2 ∧ 0xE0 ≤ first.toNat)
      ∨ (n = 3 ∧ 0xF0 ≤ first.toNat) := by
  simp only [following?, Bool.and_eq_true, decide_eq_true_eq, UInt8.le_iff_toNat_le] at h
  split at h
  next =>
    cases h
    exact Or.inl rfl
  next =>
    split at h
    next hrange =>
      cases h
      exact Or.inr (Or.inl ⟨rfl, hrange.1⟩)
    next =>
      split at h
      next hrange =>
        cases h
        exact Or.inr (Or.inr (Or.inl ⟨rfl, hrange.1⟩))
      next =>
        split at h
        next hrange =>
          cases h
          exact Or.inr (Or.inr (Or.inr ⟨rfl, hrange.1⟩))
        next => cases h

/-- A second octet that fits is large enough for the length of its sequence: a sequence that is
longer than its character needs does not count. -/
theorem secondFits_bounds {first second : UInt8} (h : secondFits first second = true) :
    0x80 ≤ second.toNat ∧ (first.toNat = 0xE0 → 0xA0 ≤ second.toNat)
      ∧ (first.toNat = 0xF0 → 0x90 ≤ second.toNat) := by
  unfold secondFits at h
  simp only [isContinuation, beq_iff_eq, ← UInt8.toNat_inj] at h
  split at h
  next hE0 =>
    simp only [Bool.and_eq_true, decide_eq_true_eq, UInt8.le_iff_toNat_le] at h
    simp_all
    omega
  next hE0 =>
    have hlow : 0x80 ≤ second.toNat ∧ (first.toNat = 0xF0 → 0x90 ≤ second.toNat) := by
      split at h
      next => simp_all [UInt8.le_iff_toNat_le]
      next =>
        split at h
        next => simp_all [UInt8.le_iff_toNat_le]; omega
        next =>
          split at h <;> simp_all [UInt8.le_iff_toNat_le]
    exact ⟨hlow.1, fun heq => absurd heq hE0, hlow.2⟩

/-- Two octets spell no line feed: the first one lifts the character above it. -/
theorem two_ne_lineFeed {first second : UInt8} (hfirst : 0xC2 ≤ first.toNat) :
    (first.toNat - 0xC0) * 64 + payload second ≠ 10 := by
  omega

/-- Nor do three, where either the first octet lifts the character or the second one does. -/
theorem three_ne_lineFeed {first second third : UInt8} (hfirst : 0xE0 ≤ first.toNat)
    (hsecond : secondFits first second = true) :
    (first.toNat - 0xE0) * 4096 + payload second * 64 + payload third ≠ 10 := by
  obtain ⟨-, hshort, -⟩ := secondFits_bounds hsecond
  unfold payload
  by_cases hE0 : first.toNat = 0xE0
  · have hlift := hshort hE0
    omega
  · omega

/-- Nor do four. -/
theorem four_ne_lineFeed {first second third fourth : UInt8} (hfirst : 0xF0 ≤ first.toNat)
    (hsecond : secondFits first second = true) :
    (first.toNat - 0xF0) * 262144 + payload second * 4096 + payload third * 64
      + payload fourth ≠ 10 := by
  obtain ⟨-, -, hshort⟩ := secondFits_bounds hsecond
  unfold payload
  by_cases hF0 : first.toNat = 0xF0
  · have hlift := hshort hF0
    omega
  · omega

/-- What stands at the front is a line feed only if its first octet is one. -/
theorem front_ne_lineFeed {first : UInt8} {rest : List UInt8} {c : Char} {used : Nat}
    (h : front first rest = (some c, used)) (hfirst : first ≠ 10) : c ≠ '\n' := by
  have hone : first.toNat ≠ 10 := fun heq => hfirst (UInt8.toNat_inj.mp heq)
  have hlow := fun n => @following?_bounds first n
  have hspells : ∀ {n k : Nat}, (some (Char.ofNat n), k) = (some c, used) → n ≠ 10 → c ≠ '\n' := by
    intro n k heq hn
    rw [← Option.some.inj (Prod.mk.inj heq).1]
    exact ofNat_ne_lineFeed hn
  -- one octet is the number itself; more octets spell a number that is larger than a line feed's
  unfold front at h
  split at h
  next => cases h
  next => exact hspells h hone
  next hlen =>
    have htwo : 0xC2 ≤ first.toNat := by simpa using hlow 1 hlen
    split at h
    · split at h
      · exact hspells h (two_ne_lineFeed htwo)
      · cases h
    · cases h
  next hlen =>
    have hthree : 0xE0 ≤ first.toNat := by simpa using hlow 2 hlen
    split at h
    · split at h
      next hfits =>
        split at h
        · exact hspells h (three_ne_lineFeed hthree hfits)
        · cases h
      next => cases h
    · cases h
    · cases h
  next n h0 h1 h2 hlen =>
    have hfour : 0xF0 ≤ first.toNat := by
      rcases hlow n hlen with rfl | ⟨rfl, -⟩ | ⟨rfl, -⟩ | ⟨-, hbound⟩
      · exact absurd rfl h0
      · exact absurd rfl h1
      · exact absurd rfl h2
      · exact hbound
    split at h
    · split at h
      next hfits =>
        split at h
        · split at h
          · exact hspells h (four_ne_lineFeed hfour hfits)
          · cases h
        · cases h
      next => cases h
    · cases h
    · cases h
    · cases h

theorem lineFeed_not_mem_decodeFrom (skip : Nat) {x : List UInt8} (h : (10 : UInt8) ∉ x) :
    '\n' ∉ decodeFrom skip x := by
  induction x generalizing skip with
  | nil => simp [decodeFrom]
  | cons b rest ih =>
    have hrest : (10 : UInt8) ∉ rest := fun hmem => h (List.mem_cons_of_mem _ hmem)
    cases skip with
    | succ skip => exact ih skip hrest
    | zero =>
      have hb : b ≠ 10 := fun heq => h (heq ▸ List.mem_cons_self ..)
      rw [decodeFrom]
      cases hfront : front b rest with
      | mk c used =>
        intro hmem
        rcases List.mem_cons.mp hmem with heq | hmem
        · cases c with
          | none => exact absurd heq (by decide)
          | some c => exact front_ne_lineFeed hfront hb heq.symm
        · exact ih used hrest hmem

/-- Octets without a line feed spell a text without one. -/
theorem lineFeed_not_mem_decode {x : List UInt8} (h : (10 : UInt8) ∉ x) : '\n' ∉ decode x :=
  lineFeed_not_mem_decodeFrom 0 h

end ActivityFeed.Text.Utf8
