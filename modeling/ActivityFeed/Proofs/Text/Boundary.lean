import ActivityFeed.Proofs.Text.Utf8RoundTrip
import ActivityFeed.Text.Utf8

/-!
# Boundaries are ends of beginnings

Of the octets of a character only the first one does not continue a sequence (`octets_of_char`). So
an index is a boundary of a text exactly if some beginning of the text ends there
(`isBoundary_encode`), the text can be cut there (`upTo?_of_prefix`), and stepping back never goes
below zero, because a text may be cut before its first character (`exists_boundaryUpTo?`).
-/

namespace ActivityFeed.Text.Utf8

theorem isContinuation_ofNat (n : Nat) : isContinuation (UInt8.ofNat (n % 64 + 128)) = true := by
  rw [isContinuation_iff, toNat_ofNat (by omega)]
  omega

theorem isContinuation_eq_false {b : UInt8} (h : b.toNat < 0x80 ∨ 0xC0 ≤ b.toNat) :
    isContinuation b = false := by
  rw [← Bool.not_eq_true, isContinuation_iff]
  omega

/-- Of the octets of a character all but the first one continue a sequence. -/
theorem octets_of_char (c : Char) : ∃ first rest, String.utf8EncodeChar c = first :: rest
    ∧ isContinuation first = false ∧ ∀ b ∈ rest, isContinuation b = true := by
  unfold String.utf8EncodeChar
  generalize c.val.toNat = n
  dsimp only
  have hfirst : ∀ {m : Nat}, 0xC0 ≤ m → m < 256 → isContinuation (UInt8.ofNat m) = false :=
    fun hlow hhigh => isContinuation_eq_false (.inr (by rwa [toNat_ofNat hhigh]))
  have htail := isContinuation_ofNat
  split
  next hone =>
    refine ⟨_, [], rfl, isContinuation_eq_false (.inl ?_), nofun⟩
    rw [toNat_ofNat (by omega)]
    omega
  next =>
    split
    · refine ⟨_, [_], rfl, hfirst (by omega) (by omega), ?_⟩
      exact List.forall_mem_cons.mpr ⟨htail _, nofun⟩
    · split
      · refine ⟨_, [_, _], rfl, hfirst (by omega) (by omega), ?_⟩
        simp only [List.forall_mem_cons, htail, List.not_mem_nil, false_imp_iff, implies_true,
          and_self]
      · refine ⟨_, [_, _, _], rfl, hfirst (by omega) (by omega), ?_⟩
        simp only [List.forall_mem_cons, htail, List.not_mem_nil, false_imp_iff, implies_true,
          and_self]

/-- A text starts with a character, or is at its end. -/
theorem startsAt_zero (cs : List Char) : startsAt (encode cs) 0 = true := by
  cases cs with
  | nil => rfl
  | cons c cs =>
    obtain ⟨first, rest, hoctets, hfirst, -⟩ := octets_of_char c
    rw [encode_cons, hoctets, startsAt]
    simp [hfirst]

theorem startsAt_append (octets later : List UInt8) (i : Nat) :
    startsAt (octets ++ later) (octets.length + i) = startsAt later i := by
  unfold startsAt
  rw [List.getElem?_append_right (Nat.le_add_right ..), Nat.add_sub_cancel_left]
  cases later[i]? with
  | none =>
    rw [List.length_append, Bool.eq_iff_iff, beq_iff_eq, beq_iff_eq]
    omega
  | some b => rfl

/-- **Characters start where beginnings of the text end.** -/
theorem startsAt_encode {cs : List Char} {i : Nat} :
    startsAt (encode cs) i = true ↔ ∃ p, p <+: cs ∧ (encode p).length = i := by
  induction cs generalizing i with
  | nil =>
    have hnil : ∀ p, p <+: [] ∧ (encode p).length = i ↔ p = [] ∧ i = 0 := by
      intro p
      rw [List.prefix_nil]
      constructor
      · rintro ⟨rfl, rfl⟩
        exact ⟨rfl, rfl⟩
      · rintro ⟨rfl, rfl⟩
        exact ⟨rfl, rfl⟩
    simp only [hnil, exists_eq_left]
    simp [startsAt]
  | cons c cs ih =>
    obtain ⟨first, rest, hoctets, -, hrest⟩ := octets_of_char c
    have hlength : (String.utf8EncodeChar c).length = rest.length + 1 := by rw [hoctets]; rfl
    rcases Nat.eq_zero_or_pos i with rfl | hpos
    · exact iff_of_true (startsAt_zero _) ⟨[], List.nil_prefix, rfl⟩
    · rcases Nat.lt_or_ge i (rest.length + 1) with hwithin | hbehind
      · -- the index lies within the first character
        refine iff_of_false ?_ ?_
        · obtain ⟨i, rfl⟩ := Nat.exists_eq_succ_of_ne_zero (Nat.pos_iff_ne_zero.mp hpos)
          have hi : i < rest.length := Nat.lt_of_succ_lt_succ hwithin
          rw [encode_cons, hoctets, startsAt, List.cons_append, Nat.succ_eq_add_one,
            List.getElem?_cons_succ, List.getElem?_append_left hi, List.getElem?_eq_getElem hi]
          simp [hrest _ (List.getElem_mem hi)]
        · rintro ⟨p, hp, rfl⟩
          cases p with
          | nil => exact Nat.lt_irrefl 0 hpos
          | cons d p =>
            obtain rfl : d = c := (List.cons_prefix_cons.mp hp).1
            rw [encode_cons, List.length_append] at hwithin
            omega
      · -- behind the first character the index is one of the rest
        obtain ⟨i, rfl⟩ := Nat.exists_eq_add_of_le hbehind
        rw [encode_cons, ← hlength, startsAt_append, ih]
        constructor
        · rintro ⟨p, hp, rfl⟩
          exact ⟨c :: p, (List.prefix_cons_inj c).mpr hp, by rw [encode_cons, List.length_append]⟩
        · rintro ⟨p, hp, hi⟩
          cases p with
          | nil =>
            rw [encode_nil, List.length_nil] at hi
            omega
          | cons d p =>
            obtain ⟨rfl, hrest⟩ := List.cons_prefix_cons.mp hp
            rw [encode_cons, List.length_append] at hi
            exact ⟨p, hrest, by omega⟩

/-- **Boundaries are where beginnings of the text end.** -/
theorem isBoundary_encode {cs : List Char} {i : Nat} :
    isBoundary (encode cs) i = true ↔ ∃ p, p <+: cs ∧ (encode p).length = i := by
  rw [isBoundary, Bool.or_eq_true, beq_iff_eq, startsAt_encode, or_iff_right_iff_imp]
  rintro rfl
  exact ⟨[], List.nil_prefix, rfl⟩

/-- **Stepping back ends at a boundary**, and passes by none. -/
theorem exists_boundaryUpTo? (octets : List UInt8) (i : Nat) :
    ∃ b, boundaryUpTo? octets i = some b ∧ b ≤ i ∧ isBoundary octets b = true
      ∧ ∀ k, k ≤ i → isBoundary octets k = true → k ≤ b := by
  induction i with
  | zero => exact ⟨0, rfl, Nat.le_refl 0, rfl, fun k hk _ => hk⟩
  | succ i ih =>
    rw [boundaryUpTo?]
    cases hboundary : isBoundary octets (i + 1) with
    | true => exact ⟨i + 1, if_pos rfl, Nat.le_refl _, hboundary, fun k hk _ => hk⟩
    | false =>
      obtain ⟨b, hb, hle, hat, hlast⟩ := ih
      refine ⟨b, hb, Nat.le_succ_of_le hle, hat, fun k hk hk' => hlast k ?_ hk'⟩
      have hne : k ≠ i + 1 := fun heq => Bool.false_ne_true (hboundary.symm.trans (heq ▸ hk'))
      omega

/-- **A text can be cut where a beginning of it ends.** -/
theorem upTo?_of_prefix {p cs : List Char} (h : p <+: cs) :
    upTo? (encode p).length cs = some p := by
  induction p generalizing cs with
  | nil => exact upTo?.eq_1 cs
  | cons c p ih =>
    obtain ⟨later, rfl⟩ := h
    have hpos : 0 < c.utf8Size := c.utf8Size_pos
    have hsize : (encode (c :: p)).length = c.utf8Size + (encode p).length := by
      rw [encode_cons, List.length_append, String.length_utf8EncodeChar]
    obtain ⟨i, hi⟩ : ∃ i, (encode (c :: p)).length = i + 1 :=
      Nat.exists_eq_add_one_of_ne_zero (by omega)
    have hrest : i + 1 - c.utf8Size = (encode p).length := by omega
    rw [hi, List.cons_append, upTo?, if_pos (by omega), hrest, ih (List.prefix_append p later)]
    rfl

end ActivityFeed.Text.Utf8
