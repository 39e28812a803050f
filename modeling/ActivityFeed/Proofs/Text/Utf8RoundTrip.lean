import ActivityFeed.Text.Utf8

/-!
# Text comes back from its octets

A character is written as one to four octets whose first one tells how many follow, and none of
which is the octet of an ASCII character unless the character is that one (`mem_encodeChar`). So a
reader that stands in front of a character takes exactly its octets (`front_encodeChar`), a whole
text is read back as it was written (`decode_encode`), and nothing in it is malformed
(`malformedAt_encode`).
-/

namespace ActivityFeed.Text.Utf8

/-! ## One character -/

section Octets

variable {first second third fourth : UInt8}

theorem isContinuation_iff {b : UInt8} :
    isContinuation b = true ↔ 0x80 ≤ b.toNat ∧ b.toNat ≤ 0xBF := by
  simp [isContinuation, UInt8.le_iff_toNat_le]

theorem following?_eq (b : UInt8) :
    following? b
      = if b.toNat < 0x80 then some 0
        else if 0xC2 ≤ b.toNat ∧ b.toNat ≤ 0xDF then some 1
        else if 0xE0 ≤ b.toNat ∧ b.toNat ≤ 0xEF then some 2
        else if 0xF0 ≤ b.toNat ∧ b.toNat ≤ 0xF4 then some 3
        else none := by
  simp [following?, UInt8.lt_iff_toNat_lt, UInt8.le_iff_toNat_le]

/-- A second octet fits that keeps the character clear of shorter spellings, of surrogates and of
what lies past the last character. -/
theorem secondFits_of_bounds (hlow : 0x80 ≤ second.toNat) (hhigh : second.toNat ≤ 0xBF)
    (hE0 : first.toNat = 0xE0 → 0xA0 ≤ second.toNat)
    (hED : first.toNat = 0xED → second.toNat ≤ 0x9F)
    (hF0 : first.toNat = 0xF0 → 0x90 ≤ second.toNat)
    (hF4 : first.toNat = 0xF4 → second.toNat ≤ 0x8F) : secondFits first second = true := by
  unfold secondFits
  simp only [beq_iff_eq, ← UInt8.toNat_inj]
  split
  next h => simp [UInt8.le_iff_toNat_le, hE0 h, hhigh]
  next =>
    split
    next h => simp [UInt8.le_iff_toNat_le, hlow, hED h]
    next =>
      split
      next h => simp [UInt8.le_iff_toNat_le, hF0 h, hhigh]
      next =>
        split
        next h => simp [UInt8.le_iff_toNat_le, hlow, hF4 h]
        next => exact isContinuation_iff.mpr ⟨hlow, hhigh⟩

theorem front_one (h : first.toNat < 0x80) (later : List UInt8) :
    front first later = (some (Char.ofNat first.toNat), 0) := by
  have hlen : following? first = some 0 := by rw [following?_eq, if_pos h]
  simp only [front, hlen]

theorem front_two {n : Nat} (hfirst : 0xC2 ≤ first.toNat ∧ first.toNat ≤ 0xDF)
    (hsecond : isContinuation second = true)
    (hn : (first.toNat - 0xC0) * 64 + (second.toNat - 0x80) = n) (later : List UInt8) :
    front first (second :: later) = (some (Char.ofNat n), 1) := by
  have hlen : following? first = some 1 := by
    rw [following?_eq, if_neg (by omega), if_pos hfirst]
  rw [← hn]
  simp only [front, hlen, hsecond, if_true]
  rfl

theorem front_three {n : Nat} (hfirst : 0xE0 ≤ first.toNat ∧ first.toNat ≤ 0xEF)
    (hsecond : secondFits first second = true) (hthird : isContinuation third = true)
    (hn : (first.toNat - 0xE0) * 4096 + (second.toNat - 0x80) * 64 + (third.toNat - 0x80) = n)
    (later : List UInt8) :
    front first (second :: third :: later) = (some (Char.ofNat n), 2) := by
  have hlen : following? first = some 2 := by
    rw [following?_eq, if_neg (by omega), if_neg (by omega), if_pos hfirst]
  rw [← hn]
  simp only [front, hlen, hsecond, hthird, if_true]
  rfl

theorem front_four {n : Nat} (hfirst : 0xF0 ≤ first.toNat ∧ first.toNat ≤ 0xF4)
    (hsecond : secondFits first second = true) (hthird : isContinuation third = true)
    (hfourth : isContinuation fourth = true)
    (hn : (first.toNat - 0xF0) * 262144 + (second.toNat - 0x80) * 4096
      + (third.toNat - 0x80) * 64 + (fourth.toNat - 0x80) = n) (later : List UInt8) :
    front first (second :: third :: fourth :: later) = (some (Char.ofNat n), 3) := by
  have hlen : following? first = some 3 := by
    rw [following?_eq, if_neg (by omega), if_neg (by omega), if_neg (by omega), if_pos hfirst]
  rw [← hn]
  simp only [front, hlen, hsecond, hthird, hfourth, if_true]
  rfl

end Octets

theorem toNat_ofNat {n : Nat} (h : n < 256) : (UInt8.ofNat n).toNat = n :=
  UInt8.toNat_ofNat_of_lt' h

/-- Characters are numbers up to U+10FFFF without the surrogates. -/
theorem toNat_bounds (c : Char) : c.toNat < 0xD800 ∨ (0xDFFF < c.toNat ∧ c.toNat < 0x110000) :=
  c.valid

/-- In front of a character stand its octets, whatever comes after them. -/
theorem front_encodeChar (c : Char) : ∃ first rest, String.utf8EncodeChar c = first :: rest
    ∧ ∀ later, front first (rest ++ later) = (some c, rest.length) := by
  obtain ⟨n, hn⟩ : ∃ n, c.toNat = n := ⟨_, rfl⟩
  have hbounds := toNat_bounds c
  have hc : c = Char.ofNat n := by rw [← hn, Char.ofNat_toNat]
  rw [hn] at hbounds
  unfold String.utf8EncodeChar
  rw [show c.val.toNat = n from hn]
  dsimp only
  -- one split for each length; what the octets have to satisfy is arithmetic of the number
  split
  next h1 =>
    have hfirst := toNat_ofNat (show n < 256 by omega)
    refine ⟨_, [], rfl, fun later => ?_⟩
    rw [List.nil_append, front_one (by omega), hfirst, hc]
    rfl
  next h1 =>
    split
    next h2 =>
      have hfirst := toNat_ofNat (show n / 64 % 32 + 192 < 256 by omega)
      have hsecond := toNat_ofNat (show n % 64 + 128 < 256 by omega)
      refine ⟨_, [_], rfl, fun later => ?_⟩
      rw [hc]
      exact front_two (by omega) (isContinuation_iff.mpr (by omega)) (by omega) later
    next h2 =>
      split
      next h3 =>
        have hfirst := toNat_ofNat (show n / 4096 % 16 + 224 < 256 by omega)
        have hsecond := toNat_ofNat (show n / 64 % 64 + 128 < 256 by omega)
        have hthird := toNat_ofNat (show n % 64 + 128 < 256 by omega)
        refine ⟨_, [_, _], rfl, fun later => ?_⟩
        rw [hc]
        exact front_three (by omega)
          (secondFits_of_bounds (by omega) (by omega) (by omega) (by omega) (by omega) (by omega))
          (isContinuation_iff.mpr (by omega)) (by omega) later
      next h3 =>
        have hfirst := toNat_ofNat (show n / 262144 % 8 + 240 < 256 by omega)
        have hsecond := toNat_ofNat (show n / 4096 % 64 + 128 < 256 by omega)
        have hthird := toNat_ofNat (show n / 64 % 64 + 128 < 256 by omega)
        have hfourth := toNat_ofNat (show n % 64 + 128 < 256 by omega)
        refine ⟨_, [_, _, _], rfl, fun later => ?_⟩
        rw [hc]
        exact front_four (by omega)
          (secondFits_of_bounds (by omega) (by omega) (by omega) (by omega) (by omega) (by omega))
          (isContinuation_iff.mpr (by omega)) (isContinuation_iff.mpr (by omega)) (by omega) later

/-- The octets of a character that is not ASCII are none of those of ASCII. -/
theorem mem_encodeChar {c : Char} {b : UInt8} (h : b ∈ String.utf8EncodeChar c) :
    b.toNat = c.toNat ∨ 0x80 ≤ b.toNat := by
  have htail : ∀ {n : Nat}, n < 128 → 0x80 ≤ (UInt8.ofNat (n + 128)).toNat := by
    intro n hn
    rw [toNat_ofNat (by omega)]
    exact Nat.le_add_left 128 n
  unfold String.utf8EncodeChar at h
  rw [show c.val.toNat = c.toNat from rfl] at h
  dsimp only at h
  split at h
  next hone =>
    rw [List.mem_singleton.mp h, toNat_ofNat (by omega)]
    exact Or.inl rfl
  next =>
    right
    split at h
    · simp only [List.mem_cons, List.not_mem_nil, or_false] at h
      rcases h with rfl | rfl
      · exact htail (n := c.toNat / 64 % 32 + 64) (by omega)
      · exact htail (by omega)
    · split at h
      · simp only [List.mem_cons, List.not_mem_nil, or_false] at h
        rcases h with rfl | rfl | rfl
        · exact htail (n := c.toNat / 4096 % 16 + 96) (by omega)
        · exact htail (by omega)
        · exact htail (by omega)
      · simp only [List.mem_cons, List.not_mem_nil, or_false] at h
        rcases h with rfl | rfl | rfl | rfl
        · exact htail (n := c.toNat / 262144 % 8 + 112) (by omega)
        · exact htail (by omega)
        · exact htail (by omega)
        · exact htail (by omega)

/-! ## Whole texts -/

@[simp] theorem encode_nil : encode [] = [] :=
  rfl

@[simp] theorem encode_cons (c : Char) (cs : List Char) :
    encode (c :: cs) = String.utf8EncodeChar c ++ encode cs :=
  rfl

@[simp] theorem encode_append (cs ds : List Char) : encode (cs ++ ds) = encode cs ++ encode ds :=
  List.flatMap_append

theorem ofString_append (s t : String) : ofString (s ++ t) = ofString s ++ ofString t := by
  rw [ofString, String.toList_append, encode_append]
  rfl

theorem ofString_ofList (cs : List Char) : ofString (String.ofList cs) = encode cs := by
  rw [ofString, String.toList_ofList]

/-- The octets of a character that has been read are passed over. -/
theorem decodeFrom_length_append (x later : List UInt8) :
    decodeFrom x.length (x ++ later) = decode later := by
  induction x with
  | nil => rfl
  | cons b rest ih => exact ih

theorem malformedFrom_length_append (index : Nat) (x later : List UInt8) :
    malformedFrom x.length index (x ++ later) = malformedFrom 0 (index + x.length) later := by
  induction x generalizing index with
  | nil => rfl
  | cons b rest ih =>
    rw [List.length_cons, List.cons_append, malformedFrom, ih, Nat.add_right_comm, Nat.add_assoc]

/-- **A text is read back from its octets.** -/
theorem decode_encode (cs : List Char) : decode (encode cs) = cs := by
  induction cs with
  | nil => rfl
  | cons c cs ih =>
    obtain ⟨first, rest, hoctets, hfront⟩ := front_encodeChar c
    rw [encode_cons, hoctets, List.cons_append, decode, decodeFrom, hfront]
    dsimp only
    rw [decodeFrom_length_append, ih]
    rfl

theorem toText_ofString (s : String) : toText (ofString s) = s := by
  rw [toText, ofString, decode_encode, String.ofList_toList]

theorem malformedFrom_encode (index : Nat) (cs : List Char) :
    malformedFrom 0 index (encode cs) = none := by
  induction cs generalizing index with
  | nil => rfl
  | cons c cs ih =>
    obtain ⟨first, rest, hoctets, hfront⟩ := front_encodeChar c
    rw [encode_cons, hoctets, List.cons_append, malformedFrom, hfront]
    dsimp only
    rw [malformedFrom_length_append, ih]

/-- Nothing in the octets of a text is malformed. -/
theorem malformedAt_encode (cs : List Char) : malformedAt (encode cs) = none :=
  malformedFrom_encode 0 cs

/-- An ASCII character has its octet among those of a text only if it is in the text. -/
theorem not_mem_encode {cs : List Char} {c : Char} (hascii : c.toNat < 0x80) (h : c ∉ cs) :
    UInt8.ofNat c.toNat ∉ encode cs := by
  intro hmem
  obtain ⟨d, hd, hoctet⟩ := List.mem_flatMap.mp hmem
  have hc := toNat_ofNat (show c.toNat < 256 by omega)
  rcases mem_encodeChar hoctet with heq | hhigh
  · exact h (Char.toNat_inj.mp (hc.symm.trans heq) ▸ hd)
  · omega

end ActivityFeed.Text.Utf8
