import ActivityFeed.Instant.Text

/-!
# Timestamps that are read as they were written

The program writes timestamps in one form only, the strict one, with every field in its full width
and with a `Z` for the offset. This module follows the reader over such a text, field by field, and
ends at `ofText?_civil`: the text of a valid civil time of the years 0 to 9999 denotes that time.
How many decimal places it has is left open, since records and cursors write different numbers of
them.
-/

namespace ActivityFeed.Instant

/-! ## Digits -/

theorem digit?_of_isDigit {c : Char} (h : c.isDigit = true) :
    Text.digit? c = some (c.toNat - '0'.toNat) := by
  unfold Char.isDigit at h
  unfold Text.digit?
  exact if_pos h

/-- Digits are taken to the last one, as far as the width goes. -/
theorem spanDigits_append {cs : List Char} (hdigits : ∀ c ∈ cs, c.isDigit = true) {most : Nat}
    {rest : List Char}
    (hend : most = cs.length ∨ (cs.length ≤ most ∧ ∀ c ∈ rest.head?, Text.digit? c = none)) :
    spanDigits most (cs ++ rest) = (cs.map fun c => c.toNat - '0'.toNat, rest) := by
  induction cs generalizing most with
  | nil =>
    rcases hend with rfl | ⟨-, hrest⟩
    · rfl
    · cases most with
      | zero => rfl
      | succ most =>
        cases rest with
        | nil => rfl
        | cons c rest =>
          have hc : Text.digit? c = none := hrest c rfl
          simp [spanDigits, hc]
  | cons c cs ih =>
    obtain ⟨most, rfl⟩ : ∃ n, most = n + 1 := by
      cases most with
      | zero => simp at hend
      | succ n => exact ⟨n, rfl⟩
    have hc := digit?_of_isDigit (hdigits c (List.mem_cons_self ..))
    have hrest := ih (fun d hd => hdigits d (List.mem_cons_of_mem _ hd))
      (show most = cs.length ∨ (cs.length ≤ most ∧ _) by simpa using hend)
    rw [List.cons_append, spanDigits, hc]
    simp only [hrest, List.map_cons]

theorem ofDigits_map (cs : List Char) :
    ofDigits (cs.map fun c => c.toNat - '0'.toNat) = Nat.ofDigitChars 10 cs 0 := by
  unfold ofDigits
  rw [List.foldl_map, Nat.ofDigitChars_eq_foldl]
  simp only [Nat.mul_comm]

/-! ## Numbers in their full width -/

theorem isDigit_of_mem_padded {width n : Nat} : ∀ c ∈ Text.padded width n, c.isDigit = true := by
  intro c hc
  unfold Text.padded at hc
  rcases List.mem_append.mp hc with hc | hc
  · rw [(List.mem_replicate.mp hc).2]
    rfl
  · exact Nat.isDigit_of_mem_toDigits (by decide) (by decide) hc

theorem length_padded {width n : Nat} (hwidth : 0 < width) (hn : n < 10 ^ width) :
    (Text.padded width n).length = width := by
  have hle : (Nat.toDigits 10 n).length ≤ width :=
    (Nat.length_toDigits_le_iff (by decide) hwidth).mpr hn
  simp only [Text.padded, Text.decimal, List.length_append, List.length_replicate]
  omega

theorem ofDigitChars_padded (width n : Nat) : Nat.ofDigitChars 10 (Text.padded width n) 0 = n := by
  simp [Text.padded, Text.decimal, Nat.ofDigitChars_append]

/-- A field of fixed width gives the number that was written into it. -/
theorem fixed_padded {width n : Nat} (hwidth : 0 < width) (hn : n < 10 ^ width)
    (rest : List Char) : fixed width (Text.padded width n ++ rest) = some (n, rest) := by
  have hlength := length_padded hwidth hn
  have hspan : spanDigits width (Text.padded width n ++ rest) = _ :=
    spanDigits_append isDigit_of_mem_padded (Or.inl hlength.symm)
  rw [fixed, hspan]
  simp only [List.length_map, hlength, if_true, ofDigits_map, ofDigitChars_padded]

/-- Decimal places count from the point on, so fewer of them than nine leave out zeros. -/
theorem fraction_padded {width n : Nat} (hwidth : 0 < width) (hnine : width ≤ 9)
    (hn : n < 10 ^ width) {rest : List Char} (hrest : ∀ c ∈ rest.head?, Text.digit? c = none) :
    fraction ('.' :: Text.padded width n ++ rest) = some (n * 10 ^ (9 - width), rest) := by
  have hlength := length_padded hwidth hn
  have hspan : spanDigits (Text.padded width n ++ rest).length (Text.padded width n ++ rest) = _ :=
    spanDigits_append isDigit_of_mem_padded (Or.inr ⟨by simp, hrest⟩)
  have hsome : ((Text.padded width n).map fun c => c.toNat - '0'.toNat).isEmpty = false := by
    rw [List.isEmpty_eq_false_iff_exists_mem]
    have hne : Text.padded width n ≠ [] := by
      intro hnil
      rw [hnil] at hlength
      exact absurd hlength (by simpa using Nat.ne_of_lt hwidth)
    obtain ⟨c, hc⟩ := List.exists_mem_of_ne_nil _ hne
    exact ⟨_, List.mem_map_of_mem hc⟩
  have htake : ((Text.padded width n).map fun c => c.toNat - '0'.toNat).take 9
      = (Text.padded width n).map fun c => c.toNat - '0'.toNat :=
    List.take_of_length_le (by rw [List.length_map, hlength]; exact hnine)
  rw [List.cons_append, fraction]
  simp only [hspan, hsome, htake, List.length_map, hlength, ofDigits_map, ofDigitChars_padded,
    Bool.false_eq_true, if_false]

/-! ## Whole timestamps -/

/-- The years that take four digits and no sign. -/
def hasFourDigits (year : Int) : Prop :=
  0 ≤ year ∧ year ≤ 9999

instance : DecidablePred hasFourDigits := fun year =>
  inferInstanceAs (Decidable (0 ≤ year ∧ year ≤ 9999))

theorem yearText_eq_padded {year : Int} (h : hasFourDigits year) :
    yearText year = Text.padded 4 year.toNat := by
  obtain ⟨h0, h9⟩ := h
  unfold yearText
  rw [if_neg (by omega), if_neg (by omega)]
  congr 1
  omega

theorem fixed_yearText {year : Int} (h : hasFourDigits year) (rest : List Char) :
    fixed 4 (yearText year ++ rest) = some (year.toNat, rest) := by
  have hbound := h.2
  rw [yearText_eq_padded h]
  exact fixed_padded (by decide) (by omega) rest

theorem daysInMonth_le (year : Int) (month : Nat) : Date.daysInMonth year month ≤ 31 := by
  unfold Date.daysInMonth
  split
  · split <;> decide
  all_goals decide

theorem Civil.isValid_iff {c : Civil} :
    c.isValid = true ↔ c.date.isValid = true ∧ hasYear c.date.year = true ∧ c.hour ≤ 23
      ∧ c.minute ≤ 59 ∧ c.second ≤ 60 ∧ c.nanos < 1000000000 := by
  simp only [isValid, Bool.and_eq_true, decide_eq_true_eq, and_assoc]
  rfl

/-- A valid time is read back from its fields, with the fraction that its decimal places spell. -/
theorem strict?_civil {c : Civil} (hvalid : c.isValid = true) (hyear : hasFourDigits c.date.year)
    {places : List Char} (hplaces : fraction (places ++ ['Z']) = some (c.nanos, ['Z'])) :
    strict? (dateText c.date ++ 'T' :: clockText c ++ places ++ ['Z']) = some c.toInstant := by
  obtain ⟨hdate, -, hh, hmin, hs, -⟩ := Civil.isValid_iff.mp hvalid
  simp only [Date.isValid, Bool.and_eq_true, decide_eq_true_eq] at hdate
  obtain ⟨⟨⟨hm1, hm12⟩, hd1⟩, hd⟩ := hdate
  have hd31 : c.date.day ≤ 31 := Nat.le_trans hd (daysInMonth_le _ _)
  have hyear' : ((c.date.year.toNat : Nat) : Int) = c.date.year := Int.toNat_of_nonneg hyear.1
  -- each field is as wide as its bound needs, so that the reader stops where the next one starts
  unfold strict? dateText clockText
  simp only [List.append_assoc, List.cons_append, fixed_yearText hyear, after?, if_true,
    fixed_padded Nat.two_pos (show c.date.month < 10 ^ 2 by omega),
    fixed_padded Nat.two_pos (show c.date.day < 10 ^ 2 by omega),
    fixed_padded Nat.two_pos (show c.hour < 10 ^ 2 by omega),
    fixed_padded Nat.two_pos (show c.minute < 10 ^ 2 by omega),
    fixed_padded Nat.two_pos (show c.second < 10 ^ 2 by omega),
    hplaces, bind, Option.bind, Option.orElse_eq_or, Option.some_or, hyear']
  rw [show offset ['Z'] = some (0, []) from rfl]
  simp only [List.isEmpty_nil, Bool.true_and, hvalid, if_true, Int.sub_zero]

/-- A text with a `Z` at its end is not trimmed if it does not start with white space. -/
theorem trim_of_first {first : Char} (h : Text.isSpace first = false) (middle : List Char) :
    Text.trim (first :: middle ++ ['Z']) = first :: middle ++ ['Z'] := by
  refine Text.trim_of_ends (by simpa using h) fun c hc => ?_
  rw [List.getLast?_append, List.getLast?_singleton] at hc
  cases hc
  rfl

/-- **The text of a valid time denotes it.** -/
theorem ofText?_civil {c : Civil} (hvalid : c.isValid = true) (hyear : hasFourDigits c.date.year)
    {places : List Char} (hplaces : fraction (places ++ ['Z']) = some (c.nanos, ['Z'])) :
    ofText? (String.ofList (dateText c.date ++ 'T' :: clockText c ++ places ++ ['Z']))
      = some c.toInstant := by
  obtain ⟨d, ds, hds⟩ := List.exists_cons_of_ne_nil (l := Text.padded 4 c.date.year.toNat)
    (by simp [Text.padded, Text.decimal])
  have hd : d.isDigit = true :=
    isDigit_of_mem_padded d (hds ▸ List.mem_cons_self ..)
  obtain ⟨rest, hrest⟩ : ∃ rest,
      dateText c.date ++ 'T' :: clockText c ++ places = d :: rest := by
    rw [dateText, yearText_eq_padded hyear, hds]
    exact ⟨_, rfl⟩
  have htrim : Text.trim (dateText c.date ++ 'T' :: clockText c ++ places ++ ['Z'])
      = dateText c.date ++ 'T' :: clockText c ++ places ++ ['Z'] := by
    rw [hrest]
    exact trim_of_first (Text.isSpace_of_isDigit hd) rest
  rw [ofText?, String.toList_ofList, htrim, strict?_civil hvalid hyear hplaces]
  rfl

end ActivityFeed.Instant
