import ActivityFeed.Proofs.Instant.Text

/-!
# Which timestamps are read again as they are written

Whatever form a timestamp was read in, it denotes an instant that clocks show
(`isShown_of_ofText?`): an offset is one of whole minutes, so it leaves a second of sixty at the end
of a minute. What is written of that instant is in the strict form, and that form has no years but
those of four digits. A year outside them is written with a sign, which the strict form does not
take, and with a `Z` at the end, which the loose forms do not take (`ofText?_of_sign`).

Main result: `ofText?_text_of_ofText?`.
-/

namespace ActivityFeed.Instant

/-! ## What is left of a text with a `Z` at its end -/

/-- Where a text has a last letter, so has what is left of it after any other one. -/
theorem getLast?_of_cons {c d : Char} {cs : List Char} (h : (d :: cs).getLast? = some c)
    (hne : d ≠ c) : cs.getLast? = some c := by
  cases cs with
  | nil => exact absurd (Option.some.inj h) hne
  | cons e cs => rwa [List.getLast?_cons_cons] at h

theorem getLast?_spanDigits (most : Nat) {cs : List Char} (h : cs.getLast? = some 'Z') :
    (spanDigits most cs).2.getLast? = some 'Z' := by
  induction most generalizing cs with
  | zero => exact h
  | succ most ih =>
    cases cs with
    | nil => exact h
    | cons c cs =>
      rw [spanDigits]
      split
      next d hd =>
        have hne : c ≠ 'Z' := by
          rintro rfl
          cases hd
        exact ih (getLast?_of_cons h hne)
      next => exact h

theorem getLast?_trimStart {cs : List Char} (h : cs.getLast? = some 'Z') :
    (Text.trimStart cs).getLast? = some 'Z' := by
  induction cs with
  | nil => exact h
  | cons c cs ih =>
    rw [Text.trimStart, List.dropWhile_cons]
    split
    next hspace =>
      have hne : c ≠ 'Z' := by
        rintro rfl
        cases hspace
      exact ih (getLast?_of_cons h hne)
    next => exact h

/-- A reader leaves a `Z` at the end of a text where it is. -/
def LeavesZ {α : Type} (f : Front α) : Prop :=
  ∀ {cs : List Char} {x : α} {rest : List Char}, f cs = some (x, rest) →
    cs.getLast? = some 'Z' → rest.getLast? = some 'Z'

theorem leavesZ_loose (most : Nat) : LeavesZ (loose most) := by
  intro cs n rest h hlast
  unfold loose at h
  dsimp only at h
  split at h
  · cases h
  · cases h
    exact getLast?_spanDigits most (getLast?_trimStart hlast)

theorem leavesZ_looseYear : LeavesZ looseYear := by
  intro cs year rest h hlast
  have htrim := getLast?_trimStart hlast
  -- behind a sign there are digits, as many as there may be
  have hunlimited : ∀ {cs : List Char} {n : Nat} {rest : List Char},
      (if (spanDigits cs.length cs).1.isEmpty then none
        else some (ofDigits (spanDigits cs.length cs).1, (spanDigits cs.length cs).2))
          = some (n, rest) →
      cs.getLast? = some 'Z' → rest.getLast? = some 'Z' := by
    intro cs n rest hsome hlast
    split at hsome
    · cases hsome
    · cases hsome
      exact getLast?_spanDigits _ hlast
  unfold looseYear at h
  dsimp only at h
  split at h
  next cs' hcs =>
    obtain ⟨⟨n, rest'⟩, hsome, heq⟩ := Option.map_eq_some_iff.mp h
    cases heq
    exact hunlimited hsome (getLast?_of_cons (hcs ▸ htrim) (by decide))
  next cs' hcs =>
    obtain ⟨⟨n, rest'⟩, hsome, heq⟩ := Option.map_eq_some_iff.mp h
    cases heq
    exact hunlimited hsome (getLast?_of_cons (hcs ▸ htrim) (by decide))
  next =>
    obtain ⟨⟨n, rest'⟩, hsome, heq⟩ := Option.map_eq_some_iff.mp h
    cases heq
    exact leavesZ_loose 4 hsome htrim

theorem leavesZ_fraction : LeavesZ fraction := by
  intro cs nanos rest h hlast
  unfold fraction at h
  split at h
  next cs' =>
    dsimp only at h
    split at h
    · cases h
    · cases h
      exact getLast?_spanDigits _ (getLast?_of_cons hlast (by decide))
  next =>
    cases h
    exact hlast

theorem getLast?_after? {c : Char} (hc : c ≠ 'Z') {cs rest : List Char}
    (h : after? c cs = some rest) (hlast : cs.getLast? = some 'Z') : rest.getLast? = some 'Z' := by
  cases cs with
  | nil => cases h
  | cons d cs =>
    rw [after?] at h
    split at h
    next hd =>
      cases h
      exact getLast?_of_cons hlast (hd ▸ hc)
    next => cases h

/-! ## What the forms give and what they take -/

theorem exists_of_bind {α β : Type} {x : Option α} {f : α → Option β} {b : β}
    (h : (x >>= f) = some b) : ∃ a, x = some a ∧ f a = some b :=
  Option.bind_eq_some_iff.mp h

/-- An offset is one of whole minutes. -/
theorem emod_of_offset {cs rest : List Char} {shift : Int} (h : offset cs = some (shift, rest)) :
    shift % 60 = 0 := by
  unfold offset at h
  cases cs with
  | nil => cases h
  | cons c cs =>
    have hwhole : ∀ (sign : Int) (hour minute : Nat) (cs' : List Char),
        (if hour ≤ 23 && minute ≤ 59 then
          some (sign * (hour * 3600 + minute * 60 : Nat), cs')
        else none) = some (shift, rest) → shift % 60 = 0 := by
      intro sign hour minute cs' hsome
      split at hsome
      · cases hsome
        refine Int.emod_eq_zero_of_dvd (Dvd.dvd.mul_left ?_ sign)
        omega
      · cases hsome
    dsimp only at h
    split at h
    · cases h
      rfl
    · split at h
      · obtain ⟨⟨hour, _⟩, -, hminute⟩ := exists_of_bind h
        obtain ⟨_, -, hminute⟩ := exists_of_bind hminute
        obtain ⟨⟨minute, _⟩, -, hsome⟩ := exists_of_bind hminute
        exact hwhole 1 hour minute _ hsome
      · split at h
        · obtain ⟨⟨hour, _⟩, -, hminute⟩ := exists_of_bind h
          obtain ⟨_, -, hminute⟩ := exists_of_bind hminute
          obtain ⟨⟨minute, _⟩, -, hsome⟩ := exists_of_bind hminute
          exact hwhole (-1) hour minute _ hsome
        · cases h

/-- The strict form gives a valid time, moved by its offset. -/
theorem civil_of_strict? {cs : List Char} {t : Instant} (h : strict? cs = some t) :
    ∃ (c : Civil) (shift : Int), c.isValid = true ∧ shift % 60 = 0
      ∧ t = { c.toInstant with seconds := c.toInstant.seconds - shift } := by
  rw [strict?] at h
  obtain ⟨⟨year, _⟩, -, hdate⟩ := exists_of_bind h
  obtain ⟨_, -, hdate⟩ := exists_of_bind hdate
  obtain ⟨⟨month, _⟩, -, hdate⟩ := exists_of_bind hdate
  obtain ⟨_, -, hdate⟩ := exists_of_bind hdate
  obtain ⟨⟨day, _⟩, -, hclock⟩ := exists_of_bind hdate
  obtain ⟨_, -, hclock⟩ := exists_of_bind hclock
  obtain ⟨⟨hour, _⟩, -, hclock⟩ := exists_of_bind hclock
  obtain ⟨_, -, hclock⟩ := exists_of_bind hclock
  obtain ⟨⟨minute, _⟩, -, hclock⟩ := exists_of_bind hclock
  obtain ⟨_, -, hclock⟩ := exists_of_bind hclock
  obtain ⟨⟨second, _⟩, -, hclock⟩ := exists_of_bind hclock
  obtain ⟨⟨nanos, _⟩, -, hclock⟩ := exists_of_bind hclock
  obtain ⟨⟨shift, rest⟩, hshift, hsome⟩ := exists_of_bind hclock
  dsimp only at hsome
  split at hsome
  next hvalid =>
    cases hsome
    exact ⟨_, shift, (Bool.and_eq_true_iff.mp hvalid).2, emod_of_offset hshift, rfl⟩
  next => cases hsome

/-- **A loose form** gives a valid time, and takes no text with a `Z` at its end. -/
theorem civil_of_loose? {separator : List Char → Option (List Char)}
    (hseparator : ∀ {cs rest}, separator cs = some rest → cs.getLast? = some 'Z' →
      rest.getLast? = some 'Z')
    {cs : List Char} {t : Instant} (h : loose? separator cs = some t) :
    (∃ c : Civil, c.isValid = true ∧ t = c.toInstant) ∧ cs.getLast? ≠ some 'Z' := by
  rw [loose?] at h
  obtain ⟨⟨year, _⟩, hyear, hdate⟩ := exists_of_bind h
  obtain ⟨_, hdash, hdate⟩ := exists_of_bind hdate
  obtain ⟨⟨month, _⟩, hmonth, hdate⟩ := exists_of_bind hdate
  obtain ⟨_, hdash', hdate⟩ := exists_of_bind hdate
  obtain ⟨⟨day, _⟩, hday, hclock⟩ := exists_of_bind hdate
  obtain ⟨_, hbetween, hclock⟩ := exists_of_bind hclock
  obtain ⟨⟨hour, _⟩, hhour, hclock⟩ := exists_of_bind hclock
  obtain ⟨_, hcolon, hclock⟩ := exists_of_bind hclock
  obtain ⟨⟨minute, _⟩, hminute, hclock⟩ := exists_of_bind hclock
  obtain ⟨_, hcolon', hclock⟩ := exists_of_bind hclock
  obtain ⟨⟨second, _⟩, hsecond, hclock⟩ := exists_of_bind hclock
  obtain ⟨⟨nanos, rest⟩, hfraction, hsome⟩ := exists_of_bind hclock
  dsimp only at hsome
  split at hsome
  next hvalid =>
    cases hsome
    refine ⟨⟨_, (Bool.and_eq_true_iff.mp hvalid).2, rfl⟩, fun hlast => ?_⟩
    -- field after field the `Z` stays where it is, so that something is left at the end
    have hdate := getLast?_after? (by decide) hdash (leavesZ_looseYear hyear hlast)
    have hdate' := leavesZ_loose 2 hday
      (getLast?_after? (by decide) hdash' (leavesZ_loose 2 hmonth hdate))
    have hclock := getLast?_after? (by decide) hcolon
      (leavesZ_loose 2 hhour (hseparator hbetween hdate'))
    have hclock' := getLast?_after? (by decide) hcolon' (leavesZ_loose 2 hminute hclock)
    have hrest := leavesZ_fraction hfraction (leavesZ_loose 2 hsecond hclock')
    have hnil : rest = [] := List.isEmpty_iff.mp (Bool.and_eq_true_iff.mp hvalid).1
    rw [hnil] at hrest
    cases hrest
  next => cases hsome

theorem civil_of_looseT? {cs : List Char} {t : Instant} (h : looseT? cs = some t) :
    (∃ c : Civil, c.isValid = true ∧ t = c.toInstant) ∧ cs.getLast? ≠ some 'Z' :=
  civil_of_loose? (fun hafter => getLast?_after? (by decide) hafter) h

theorem civil_of_looseBlank? {cs : List Char} {t : Instant} (h : looseBlank? cs = some t) :
    (∃ c : Civil, c.isValid = true ∧ t = c.toInstant) ∧ cs.getLast? ≠ some 'Z' := by
  refine civil_of_loose? (fun htrim hlast => ?_) h
  cases htrim
  exact getLast?_trimStart hlast

/-- Clocks show a valid time, wherever they are set by whole minutes. -/
theorem isShown_toInstant {c : Civil} (hvalid : c.isValid = true) {shift : Int}
    (hshift : shift % 60 = 0) :
    isShown { c.toInstant with seconds := c.toInstant.seconds - shift } := by
  obtain ⟨-, -, -, -, hsecond, hnanos⟩ := Civil.isValid_iff.mp hvalid
  unfold isShown Civil.toInstant nanosPerSecond secondsPerDay
  by_cases hleap : c.second = 60
  · rw [if_pos hleap]
    dsimp only
    omega
  · rw [if_neg hleap]
    exact Or.inl hnanos

/-- **Clocks show whatever a timestamp denotes.** -/
theorem isShown_of_ofText? {raw : String} {t : Instant} (h : ofText? raw = some t) :
    t.isShown := by
  have hloose : (∃ c : Civil, c.isValid = true ∧ t = c.toInstant) → t.isShown := by
    rintro ⟨c, hvalid, rfl⟩
    simpa using isShown_toInstant hvalid (Int.zero_emod 60)
  simp only [ofText?, Option.orElse_eq_or, Option.or_eq_some_iff] at h
  rcases h with hstrict | ⟨-, hT | ⟨-, hblank⟩⟩
  · obtain ⟨c, shift, hvalid, hshift, rfl⟩ := civil_of_strict? hstrict
    exact isShown_toInstant hvalid hshift
  · exact hloose (civil_of_looseT? hT).1
  · exact hloose (civil_of_looseBlank? hblank).1

/-- The strict form takes no sign before its year. -/
theorem strict?_of_sign {sign : Char} (h : Text.digit? sign = none) (cs : List Char) :
    strict? (sign :: cs) = none := by
  have hyear : fixed 4 (sign :: cs) = none := by
    simp [fixed, spanDigits, h]
  rw [strict?, hyear]
  rfl

/-- No form takes both a sign before the year and a `Z` at the end. -/
theorem ofText?_of_sign {sign : Char} (hsign : sign = '-' ∨ sign = '+') (cs : List Char) :
    ofText? (String.ofList (sign :: cs ++ ['Z'])) = none := by
  have hspace : Text.isSpace sign = false := by rcases hsign with rfl | rfl <;> rfl
  have hdigit : Text.digit? sign = none := by rcases hsign with rfl | rfl <;> rfl
  have hlast : (sign :: cs ++ ['Z']).getLast? = some 'Z' := by
    rw [List.getLast?_append, List.getLast?_singleton, Option.some_or]
  have hT : looseT? (sign :: cs ++ ['Z']) = none :=
    Option.eq_none_iff_forall_ne_some.mpr fun t h => (civil_of_looseT? h).2 hlast
  have hblank : looseBlank? (sign :: cs ++ ['Z']) = none :=
    Option.eq_none_iff_forall_ne_some.mpr fun t h => (civil_of_looseBlank? h).2 hlast
  rw [ofText?, String.toList_ofList, trim_of_first hspace, hT, hblank, List.cons_append,
    strict?_of_sign hdigit]
  rfl

/-! ## What is read again -/

/-- A year outside the years of four digits is written with a sign. -/
theorem yearText_of_not_hasFourDigits {year : Int} (h : ¬hasFourDigits year) :
    ∃ sign digits, (sign = '-' ∨ sign = '+') ∧ yearText year = sign :: digits := by
  unfold yearText
  by_cases hneg : year < 0
  · exact ⟨'-', _, Or.inl rfl, if_pos hneg⟩
  · have hlarge : 9999 < year := by
      unfold hasFourDigits at h
      omega
    refine ⟨'+', Text.padded 4 year.natAbs, Or.inr rfl, ?_⟩
    rw [if_neg hneg, if_pos hlarge]

/-- What is written of an instant outside the years of four digits is no timestamp. -/
theorem ofText?_text_eq_none {t : Instant} (h : ¬hasFourDigits t.civil.date.year) :
    ofText? t.text = none := by
  obtain ⟨sign, digits, hsign, hyear⟩ := yearText_of_not_hasFourDigits h
  rw [text, dateText, hyear]
  exact ofText?_of_sign hsign _

/-- **A timestamp is read again as it is written** just where its instant is in the years 0 to
9999; otherwise what is written of it is not read at all. -/
theorem ofText?_text_of_ofText? {raw : String} {t : Instant} (h : ofText? raw = some t) :
    ofText? t.text = if hasFourDigits t.civil.date.year then some t else none := by
  by_cases hyear : hasFourDigits t.civil.date.year
  · rw [if_pos hyear]
    exact ofText?_text ⟨isShown_of_ofText? h, hyear⟩
  · rw [if_neg hyear]
    exact ofText?_text_eq_none hyear

end ActivityFeed.Instant
