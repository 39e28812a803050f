import ActivityFeed.Proofs.Instant.FieldOrder
import ActivityFeed.Proofs.Instant.Forms

/-!
# What timestamps in full width denote

A `Stamp` is a civil time with all its fields in full width and with any number of decimal places,
as it stands before an offset or alone. Alone and before a `Z` it denotes the instant at which
clocks of UTC show it. Before an offset it denotes that instant moved by the offset, however many
calendar fields the move changes: only the seconds of the instant move, and what is less than a
second, a leap second included, stays as it is.

Main result: `ofText?_stamp`.
-/

namespace ActivityFeed.Instant

/-- A civil time in full width. -/
structure Stamp where
  date : Date
  /-- What stands between the date and the clock. -/
  separator : Char
  hour : Nat
  minute : Nat
  second : Nat
  /-- The digits of the fraction; without any there is no point. -/
  places : List Char
  hasDate : date.isValid = true
  hasYear : hasFourDigits date.year
  isSeparator : separator = 'T' ∨ separator = ' '
  hour_le : hour ≤ 23
  minute_le : minute ≤ 59
  second_le : second ≤ 60
  isDigit_of_mem : ∀ c ∈ places, c.isDigit = true

/-- Nanoseconds of decimal places: the first nine of them, missing ones as zeros. -/
def nanosOf (places : List Char) : Nat :=
  Nat.ofDigitChars 10 ((places ++ List.replicate 9 '0').take 9) 0

/-- A fraction as it is written. -/
def pointText (places : List Char) : List Char :=
  if places = [] then [] else '.' :: places

namespace Stamp

/-- What clocks of UTC show. -/
def civil (d : Stamp) : Civil :=
  ⟨d.date, d.hour, d.minute, d.second, nanosOf d.places⟩

/-- The text without an offset. -/
def text (d : Stamp) : List Char :=
  dateText d.date ++ d.separator :: (clockText d.civil ++ pointText d.places)

/-- The instant at which clocks of UTC show it. -/
def instant (d : Stamp) : Instant :=
  d.civil.toInstant

end Stamp

/-- An offset from UTC. -/
structure Offset where
  /-- A plus sign, a hyphen or a minus sign. -/
  sign : Char
  hour : Nat
  minute : Nat
  isSign : sign = '+' ∨ sign = '-' ∨ sign = '\u2212'
  hour_le : hour ≤ 23
  minute_le : minute ≤ 59

namespace Offset

/-- The text of an offset. -/
def text (o : Offset) : List Char :=
  o.sign :: (Text.padded 2 o.hour ++ ':' :: Text.padded 2 o.minute)

/-- How many seconds clocks at this offset are ahead of UTC. -/
def seconds (o : Offset) : Int :=
  if o.sign = '+' then o.hour * 3600 + o.minute * 60 else -(o.hour * 3600 + o.minute * 60)

end Offset

theorem isSpace_of_mem_padded {width n : Nat} {c : Char} (h : c ∈ Text.padded width n) :
    Text.isSpace c = false :=
  Text.isSpace_of_isDigit (isDigit_of_mem_padded c h)

/-! ## Fractions -/

/-- What ends a fraction: anything but a digit, and a point only behind the first one. -/
def EndsFraction (cs : List Char) : Prop :=
  ∀ c ∈ cs.head?, Text.digit? c = none ∧ c ≠ '.'

theorem nanosOf_lt {places : List Char} (h : ∀ c ∈ places, c.isDigit = true) :
    nanosOf places < nanosPerSecond := by
  have hdigits : ∀ c ∈ (places ++ List.replicate 9 '0').take 9, c.isDigit = true := by
    intro c hc
    rcases List.mem_append.mp (List.mem_of_mem_take hc) with hplace | hzero
    · exact h c hplace
    · rw [(List.mem_replicate.mp hzero).2]
      rfl
  have hlength : ((places ++ List.replicate 9 '0').take 9).length
      = (List.replicate 9 '0').length := by
    rw [List.length_take, List.length_append, List.length_replicate]
    omega
  exact ofDigitChars_lt_of_lt hdigits hlength Nat.zero_lt_one

theorem nanosOf_eq (places : List Char) :
    nanosOf places = Nat.ofDigitChars 10 (places.take 9) 0 * 10 ^ (9 - places.length) := by
  rw [nanosOf, List.take_append, List.take_replicate, Nat.ofDigitChars_append,
    Nat.ofDigitChars_replicate_zero, Nat.min_eq_left (Nat.sub_le _ _), Nat.mul_comm]

/-- Decimal places are read as nanoseconds, and those after the ninth do not count. -/
theorem fraction_pointText {places rest : List Char} (h : ∀ c ∈ places, c.isDigit = true)
    (hrest : EndsFraction rest) :
    fraction (pointText places ++ rest) = some (nanosOf places, rest) := by
  by_cases hnil : places = []
  · subst hnil
    rw [pointText, if_pos rfl, List.nil_append]
    unfold fraction
    split
    next cs' => exact absurd rfl (hrest '.' rfl).2
    next => rfl
  · have hspan : spanDigits (places ++ rest).length (places ++ rest) = _ :=
      spanDigits_append h (Or.inr ⟨by simp, fun c hc => (hrest c hc).1⟩)
    have hsome : (places.map fun c => c.toNat - '0'.toNat).isEmpty = false := by simpa using hnil
    rw [pointText, if_neg hnil, List.cons_append, fraction]
    simp only [hspan, hsome, Bool.false_eq_true, if_false, List.length_map, ← List.map_take,
      ofDigits_map, nanosOf_eq]

/-! ## Dates and clocks -/

/-- **At the instant of a valid time clocks show that time.** -/
theorem civil_toInstant {c : Civil} (h : c.isValid = true) : c.toInstant.civil = c := by
  obtain ⟨hdate, -, hhour, hminute, hsecond, hnanos⟩ := Civil.isValid_iff.mp h
  have hdays := Date.ofDays_toDays hdate
  obtain ⟨date, hour, minute, second, nanos⟩ := c
  dsimp only at hdays hhour hminute hsecond hnanos
  unfold Civil.toInstant civil secondsPerDay nanosPerSecond
  by_cases hleap : second = 60
  · subst hleap
    have hday : (date.toDays * 86400 + hour * 3600 + minute * 60 + 59) / 86400 = date.toDays := by
      omega
    have hofDay : ((date.toDays * 86400 + hour * 3600 + minute * 60 + 59 : Int) % 86400).toNat
        = hour * 3600 + minute * 60 + 59 := by
      omega
    simp only [if_true, hday, hofDay, hdays, Nat.le_add_left, Nat.add_sub_cancel, Civil.mk.injEq,
      true_and, and_true]
    omega
  · have hday : (date.toDays * 86400 + hour * 3600 + minute * 60 + second) / 86400
        = date.toDays := by
      omega
    have hofDay : ((date.toDays * 86400 + hour * 3600 + minute * 60 + second : Int) % 86400).toNat
        = hour * 3600 + minute * 60 + second := by
      omega
    have hsmall : ¬1000000000 ≤ nanos := Nat.not_le.mpr hnanos
    simp only [hleap, if_false, hday, hofDay, hdays, hsmall, Civil.mk.injEq, true_and, and_true]
    omega

namespace Stamp

variable (d : Stamp)

theorem isValid_civil : d.civil.isValid = true := by
  have hyear : Civil.hasYear d.date.year = true := by
    have hfour := d.hasYear
    unfold hasFourDigits at hfour
    simp only [Civil.hasYear, Bool.and_eq_true, decide_eq_true_eq]
    omega
  exact Civil.isValid_iff.mpr ⟨d.hasDate, hyear, d.hour_le, d.minute_le, d.second_le,
    nanosOf_lt d.isDigit_of_mem⟩

theorem readDate_dateText (rest : List Char) :
    readDate fixedYear (fixed 2) (dateText d.date ++ rest) = some (d.date, rest) := by
  have hdate := d.hasDate
  simp only [Date.isValid, Bool.and_eq_true, decide_eq_true_eq] at hdate
  obtain ⟨⟨⟨-, hmonth⟩, -⟩, hday⟩ := hdate
  have hday31 : d.date.day ≤ 31 := Nat.le_trans hday (daysInMonth_le _ _)
  have hyear : ((d.date.year.toNat : Nat) : Int) = d.date.year := Int.toNat_of_nonneg d.hasYear.1
  unfold readDate dateText fixedYear
  simp only [List.append_assoc, List.cons_append, fixed_yearText d.hasYear, after?, if_true,
    fixed_padded Nat.two_pos (show d.date.month < 10 ^ 2 by omega),
    fixed_padded Nat.two_pos (show d.date.day < 10 ^ 2 by omega),
    Option.map_some, Option.bind_eq_bind, Option.bind_some, hyear]

theorem readClock_clockText {rest : List Char} (hrest : EndsFraction rest) :
    readClock (fixed 2) d.date (clockText d.civil ++ pointText d.places ++ rest)
      = some (d.civil, rest) := by
  have hhour := d.hour_le
  have hminute := d.minute_le
  have hsecond := d.second_le
  unfold readClock clockText civil
  simp only [List.append_assoc, List.cons_append, after?, if_true,
    fixed_padded Nat.two_pos (show d.hour < 10 ^ 2 by omega),
    fixed_padded Nat.two_pos (show d.minute < 10 ^ 2 by omega),
    fixed_padded Nat.two_pos (show d.second < 10 ^ 2 by omega),
    fraction_pointText d.isDigit_of_mem hrest, Option.bind_eq_bind, Option.bind_some]

/-- **Before an offset** a stamp is read in the strict form. -/
theorem strict?_text {rest : List Char} (hrest : EndsFraction rest) {shift : Int}
    (hoffset : offset rest = some (shift, [])) :
    strict? (d.text ++ rest) = some { d.instant with seconds := d.instant.seconds - shift } := by
  have hseparator : ∀ cs, ((after? 'T' (d.separator :: cs)).orElse
      fun _ => (after? 't' (d.separator :: cs)).orElse fun _ => after? ' ' (d.separator :: cs))
      = some cs := by
    intro cs
    rcases d.isSeparator with hT | hblank
    · rw [hT]
      rfl
    · rw [hblank]
      rfl
  rw [strict?_eq, text, List.append_assoc, List.cons_append]
  simp only [d.readDate_dateText, hseparator, d.readClock_clockText hrest, hoffset,
    Option.bind_eq_bind, Option.bind_some, List.isEmpty_nil, d.isValid_civil, Bool.and_self,
    if_true]
  rfl

/-- **Alone** a stamp is read in the loose form of its separator. -/
theorem exists_loose_text :
    looseT? d.text = some d.instant ∨ looseBlank? d.text = some d.instant := by
  have hdate := Extends.readDate extends_looseYear (extends_loose Nat.two_pos)
    (d.readDate_dateText (d.separator :: (clockText d.civil ++ pointText d.places)))
  have hclock := Extends.readClock (extends_loose Nat.two_pos) d.date
    (d.readClock_clockText (show EndsFraction [] from nofun))
  rw [List.append_nil] at hclock
  have hread : ∀ separator : List Char → Option (List Char), ∀ rest,
      separator (d.separator :: (clockText d.civil ++ pointText d.places)) = some rest →
      readClock (loose 2) d.date rest = some (d.civil, []) →
      loose? separator d.text = some d.instant := by
    intro separator rest hafter hrest
    rw [loose?_eq, text]
    simp only [hdate, hafter, hrest, Option.bind_eq_bind, Option.bind_some, List.isEmpty_nil,
      d.isValid_civil, Bool.and_self, if_true]
    rfl
  rcases d.isSeparator with hT | hblank
  · exact Or.inl (hread _ _ (by rw [hT]; rfl) hclock)
  · refine Or.inr (hread _ _ rfl ?_)
    rw [readClock_trimStart, hblank, ← readClock_trimStart]
    rw [← readClock_trimStart] at hclock
    exact hclock

theorem isSpace_of_mem_clock {c : Char}
    (h : c ∈ clockText d.civil ++ pointText d.places) : Text.isSpace c = false := by
  have hpoint : c ∈ pointText d.places → Text.isSpace c = false := by
    unfold pointText
    split
    next => exact fun hc => absurd hc List.not_mem_nil
    next =>
      intro hc
      rcases List.mem_cons.mp hc with rfl | hplace
      · rfl
      · exact Text.isSpace_of_isDigit (d.isDigit_of_mem c hplace)
  simp only [clockText, List.append_assoc, List.cons_append, List.mem_append, List.mem_cons] at h
  rcases h with hhour | rfl | hminute | rfl | hsecond | hplaces
  · exact isSpace_of_mem_padded hhour
  · rfl
  · exact isSpace_of_mem_padded hminute
  · rfl
  · exact isSpace_of_mem_padded hsecond
  · exact hpoint hplaces

/-- A stamp neither starts nor ends with white space, whatever stands behind it that does not. -/
theorem trim_text {rest : List Char} (hrest : ∀ c ∈ rest, Text.isSpace c = false) :
    Text.trim (d.text ++ rest) = d.text ++ rest := by
  refine Text.trim_of_ends (fun c hc => ?_) fun c hc => ?_
  · have hyear : Text.padded 4 d.date.year.toNat ≠ [] := by simp [Text.padded, Text.decimal]
    rw [text, dateText, yearText_eq_padded d.hasYear] at hc
    simp only [List.append_assoc, List.head?_append_of_ne_nil _ hyear] at hc
    exact isSpace_of_mem_padded (List.mem_of_mem_head? hc)
  · have hclock : clockText d.civil ++ pointText d.places ++ rest ≠ [] := by simp [clockText]
    have hsplit : d.text ++ rest = (dateText d.date ++ [d.separator])
        ++ (clockText d.civil ++ pointText d.places ++ rest) := by
      simp [text]
    rw [hsplit, List.getLast?_append_of_ne_nil _ hclock] at hc
    rcases List.mem_append.mp (List.mem_of_mem_getLast? hc) with hfirst | hlast
    · exact d.isSpace_of_mem_clock hfirst
    · exact hrest c hlast

end Stamp

/-! ## Offsets -/

theorem offset_text (o : Offset) : offset o.text = some (o.seconds, []) := by
  have hhour := o.hour_le
  have hminute := o.minute_le
  have hlast : fixed 2 (Text.padded 2 o.minute) = some (o.minute, []) := by
    have h := fixed_padded Nat.two_pos (show o.minute < 10 ^ 2 by omega) []
    rwa [List.append_nil] at h
  unfold offset Offset.text Offset.seconds
  rcases o.isSign with hsign | hsign | hsign
  all_goals
    simp [hsign, after?, hlast, hhour, hminute,
      fixed_padded Nat.two_pos (show o.hour < 10 ^ 2 by omega)]

theorem isSpace_of_mem_offset {o : Offset} {c : Char} (h : c ∈ o.text) :
    Text.isSpace c = false := by
  rw [Offset.text, List.mem_cons, List.mem_append, List.mem_cons] at h
  rcases h with hsign | hhour | rfl | hminute
  · rcases o.isSign with h | h | h
    all_goals
      rw [hsign, h]
      rfl
  · exact isSpace_of_mem_padded hhour
  · rfl
  · exact isSpace_of_mem_padded hminute

theorem endsFraction_offset (o : Offset) : EndsFraction o.text := by
  intro c hc
  obtain rfl : o.sign = c := Option.some.inj hc
  rcases o.isSign with h | h | h
  all_goals
    rw [h]
    exact ⟨rfl, by decide⟩

/-! ## Stamps with and without an offset -/

/-- **Full-width timestamps denote the right instant, and in one way only.** A stamp alone, before a
`Z` and before an offset is a timestamp. Alone and before a `Z` it denotes the instant at which
clocks of UTC show it, and before an offset the one that is as many seconds earlier as the clocks
are ahead, with the same nanoseconds. White space around a timestamp does not count. The forms
exclude each other, so that they may be tried in any order. -/
theorem ofText?_stamp (d : Stamp) (o : Offset) :
    ofText? (String.ofList d.text) = some d.instant
      ∧ ofText? (String.ofList (d.text ++ ['Z'])) = some d.instant
      ∧ ofText? (String.ofList (d.text ++ o.text))
          = some { d.instant with seconds := d.instant.seconds - o.seconds }
      ∧ d.instant.civil = d.civil
      ∧ d.instant.nanos = nanosOf d.places + (if d.second = 60 then 1000000000 else 0)
      ∧ (∀ (raw : String) (before after : List Char), (∀ c ∈ before, Text.isSpace c = true) →
          (∀ c ∈ after, Text.isSpace c = true) →
          ofText? (String.ofList (before ++ raw.toList ++ after)) = ofText? raw)
      ∧ [strict?, looseT?, looseBlank?].Pairwise (fun f g => ∀ cs, f cs = none ∨ g cs = none)
      ∧ ∀ order : List (List Char → Option Instant),
          order.Perm [strict?, looseT?, looseBlank?] → ∀ raw : String,
            (order.findSome? fun form => form (Text.trim raw.toList)) = ofText? raw := by
  -- with an offset at its end a stamp has the strict form, without one a loose form
  have hstrict : ∀ {rest shift}, EndsFraction rest → offset rest = some (shift, []) →
      (∀ c ∈ rest, Text.isSpace c = false) →
      ofText? (String.ofList (d.text ++ rest))
        = some { d.instant with seconds := d.instant.seconds - shift } := by
    intro rest shift hend hoffset hspace
    refine ofText?_of_mem (show strict? ∈ forms by simp [forms]) ?_
    rw [String.toList_ofList, d.trim_text hspace]
    exact d.strict?_text hend hoffset
  refine ⟨?_, ?_, ?_, civil_toInstant d.isValid_civil, ?_, ?_, pairwise_forms, ?_⟩
  · have htrim := d.trim_text (List.forall_mem_nil fun c => Text.isSpace c = false)
    rw [List.append_nil] at htrim
    rcases d.exists_loose_text with hT | hblank
    · refine ofText?_of_mem (show looseT? ∈ forms by simp [forms]) ?_
      rw [String.toList_ofList, htrim, hT]
    · refine ofText?_of_mem (show looseBlank? ∈ forms by simp [forms]) ?_
      rw [String.toList_ofList, htrim, hblank]
  · have hend : EndsFraction ['Z'] := by simp [EndsFraction, Text.digit?]
    have hoffset : offset ['Z'] = some (0, []) := rfl
    simpa using hstrict hend hoffset (by simp [Text.isSpace])
  · exact hstrict (endsFraction_offset o) (offset_text o) fun c hc => isSpace_of_mem_offset hc
  · unfold Stamp.instant Civil.toInstant Stamp.civil
    dsimp only
    split
    next => rfl
    next => rfl
  · intro raw before after hbefore hafter
    rw [ofText?, ofText?, String.toList_ofList, Text.trim_between hbefore hafter]
  · intro order horder raw
    rw [ofText?_eq_findSome?]
    exact (findSome?_of_perm horder.symm pairwise_forms _).symm

/-- The leap second at the end of a year. -/
def lastSecond : Stamp where
  date := ⟨2023, 12, 31⟩
  separator := ' '
  hour := 23
  minute := 59
  second := 60
  places := "0123456789".toList
  hasDate := by decide
  hasYear := by decide
  isSeparator := by decide
  hour_le := by decide
  minute_le := by decide
  second_le := by decide
  isDigit_of_mem := List.all_eq_true.mp rfl

/-- Half an hour behind UTC. -/
def halfHourBehind : Offset where
  sign := '-'
  hour := 0
  minute := 30
  isSign := by decide
  hour_le := by decide
  minute_le := by decide

/-- When clocks half an hour behind UTC show the last second of a year, a leap second, the next year
has begun in UTC. -/
theorem ofText?_lastSecond :
    (∀ c ∈ ['\t', ' '], Text.isSpace c = true) ∧ (∀ c ∈ ['\u3000'], Text.isSpace c = true)
      ∧ ofText? "\t 2023-12-31 23:59:60.0123456789-00:30\u3000"
        = some ⟨1704068999, 1012345678⟩ := by
  obtain ⟨-, -, hoffset, -, -, hspace, -⟩ := ofText?_stamp lastSecond halfHourBehind
  have hbefore : ∀ c ∈ ['\t', ' '], Text.isSpace c = true := List.all_eq_true.mp rfl
  have hafter : ∀ c ∈ ['\u3000'], Text.isSpace c = true := List.all_eq_true.mp rfl
  refine ⟨hbefore, hafter, ?_⟩
  have htext : "\t 2023-12-31 23:59:60.0123456789-00:30\u3000"
      = String.ofList (['\t', ' ']
        ++ (String.ofList (lastSecond.text ++ halfHourBehind.text)).toList ++ ['\u3000']) := by
    decide +kernel
  rw [htext, hspace _ _ _ hbefore hafter, hoffset]
  decide +kernel

end ActivityFeed.Instant
