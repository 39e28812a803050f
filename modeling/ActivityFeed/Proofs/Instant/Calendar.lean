import ActivityFeed.Calendar
import Mathlib.Tactic.IntervalCases

/-!
# Every day has its date

`Date.ofDays` counts a day down: from its cycle of 400 years to its year, and from its year to its
month, both from March on. The month is a short case analysis. The year is the hard part, since the
division that finds it has to hit a year of 366 days exactly as often as the calendar has one:
`yearOfCycle_spec` says that the day stands in the year that is found, and that a year with a day
too many is one whose February is long.

Main results: the date of a number is one that the calendar has (`isValid_ofDays`), and its number
is the number it came from (`toDays_ofDays`).
-/

namespace ActivityFeed.Date

/-- The year of a day of a cycle. -/
def yearOfCycle (day : Int) : Int :=
  (day - day / 1460 + day / 36524 - day / 146096) / 365

/-- The days of a cycle before one of its years. -/
def daysBefore (year : Int) : Int :=
  365 * year + year / 4 - year / 100

/-- The month of a day of a year, counted from March. -/
def monthFromMarch (day : Int) : Int :=
  (5 * day + 2) / 153

/-- The days of a year before one of its months. -/
def daysBeforeMonth (month : Int) : Int :=
  (153 * month + 2) / 5

theorem yearOfCycle_bounds {day : Int} (h0 : 0 ≤ day) (h1 : day < 146097) :
    0 ≤ yearOfCycle day ∧ yearOfCycle day < 400 := by
  unfold yearOfCycle
  omega

/-- A day stands in its year, and where it is the 366th one the year is followed by a leap day. -/
theorem yearOfCycle_spec {day : Int} (h0 : 0 ≤ day) (h1 : day < 146097) :
    let y := yearOfCycle day
    daysBefore y ≤ day ∧ day ≤ daysBefore y + 365
      ∧ (day = daysBefore y + 365 → y % 4 = 3 ∧ (y % 100 = 99 → y = 399)) := by
  intro y
  obtain ⟨hy0, hy4⟩ := yearOfCycle_bounds h0 h1
  have hy : y = (day - day / 1460 + day / 36524 - day / 146096) / 365 := rfl
  -- the last day of the cycle is the only one that the last of the divisions moves
  have hlast : day / 146096 = 0 ∨ day = 146096 := by omega
  rcases hlast with hlast | rfl
  · have hday : day / 36524 = 0 ∨ day / 36524 = 1 ∨ day / 36524 = 2 ∨ day / 36524 = 3
        ∨ day / 36524 = 4 := by omega
    have hyear : y / 100 = 0 ∨ y / 100 = 1 ∨ y / 100 = 2 ∨ y / 100 = 3 := by omega
    unfold daysBefore
    rcases hday with h | h | h | h | h <;> rcases hyear with g | g | g | g <;>
      refine ⟨?_, ?_, fun hlong => ⟨?_, fun hcentury => ?_⟩⟩ <;> omega
  · exact ⟨by decide, by decide, fun _ => ⟨by decide, fun _ => by decide⟩⟩

/-- A day of a year stands in its month. -/
theorem monthFromMarch_spec {day : Int} (h0 : 0 ≤ day) (h1 : day ≤ 365) :
    let m := monthFromMarch day
    0 ≤ m ∧ m ≤ 11 ∧ daysBeforeMonth m ≤ day ∧ day < daysBeforeMonth (m + 1) := by
  intro m
  have hm : m = (5 * day + 2) / 153 := rfl
  unfold daysBeforeMonth
  omega

/-- The date that cycle, year, month and day make, with year and month counted from March. -/
def ofMarch (cycle year month day : Int) : Date :=
  let civil := if month < 10 then month + 3 else month - 9
  ⟨year + cycle * 400 + (if civil ≤ 2 then 1 else 0), civil.toNat, day.toNat⟩

theorem ofDays_eq_ofMarch (days : Int) :
    let d := (days + epoch) % 146097
    let r := d - daysBefore (yearOfCycle d)
    ofDays days = ofMarch ((days + epoch) / 146097) (yearOfCycle d) (monthFromMarch r)
      (r - daysBeforeMonth (monthFromMarch r) + 1) :=
  rfl

theorem toDays_ofMarch {cycle year month day : Int} (hy0 : 0 ≤ year) (hy4 : year < 400)
    (hm0 : 0 ≤ month) (hm11 : month ≤ 11) (hday : 1 ≤ day) :
    toDays (ofMarch cycle year month day)
      = cycle * 146097 + daysBefore year + daysBeforeMonth month + day - 1 - epoch := by
  unfold toDays ofMarch daysBefore daysBeforeMonth
  dsimp only
  by_cases hm : month < 10
  · have hcivil : ¬month + 3 ≤ 2 := by omega
    have hnat : ¬(month + 3).toNat ≤ 2 := by omega
    simp only [hm, hcivil, hnat, if_true, if_false]
    omega
  · have hcivil : month - 9 ≤ 2 := by omega
    have hnat : (month - 9).toNat ≤ 2 := by omega
    simp only [hm, hcivil, hnat, if_true, if_false]
    omega

/-- **Dates are numbered one by one.** -/
theorem toDays_ofDays (days : Int) : toDays (ofDays days) = days := by
  have h0 : 0 ≤ (days + epoch) % 146097 := Int.emod_nonneg _ (by decide)
  have h1 : (days + epoch) % 146097 < 146097 := Int.emod_lt_of_pos _ (by decide)
  obtain ⟨hy0, hy4⟩ := yearOfCycle_bounds h0 h1
  obtain ⟨hfrom, hto, -⟩ := yearOfCycle_spec h0 h1
  obtain ⟨hm0, hm11, hday, -⟩ := monthFromMarch_spec (Int.sub_nonneg_of_le hfrom)
    (Int.sub_left_le_of_le_add hto)
  rw [ofDays_eq_ofMarch, toDays_ofMarch hy0 hy4 hm0 hm11 (by omega)]
  omega

/-- February is the last month of a year from March on, and the day after its 28th is one of a year
whose number is a multiple of four, and of 400 if it is one of 100. -/
theorem isValid_ofMarch {cycle year month day : Int} (hm0 : 0 ≤ month) (hm11 : month ≤ 11)
    (hday : 1 ≤ day) (hend : day ≤ daysBeforeMonth (month + 1) - daysBeforeMonth month)
    (hlong : month = 11 → day ≤ 28 ∨ (day = 29 ∧ year % 4 = 3 ∧ (year % 100 = 99 → year = 399))) :
    (ofMarch cycle year month day).isValid = true := by
  unfold ofMarch isValid
  unfold daysBeforeMonth at hend
  dsimp only
  by_cases hfebruary : month = 11
  · subst hfebruary
    rcases hlong rfl with hshort | ⟨rfl, hfour, hcentury⟩
    · simp only [daysInMonth]
      split <;> simp <;> omega
    · have hleap : isLeap (year + cycle * 400 + 1) = true := by
        simp only [isLeap, Bool.and_eq_true, Bool.or_eq_true, beq_iff_eq, bne_iff_ne]
        omega
      simp [daysInMonth, hleap]
  · interval_cases month <;> simp [daysInMonth] <;> omega

/-- **Every number is that of a date.** -/
theorem isValid_ofDays (days : Int) : (ofDays days).isValid = true := by
  have h0 : 0 ≤ (days + epoch) % 146097 := Int.emod_nonneg _ (by decide)
  have h1 : (days + epoch) % 146097 < 146097 := Int.emod_lt_of_pos _ (by decide)
  obtain ⟨hfrom, hto, hleap⟩ := yearOfCycle_spec h0 h1
  obtain ⟨hm0, hm11, hday, hend⟩ := monthFromMarch_spec (Int.sub_nonneg_of_le hfrom)
    (Int.sub_left_le_of_le_add hto)
  rw [ofDays_eq_ofMarch]
  refine isValid_ofMarch hm0 hm11 (by omega) (by omega) fun hm => ?_
  rw [hm]
  have hbefore : daysBeforeMonth 11 = 337 := by decide
  by_cases hlast : (days + epoch) % 146097
      = daysBefore (yearOfCycle ((days + epoch) % 146097)) + 365
  · exact Or.inr ⟨by omega, hleap hlast⟩
  · exact Or.inl (by omega)

end ActivityFeed.Date
