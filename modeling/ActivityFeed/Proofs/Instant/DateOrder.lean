import ActivityFeed.Proofs.Instant.Calendar
import Mathlib.Order.Monotone.Basic

/-!
# Later days have later dates

The numbering of days and the order of dates agree. A date is its month and its day in the month,
and months follow each other without gaps: `monthStart` is the number of the day before the first
one of a month, and the month after it begins behind its last day, be it a February of 28 or of 29
days (`monthStart_succ`). So a date of an earlier month has a smaller number, whatever its day
(`toDays_lt_of_before`), and two numbers cannot have dates in the other order.

Main result: `before_ofDays`.
-/

namespace ActivityFeed.Date

/-- One date stands before another one in the calendar. -/
def Before (a b : Date) : Prop :=
  a.year < b.year
    ∨ a.year = b.year ∧ (a.month < b.month ∨ a.month = b.month ∧ a.day < b.day)

/-- The number of the day before the first one of a month. Months are counted through from the
January of year zero, which has the number one. -/
def monthStart (i : Int) : Int :=
  let year := (i - 3) / 12
  365 * year + year / 4 - year / 100 + year / 400 + daysBeforeMonth ((i - 3) % 12) - 1 - epoch

/-- The number of a month when months are counted through. -/
def monthIndex (d : Date) : Int :=
  12 * d.year + d.month

theorem toDays_eq {d : Date} (h1 : 1 ≤ d.month) (h12 : d.month ≤ 12) :
    d.toDays = monthStart d.monthIndex + d.day := by
  unfold toDays monthStart monthIndex daysBeforeMonth epoch
  dsimp only
  by_cases hm : d.month ≤ 2
  · have hyear : (12 * d.year + d.month - 3) / 12 = d.year - 1 := by omega
    have hmonth : (12 * d.year + (d.month : Int) - 3) % 12 = ((d.month + 9) % 12 : Nat) := by omega
    rw [if_pos hm, hyear, hmonth]
    omega
  · have hyear : (12 * d.year + d.month - 3) / 12 = d.year := by omega
    have hmonth : (12 * d.year + (d.month : Int) - 3) % 12 = ((d.month + 9) % 12 : Nat) := by omega
    rw [if_neg hm, hyear, hmonth]
    omega

theorem isLeap_iff {year : Int} :
    isLeap year = true ↔ year % 4 = 0 ∧ (year % 100 ≠ 0 ∨ year % 400 = 0) := by
  simp [isLeap]

/-- **Months follow each other without gaps.** -/
theorem monthStart_succ {d : Date} (h1 : 1 ≤ d.month) (h12 : d.month ≤ 12) :
    monthStart (d.monthIndex + 1) = monthStart d.monthIndex + daysInMonth d.year d.month := by
  obtain ⟨year, month, day⟩ := d
  unfold monthStart monthIndex daysBeforeMonth
  dsimp only at h1 h12 ⊢
  interval_cases month <;> simp only [daysInMonth]
  case «2» =>
    -- the day that a leap year has more is the last one before March
    split
    next hleap =>
      have hleap := isLeap_iff.mp hleap
      omega
    next hcommon =>
      have hcommon := mt isLeap_iff.mpr hcommon
      omega
  all_goals omega

theorem monthStart_lt_succ (i : Int) : monthStart i < monthStart (i + 1) := by
  unfold monthStart daysBeforeMonth
  dsimp only
  omega

theorem monthStart_mono {i j : Int} (h : i ≤ j) : monthStart i ≤ monthStart j :=
  monotone_int_of_le_succ (fun i => Int.le_of_lt (monthStart_lt_succ i)) h

/-- **An earlier date has a smaller number.** -/
theorem toDays_lt_of_before {a b : Date} (ha : a.isValid = true) (hb : b.isValid = true)
    (h : a.Before b) : a.toDays < b.toDays := by
  simp only [isValid, Bool.and_eq_true, decide_eq_true_eq] at ha hb
  obtain ⟨⟨⟨ha1, ha12⟩, -⟩, haday⟩ := ha
  obtain ⟨⟨⟨hb1, hb12⟩, hbday⟩, -⟩ := hb
  rw [toDays_eq ha1 ha12, toDays_eq hb1 hb12]
  have hmonths : a.monthIndex < b.monthIndex ∨ a.monthIndex = b.monthIndex ∧ a.day < b.day := by
    unfold Before at h
    unfold monthIndex
    omega
  rcases hmonths with hlater | ⟨hsame, hday⟩
  · have hnext : monthStart (a.monthIndex + 1) ≤ monthStart b.monthIndex :=
      monthStart_mono hlater
    rw [monthStart_succ ha1 ha12] at hnext
    omega
  · rw [hsame]
    omega

theorem before_trichotomy (a b : Date) : a.Before b ∨ a = b ∨ b.Before a := by
  obtain ⟨year, month, day⟩ := a
  obtain ⟨year', month', day'⟩ := b
  simp only [Before, mk.injEq]
  omega

/-- **Later days have later dates.** -/
theorem before_ofDays {m n : Int} (h : m < n) : (ofDays m).Before (ofDays n) := by
  rcases before_trichotomy (ofDays m) (ofDays n) with hbefore | hsame | hafter
  · exact hbefore
  · have hdays := congrArg toDays hsame
    rw [toDays_ofDays, toDays_ofDays] at hdays
    omega
  · have hdays := toDays_lt_of_before (isValid_ofDays n) (isValid_ofDays m) hafter
    rw [toDays_ofDays, toDays_ofDays] at hdays
    omega

/-- **A date is that of its number.** -/
theorem ofDays_toDays {d : Date} (h : d.isValid = true) : ofDays d.toDays = d := by
  rcases before_trichotomy (ofDays d.toDays) d with hbefore | hsame | hafter
  · have hdays := toDays_lt_of_before (isValid_ofDays _) h hbefore
    rw [toDays_ofDays] at hdays
    omega
  · exact hsame
  · have hdays := toDays_lt_of_before h (isValid_ofDays _) hafter
    rw [toDays_ofDays] at hdays
    omega

end ActivityFeed.Date
