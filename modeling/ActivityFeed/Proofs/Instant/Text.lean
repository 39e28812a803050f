import ActivityFeed.Proofs.Instant.Calendar
import ActivityFeed.Proofs.Instant.Fields
import ActivityFeed.Proofs.Instant.Order

/-!
# What the texts of an instant denote

A cursor is an instant in text with six decimal places, so a server that reads it knows the instant
to the microsecond only. `ofText?_cursor` says which instant it reads: the one whose cursor it is,
cut down. So a cursor never lies after the record that it was made from, and asking for everything
from it on asks for that record again (`cut_le`).

The timestamp of a record has as many decimal places as its nanoseconds need, in groups of three.
Unlike a cursor it loses nothing, so that it is read as the instant itself (`ofText?_text`), a leap
second included.

Instants that no clock shows, and years that take more or fewer than four digits, are left out:
`IsDated` says which instants are meant.
-/

namespace ActivityFeed.Instant

/-- Whether clocks can show an instant: a second of sixty is the last one of a minute. -/
def isShown (t : Instant) : Prop :=
  t.nanos < nanosPerSecond ∨ (t.nanos < 2 * nanosPerSecond ∧ t.seconds % 60 = 59)

/-- The instants of the years 0 to 9999. -/
structure IsDated (t : Instant) : Prop where
  shown : t.isShown
  year : hasFourDigits t.civil.date.year

/-- The instant without what comes after its microseconds. -/
def cut (t : Instant) : Instant :=
  { t with nanos := t.nanos / 1000 * 1000 }

theorem cut_le (t : Instant) : t.cut ≤ t :=
  le_iff.mpr (Or.inr ⟨rfl, Nat.div_mul_le_self _ _⟩)

/-- What clocks show is the instant again. -/
theorem toInstant_civil {t : Instant} (h : t.isShown) : t.civil.toInstant = t := by
  unfold isShown nanosPerSecond at h
  unfold civil Civil.toInstant nanosPerSecond secondsPerDay
  simp only [Date.toDays_ofDays]
  obtain ⟨n, hn⟩ : ∃ n : Nat, (t.seconds % 86400).toNat = n := ⟨_, rfl⟩
  have hsplit : 86400 * (t.seconds / 86400) + n = t.seconds := by omega
  rw [hn]
  by_cases hleap : 1000000000 ≤ t.nanos
  · have hlast : n % 60 = 59 := by omega
    simp only [hleap, if_true, hlast, Nat.reduceAdd]
    refine eq_of_parts ?_ ?_ <;> dsimp only <;> omega
  · have hless : ¬n % 60 + 0 = 60 := by omega
    simp only [hleap, if_false, hless]
    refine eq_of_parts ?_ rfl
    dsimp only
    omega

/-- Clocks and calendar show every instant of the years 0 to 9999. -/
theorem isValid_civil {t : Instant} (h : t.IsDated) : t.civil.isValid = true := by
  obtain ⟨hshown, h0, h9⟩ := h
  have hyear : Civil.hasYear t.civil.date.year = true := by
    simp only [Civil.hasYear, Bool.and_eq_true, decide_eq_true_eq]
    omega
  unfold isShown nanosPerSecond at hshown
  refine Civil.isValid_iff.mpr ⟨Date.isValid_ofDays _, hyear, ?_⟩
  unfold civil secondsPerDay nanosPerSecond
  by_cases hleap : 1000000000 ≤ t.nanos
  · simp only [hleap, if_true]
    omega
  · simp only [hleap, if_false]
    omega

/-- Cutting down changes nothing that clocks show but the nanoseconds. -/
theorem civil_cut (t : Instant) :
    t.cut.civil = { t.civil with nanos := t.civil.nanos / 1000 * 1000 } := by
  unfold civil cut nanosPerSecond
  by_cases hleap : 1000000000 ≤ t.nanos
  · have hcut : 1000000000 ≤ t.nanos / 1000 * 1000 := by omega
    have hnanos : t.nanos / 1000 * 1000 - 1000000000
        = (t.nanos - 1000000000) / 1000 * 1000 := by omega
    simp only [hleap, hcut, if_true, hnanos]
  · have hcut : ¬1000000000 ≤ t.nanos / 1000 * 1000 := by omega
    simp only [hleap, hcut, if_false]

theorem IsDated.cut {t : Instant} (h : t.IsDated) : t.cut.IsDated where
  shown := by
    have hshown := h.shown
    unfold isShown nanosPerSecond at hshown ⊢
    unfold Instant.cut
    dsimp only
    omega
  year := by
    rw [civil_cut]
    exact h.year

/-- **A cursor denotes its instant, cut down to microseconds.** -/
theorem ofText?_cursor {t : Instant} (h : t.IsDated) : ofText? t.cursor = some t.cut := by
  have hnanos : t.civil.nanos / 1000 < 10 ^ 6 := by
    obtain ⟨-, -, -, -, -, hbound⟩ := Civil.isValid_iff.mp (isValid_civil h)
    omega
  have hplaces : fraction ('.' :: Text.padded 6 (t.civil.nanos / 1000) ++ ['Z'])
      = some (t.cut.civil.nanos, ['Z']) := by
    rw [civil_cut]
    exact fraction_padded (by decide) (by decide) hnanos (by simp [Text.digit?])
  have hread := ofText?_civil (isValid_civil h.cut) h.cut.year hplaces
  rw [toInstant_civil h.cut.shown, civil_cut] at hread
  rw [← hread, cursor]
  congr 2

/-! ## Timestamps -/

/-- The decimal places that are left out are zeros. -/
theorem fraction_placesText {nanos : Nat} (h : nanos < nanosPerSecond) :
    fraction (placesText nanos ++ ['Z']) = some (nanos, ['Z']) := by
  have hend : ∀ c ∈ ['Z'].head?, Text.digit? c = none := by simp [Text.digit?]
  unfold nanosPerSecond at h
  unfold placesText
  split
  next hzero =>
    subst hzero
    rfl
  next =>
    split
    next hmillis =>
      rw [fraction_padded (by decide) (by decide) (by omega) hend]
      congr 2
      omega
    next =>
      split
      next hmicros =>
        rw [fraction_padded (by decide) (by decide) (by omega) hend]
        congr 2
        omega
      next =>
        rw [fraction_padded (by decide) (by decide) (by omega) hend]
        congr 2
        omega

/-- **The timestamp of a record is read as its instant.** -/
theorem ofText?_text {t : Instant} (h : t.IsDated) : ofText? t.text = some t := by
  obtain ⟨-, -, -, -, -, hnanos⟩ := Civil.isValid_iff.mp (isValid_civil h)
  have hread := ofText?_civil (isValid_civil h) h.year (fraction_placesText hnanos)
  rwa [toInstant_civil h.shown] at hread

end ActivityFeed.Instant
