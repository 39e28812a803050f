import ActivityFeed.Proofs.Instant.DateOrder
import ActivityFeed.Proofs.Instant.Text
import ActivityFeed.Proofs.Json.Tokens
import Mathlib.Data.Char
import Mathlib.Data.List.Forall2

/-!
# Timestamps of full width sort as their instants

A cursor has all its fields in their full widths, the longest time first, so that texts of cursors
compare as the lists of their numbers do (`fieldsText_le`), and these as the instants (`fields_le`).
The first holds because of two numbers in one width the smaller one has the smaller digit where
they first differ (`padded_lt_padded`). The second is where the calendar comes in: a later day has a
later date, and within a day the clock runs on, a second of sixty between the 59th one and the next
minute.

Main result: `cursor_le_cursor`, for the octets in which cursors are sent.
-/

namespace ActivityFeed.Instant

-- Octets are compared in the order of the core library, whatever else is in scope.
attribute [scoped instance (2000)] List.instLE

open Text.Utf8 (encode)

/-! ## Numbers in one width -/

/-- What is more before equally many further digits stays more. -/
theorem ofDigitChars_lt_of_lt {x y : List Char} (hx : ∀ c ∈ x, c.isDigit = true)
    (hlength : x.length = y.length) {a b : Nat} (h : a < b) :
    Nat.ofDigitChars 10 x a < Nat.ofDigitChars 10 y b := by
  induction x generalizing y a b with
  | nil =>
    rw [List.length_nil] at hlength
    rw [List.eq_nil_of_length_eq_zero hlength.symm]
    exact h
  | cons c x ih =>
    cases y with
    | nil => cases hlength
    | cons d y =>
      obtain ⟨hc, hx⟩ := List.forall_mem_cons.mp hx
      have hnine : c.toNat ≤ 57 := (Char.isDigit_iff_toNat.mp hc).2
      rw [Nat.ofDigitChars_cons, Nat.ofDigitChars_cons]
      refine ih hx (Nat.succ.inj hlength) ?_
      show 10 * a + (c.toNat - 48) < 10 * b + (d.toNat - 48)
      omega

/-- Of equally many digits, those that come first in the dictionary spell the smaller number. -/
theorem ofDigitChars_lt_of_lex {x y : List Char} (hx : ∀ c ∈ x, c.isDigit = true)
    (hlength : x.length = y.length) (h : x < y) (a : Nat) :
    Nat.ofDigitChars 10 x a < Nat.ofDigitChars 10 y a := by
  induction x generalizing y a with
  | nil =>
    rw [List.length_nil] at hlength
    rw [List.eq_nil_of_length_eq_zero hlength.symm] at h
    exact absurd h (List.not_lt_nil _)
  | cons c x ih =>
    cases y with
    | nil => cases hlength
    | cons d y =>
      obtain ⟨hc, hx⟩ := List.forall_mem_cons.mp hx
      rw [Nat.ofDigitChars_cons, Nat.ofDigitChars_cons]
      rcases List.cons_lt_cons_iff.mp h with hless | ⟨rfl, hlater⟩
      · have hzero : 48 ≤ c.toNat := (Char.isDigit_iff_toNat.mp hc).1
        have hcd : c.toNat < d.toNat := hless
        refine ofDigitChars_lt_of_lt hx (Nat.succ.inj hlength) ?_
        show 10 * a + (c.toNat - 48) < 10 * a + (d.toNat - 48)
        omega
      · exact ih hx (Nat.succ.inj hlength) hlater _

/-- **In one width the smaller number comes first.** -/
theorem padded_lt_padded {width n m : Nat} (hwidth : 0 < width) (hm : m < 10 ^ width)
    (h : n < m) : Text.padded width n < Text.padded width m := by
  have hlength : (Text.padded width n).length = (Text.padded width m).length :=
    (length_padded hwidth (Nat.lt_trans h hm)).trans (length_padded hwidth hm).symm
  refine List.not_le.mp fun hle => ?_
  rcases List.le_iff_lt_or_eq.mp hle with hmore | hsame
  · have hvalue := ofDigitChars_lt_of_lex isDigit_of_mem_padded hlength.symm hmore 0
    rw [ofDigitChars_padded, ofDigitChars_padded] at hvalue
    omega
  · have hvalue := congrArg (Nat.ofDigitChars 10 · 0) hsame
    simp only [ofDigitChars_padded] at hvalue
    omega

/-! ## Texts of numbers in full widths -/

/-- Numbers in their widths, each with what stands behind it. -/
def fieldsText : List (Nat × Char) → List Nat → List Char
  | (width, separator) :: shape, n :: ns =>
    Text.padded width n ++ separator :: fieldsText shape ns
  | _, _ => []

/-- A number fits the width that it is to have. -/
def Fits (field : Nat × Char) (n : Nat) : Prop :=
  0 < field.1 ∧ n < 10 ^ field.1

theorem append_lt_append_of_lt {x y : List Char} (hlength : x.length = y.length) (h : x < y)
    (x' y' : List Char) : x ++ x' < y ++ y' := by
  induction x generalizing y with
  | nil =>
    rw [List.length_nil] at hlength
    rw [List.eq_nil_of_length_eq_zero hlength.symm] at h
    exact absurd h (List.not_lt_nil _)
  | cons c x ih =>
    cases y with
    | nil => cases hlength
    | cons d y =>
      rw [List.cons_append, List.cons_append, List.cons_lt_cons_iff]
      exact (List.cons_lt_cons_iff.mp h).imp_right fun ⟨hsame, hlater⟩ =>
        ⟨hsame, ih (Nat.succ.inj hlength) hlater⟩

/-- **Texts in full widths compare as their numbers**, the first of them first. -/
theorem fieldsText_le {shape : List (Nat × Char)} {ns ms : List Nat}
    (hns : List.Forall₂ Fits shape ns) (hms : List.Forall₂ Fits shape ms) (h : ns ≤ ms) :
    fieldsText shape ns ≤ fieldsText shape ms := by
  induction hns generalizing ms with
  | nil => exact List.nil_le _
  | @cons field n shape ns hn _ ih =>
    cases hms with
    | @cons _ m _ ms hm hms =>
      rw [fieldsText, fieldsText]
      rcases List.cons_le_cons_iff.mp h with hless | ⟨rfl, hlater⟩
      · refine List.le_of_lt (append_lt_append_of_lt ?_ (padded_lt_padded hm.1 hm.2 hless) _ _)
        rw [length_padded hn.1 hn.2, length_padded hm.1 hm.2]
      · exact List.append_left_le (List.cons_le_cons_iff.mpr (Or.inr ⟨rfl, ih hms hlater⟩))

/-! ## The fields of a cursor -/

/-- What a cursor shows, the longest time first. -/
def Civil.fields (c : Civil) : List Nat :=
  [c.date.year.toNat, c.date.month, c.date.day, c.hour, c.minute, c.second, c.nanos / 1000]

/-- The widths of a cursor's fields, and what stands behind each of them. -/
def cursorShape : List (Nat × Char) :=
  [(4, '-'), (2, '-'), (2, 'T'), (2, ':'), (2, ':'), (2, '.'), (6, 'Z')]

variable {t u : Instant}

theorem cursor_eq (h : t.IsDated) :
    t.cursor = String.ofList (fieldsText cursorShape t.civil.fields) := by
  rw [cursor, dateText, clockText, yearText_eq_padded h.year]
  simp [fieldsText, cursorShape, Civil.fields]

theorem fits_fields (h : t.IsDated) : List.Forall₂ Fits cursorShape t.civil.fields := by
  obtain ⟨hdate, -, hhour, hminute, hsecond, hnanos⟩ := Civil.isValid_iff.mp (isValid_civil h)
  obtain ⟨-, hyear⟩ := h.year
  simp only [Date.isValid, Bool.and_eq_true, decide_eq_true_eq] at hdate
  have hday : t.civil.date.day ≤ 31 := Nat.le_trans hdate.2 (daysInMonth_le _ _)
  simp only [cursorShape, Civil.fields, List.forall₂_cons, List.forall₂_nil_left_iff, Fits,
    Nat.reducePow, and_true]
  omega

/-- Within a day the clock runs on, be it from a leap second. -/
theorem clock_lt {n m leap leap' : Nat} (h : n < m) (hleap : leap = 0 ∨ leap = 1 ∧ n % 60 = 59) :
    n / 3600 < m / 3600 ∨ n / 3600 = m / 3600
      ∧ (n / 60 % 60 < m / 60 % 60 ∨ n / 60 % 60 = m / 60 % 60
        ∧ n % 60 + leap < m % 60 + leap') := by
  omega

/-- **The fields of a later instant are not smaller.** -/
theorem fields_le (ht : t.IsDated) (h : t ≤ u) : t.civil.fields ≤ u.civil.fields := by
  have hseconds := le_iff.mp h
  have hday : t.seconds / secondsPerDay ≤ u.seconds / secondsPerDay := by
    unfold secondsPerDay
    omega
  simp only [Civil.fields, List.cons_le_cons_iff, List.nil_le, and_true]
  rcases Int.lt_or_eq_of_le hday with hearlier | hsame
  · have hdate : t.civil.date.Before u.civil.date := Date.before_ofDays hearlier
    have hyear := ht.year
    unfold Date.Before at hdate
    unfold hasFourDigits at hyear
    omega
  · have hdate : t.civil.date = u.civil.date := congrArg Date.ofDays hsame
    have hshown := ht.shown
    refine Or.inr ⟨by rw [hdate], Or.inr ⟨by rw [hdate], Or.inr ⟨by rw [hdate], ?_⟩⟩⟩
    unfold isShown nanosPerSecond at hshown
    unfold secondsPerDay at hsame
    unfold civil secondsPerDay nanosPerSecond
    dsimp only
    rcases hseconds with hless | ⟨heq, hnanos⟩
    · have hofDay : (t.seconds % 86400).toNat < (u.seconds % 86400).toNat := by omega
      have hclock := @clock_lt _ _ (if 1000000000 ≤ t.nanos then 1 else 0)
        (if 1000000000 ≤ u.nanos then 1 else 0) hofDay (by split <;> omega)
      exact hclock.imp_right (And.imp_right (Or.imp_right (And.imp_right Or.inl)))
    · rw [heq]
      refine Or.inr ⟨rfl, Or.inr ⟨rfl, ?_⟩⟩
      split <;> split <;> omega

/-! ## The octets of a cursor -/

/-- ASCII text has the order of its octets. -/
theorem encode_le_encode {x y : List Char} (hx : ∀ c ∈ x, c.toNat < 0x80)
    (hy : ∀ c ∈ y, c.toNat < 0x80) (h : x ≤ y) : encode x ≤ encode y := by
  induction x generalizing y with
  | nil => exact List.nil_le _
  | cons c x ih =>
    cases y with
    | nil => exact absurd h (List.not_le.mpr (List.nil_lt_cons c x))
    | cons d y =>
      obtain ⟨hc, hx⟩ := List.forall_mem_cons.mp hx
      obtain ⟨hd, hy⟩ := List.forall_mem_cons.mp hy
      rw [Json.encode_ascii_cons hc, Json.encode_ascii_cons hd, List.cons_le_cons_iff]
      refine (List.cons_le_cons_iff.mp h).imp (fun hless => ?_) fun ⟨hsame, hlater⟩ =>
        ⟨congrArg Json.octet hsame, ih hx hy hlater⟩
      have hcd : c.toNat < d.toNat := hless
      rw [UInt8.lt_iff_toNat_lt, Json.octet, Json.octet, Text.Utf8.toNat_ofNat (by omega),
        Text.Utf8.toNat_ofNat (by omega)]
      exact hcd

/-- The text of numbers has digits, and what stands behind the numbers. -/
theorem mem_fieldsText {shape : List (Nat × Char)} {ns : List Nat} {c : Char}
    (h : c ∈ fieldsText shape ns) : c.isDigit = true ∨ c ∈ shape.map Prod.snd := by
  induction shape generalizing ns with
  | nil => simp [fieldsText] at h
  | cons field shape ih =>
    cases ns with
    | nil => simp [fieldsText] at h
    | cons n ns =>
      simp only [fieldsText, List.mem_append, List.mem_cons] at h
      simp only [List.map_cons, List.mem_cons]
      rcases h with hdigit | hseparator | hlater
      · exact Or.inl (isDigit_of_mem_padded c hdigit)
      · exact Or.inr (Or.inl hseparator)
      · exact (ih hlater).imp_right Or.inr

theorem ascii_fieldsText {ns : List Nat} : ∀ c ∈ fieldsText cursorShape ns, c.toNat < 0x80 := by
  intro c hc
  rcases mem_fieldsText hc with hdigit | hseparator
  · exact Nat.lt_of_le_of_lt (Char.isDigit_iff_toNat.mp hdigit).2 (by decide)
  · have hall : (cursorShape.map Prod.snd).all (fun c => decide (c.toNat < 0x80)) = true := by
      decide
    exact of_decide_eq_true (List.all_eq_true.mp hall c hseparator)

/-- **Cursors sort as their instants**, octet by octet. -/
theorem cursor_le_cursor (ht : t.IsDated) (hu : u.IsDated) (h : t ≤ u) :
    Text.Utf8.ofString t.cursor ≤ Text.Utf8.ofString u.cursor := by
  rw [cursor_eq ht, cursor_eq hu, Text.Utf8.ofString_ofList, Text.Utf8.ofString_ofList]
  exact encode_le_encode ascii_fieldsText ascii_fieldsText
    (fieldsText_le (fits_fields ht) (fits_fields hu) (fields_le ht h))

end ActivityFeed.Instant
