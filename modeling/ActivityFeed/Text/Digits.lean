/-!
# Decimal digits

Reading natural numbers from text, with ASCII digits only and under an inclusive upper bound, and
writing them in a fixed width.
-/

namespace ActivityFeed

-- A power of natural numbers is the one of the core library, whatever else is in scope.
attribute [scoped instance (2000)] instPowNat

namespace Text

/-- The largest number of 64 bits. -/
def maxWord : Nat := 18446744073709551615

/-- The value of an ASCII digit. -/
def digit? (c : Char) : Option Nat :=
  if '0' ≤ c && c ≤ '9' then some (c.toNat - '0'.toNat) else none

/-- The value of a digit of base sixteen, in capital or small letters. -/
def hexDigit? (c : Char) : Option Nat :=
  if '0' ≤ c && c ≤ '9' then some (c.toNat - '0'.toNat)
  else if 'a' ≤ c && c ≤ 'f' then some (c.toNat - 'a'.toNat + 10)
  else if 'A' ≤ c && c ≤ 'F' then some (c.toNat - 'A'.toNat + 10)
  else none

/-- The value of a digit of a base up to sixteen. -/
def digitIn? (base : Nat) (c : Char) : Option Nat :=
  (hexDigit? c).filter (· < base)

/-- The number that digits of a base spell after those of `n`; fails at anything that is none. -/
def numeral? (base n : Nat) : List Char → Option Nat
  | [] => some n
  | c :: cs => (digitIn? base c).bind fun d => numeral? base (n * base + d) cs

/-- The number that decimal digits spell after those of `n`; fails at anything that is no digit. -/
def number? : Nat → List Char → Option Nat :=
  numeral? 10

/-- A number of 64 bits: digits, at least one, with at most one `+` before them. -/
def word? (cs : List Char) : Option Nat :=
  let digits := match cs with
    | '+' :: rest => rest
    | _ => cs
  match digits with
  | [] => none
  | _ => (number? 0 digits).filter (· ≤ maxWord)

/-- The digits of a number. -/
def decimal (n : Nat) : List Char :=
  Nat.toDigits 10 n

/-- The digits of a number, zeros before them up to `width` places. -/
def padded (width n : Nat) : List Char :=
  let digits := decimal n
  List.replicate (width - digits.length) '0' ++ digits

theorem digitIn?_of_isDigit {c : Char} (h : c.isDigit = true) :
    digitIn? 10 c = some (c.toNat - '0'.toNat) := by
  have hvalue : hexDigit? c = some (c.toNat - '0'.toNat) := by
    unfold Char.isDigit at h
    unfold hexDigit?
    exact if_pos h
  have hsmall : c.toNat - '0'.toNat < 10 := by
    have hnine : c.toNat ≤ 57 := (Char.isDigit_iff_toNat.mp h).2
    show c.toNat - 48 < 10
    omega
  rw [digitIn?, hvalue, Option.filter_some, if_pos (decide_eq_true hsmall)]

/-- Digits spell the number of which they are the digits. -/
theorem number?_of_digits {cs : List Char} (h : ∀ c ∈ cs, c.isDigit = true) (n : Nat) :
    number? n cs = some (Nat.ofDigitChars 10 cs n) := by
  induction cs generalizing n with
  | nil => rfl
  | cons c cs ih =>
    rw [List.forall_mem_cons] at h
    have hrest := ih h.2 (n * 10 + (c.toNat - '0'.toNat))
    rw [number?] at hrest ⊢
    rw [numeral?, digitIn?_of_isDigit h.1, Option.bind_some, hrest, Nat.ofDigitChars_cons,
      Nat.mul_comm n 10]

theorem isDigit_of_mem_decimal {n : Nat} {c : Char} (h : c ∈ decimal n) : c.isDigit = true :=
  Nat.isDigit_of_mem_toDigits (by decide) (by decide) h

/-- A number is read back from its digits. -/
theorem word?_decimal {n : Nat} (h : n ≤ maxWord) : word? (decimal n) = some n := by
  have hdigits : ∀ c ∈ decimal n, c.isDigit = true := fun _ hc => isDigit_of_mem_decimal hc
  have hnumber : number? 0 (decimal n) = some n := by
    rw [number?_of_digits hdigits, decimal, Nat.ofDigitChars_toDigits (by decide) (by decide)]
  rw [word?]
  · rw [hnumber, Option.filter_some, if_pos (decide_eq_true h)]
  · intro rest hplus
    exact absurd (hdigits '+' (hplus ▸ List.mem_cons_self ..)) (by decide)
  · intro hnil
    exact Nat.toDigits_ne_nil hnil

end Text

end ActivityFeed
