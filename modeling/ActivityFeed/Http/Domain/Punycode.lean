/-!
# Labels in letters and digits

A label with other characters than those of ASCII is sent in letters, digits and hyphens: first its
characters of ASCII as they are and a hyphen, then one number for each further character, in
increasing order of the characters, that tells how far it and its place are from those of the
character before it. Numbers are written in base 36, lowest digit first; a digit below a threshold
is the last one, and the thresholds are adapted to the numbers written so far.
-/

namespace ActivityFeed.Http.Domain.Punycode

/-! ## Digits -/

/-- The character of a digit in base 36. -/
def digit (n : Nat) : Char :=
  if n < 26 then Char.ofNat ('a'.toNat + n) else Char.ofNat ('0'.toNat + (n - 26))

/-- The digit that a character is. -/
def digit? (c : Char) : Option Nat :=
  if 'a' ≤ c && c ≤ 'z' then some (c.toNat - 'a'.toNat)
  else if 'A' ≤ c && c ≤ 'Z' then some (c.toNat - 'A'.toNat)
  else if '0' ≤ c && c ≤ '9' then some (c.toNat - '0'.toNat + 26)
  else none

/-- The threshold of the digit at a place, counted in steps of 36 from 36. -/
def threshold (bias place : Nat) : Nat :=
  if place ≤ bias then 1 else if bias + 26 ≤ place then 26 else place - bias

theorem threshold_pos (bias place : Nat) : 0 < threshold bias place := by
  unfold threshold
  split
  · omega
  · split <;> omega

/-- The bias for a number of about a size: `place` is as far behind the first place as the number is
long. -/
def biasOf (place size : Nat) : Nat :=
  if 455 < size then biasOf (place + 36) (size / 35) else place + 36 * size / (size + 38)
termination_by size
decreasing_by omega

/-- The bias after a number, when there are `count` characters. -/
def adapt (number count : Nat) (isFirst : Bool) : Nat :=
  let size := if isFirst then number / 700 else number / 2
  biasOf 0 (size + size / count)

/-- The bias for the first number. -/
def initialBias : Nat := 72

/-- The first number that is no character of ASCII. -/
def initialCharacter : Nat := 128

/-! ## Writing -/

/-- The digits of a number from a place on. -/
def digits (bias place n : Nat) : List Char :=
  let t := threshold bias place
  if n < t then [digit n]
  else digit (t + (n - t) % (36 - t)) :: digits bias (place + 36) ((n - t) / (36 - t))
termination_by n
decreasing_by
  have := threshold_pos bias place
  calc (n - threshold bias place) / (36 - threshold bias place)
      ≤ n - threshold bias place := Nat.div_le_self _ _
    _ < n := by omega

/-- What has been written. -/
structure Writing where
  /-- The characters so far, latest first. -/
  written : List Char
  /-- How far the next one is from the last one. -/
  number : Nat
  bias : Nat
  /-- How many characters of the label have been written. -/
  count : Nat
deriving DecidableEq, Repr, Inhabited

/-- Passes one character of the label while all characters `n` are written. -/
def pass (basic n : Nat) (w : Writing) (c : Char) : Writing :=
  if c.toNat < n then { w with number := w.number + 1 }
  else if c.toNat = n then
    { written := (digits w.bias 36 w.number).reverse ++ w.written
      number := 0
      bias := adapt w.number (w.count + 1) (w.count == basic)
      count := w.count + 1 }
  else w

/-- Writes the characters `ns` of a label, all larger than `last`, in increasing order. -/
def writeAll (label : List Char) (basic last : Nat) (w : Writing) : List Nat → Writing
  | [] => w
  | n :: ns =>
    let w := { w with number := w.number + (n - last) * (w.count + 1) }
    let w := label.foldl (pass basic n) w
    writeAll label basic (n + 1) { w with number := w.number + 1 } ns

/-- Whether a character is one of ASCII. -/
def isBasic (c : Char) : Bool := c.toNat < 128

/-- A label in letters, digits and hyphens. -/
def encode (label : List Char) : List Char :=
  let basic := label.filter isBasic
  let others := ((label.filter fun c => !isBasic c).map Char.toNat).eraseDups.mergeSort
  let w := writeAll label basic.length initialCharacter ⟨[], 0, initialBias, basic.length⟩ others
  basic ++ (if basic.isEmpty then [] else ['-']) ++ w.written.reverse

/-! ## Reading -/

/-- Reads a number from a place on, where a digit counts `weight`; gives it added to `sum`, and what
follows it. -/
def number? (bias place weight sum : Nat) : List Char → Option (Nat × List Char)
  | [] => none
  | c :: cs => do
    let d ← digit? c
    let t := threshold bias place
    if d < t then some (sum + d * weight, cs)
    else number? bias (place + 36) (weight * (36 - t)) (sum + d * weight) cs

/-- A number takes up at least one character. -/
theorem length_of_number? {bias place weight sum : Nat} {cs rest : List Char} {n : Nat}
    (h : number? bias place weight sum cs = some (n, rest)) : rest.length < cs.length := by
  induction cs generalizing place weight sum with
  | nil => simp [number?] at h
  | cons c cs ih =>
    simp only [number?, Option.bind_eq_bind, Option.bind_eq_some_iff] at h
    obtain ⟨d, -, h⟩ := h
    split at h
    · simp only [Option.some.injEq, Prod.mk.injEq] at h
      simp [← h.2]
    · have := ih h
      simp only [List.length_cons]
      omega

/-- Whether a number is that of a character. -/
def isCharacter (n : Nat) : Bool :=
  n < 0xD800 || (0xDFFF < n && n < 0x110000)

/-- Reads the characters that are not of ASCII into a label; `n` is the last one, and `index` the
place after it. -/
def readAll? (label : List Char) (n index bias : Nat) (cs : List Char) : Option (List Char) :=
  match h : number? bias 36 1 index cs with
  | none => if cs.isEmpty then some label else none
  | some (sum, rest) =>
    let count := label.length + 1
    let bias := adapt (sum - index) count (index == 0)
    let n := n + sum / count
    let place := sum % count
    if isCharacter n then
      readAll? (label.take place ++ Char.ofNat n :: label.drop place) n (place + 1) bias rest
    else none
termination_by cs.length
decreasing_by exact length_of_number? h

/-- What stands before the last hyphen of a text, and after it. -/
def splitAtLastHyphen (cs : List Char) : List Char × List Char :=
  let after := (cs.reverse.takeWhile (· ≠ '-')).reverse
  let before := cs.take (cs.length - after.length - 1)
  if before.isEmpty then ([], cs) else (before, after)

/-- The label that letters, digits and hyphens spell. -/
def decode? (cs : List Char) : Option (List Char) :=
  let (basic, rest) := splitAtLastHyphen cs
  readAll? basic initialCharacter 0 initialBias rest

end ActivityFeed.Http.Domain.Punycode
