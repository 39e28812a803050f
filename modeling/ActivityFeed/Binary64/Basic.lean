import ActivityFeed.Text.Digits

/-!
# Binary floating point of 64 bits

Growth factors of retry delays and the fractional numbers of JSON are numbers of 64 bits with a
mantissa of 53 bits. Here they are exact: a finite number is `± m · 2 ^ e`, and each operation
computes the true result as a ratio of natural numbers and rounds it once, to the nearest number of
the format, a tie to the even mantissa.
-/

namespace ActivityFeed

/-- A binary floating-point number of 64 bits. All not-a-numbers are one. -/
inductive Binary64 where
  /-- The result of an operation without a value. -/
  | nan
  /-- Larger in size than every finite number. -/
  | infinite (negative : Bool)
  /-- `± mantissa · 2 ^ exponent`, in the form that `IsCanonical` describes. -/
  | finite (negative : Bool) (mantissa : Nat) (exponent : Int)
deriving DecidableEq, Repr, Inhabited

namespace Binary64

/-- The exponent of the smallest positive number. -/
def minExponent : Int := -1074

/-- The exponent of the largest finite number. -/
def maxExponent : Int := 971

/-- Each number has one form, in which every operation gives its result: the mantissa has 53 bits,
unless the exponent is the least one. -/
def IsCanonical : Binary64 → Prop
  | .finite _ m e =>
    m < 2 ^ (53 : Nat) ∧ minExponent ≤ e ∧ e ≤ maxExponent ∧ (2 ^ (52 : Nat) ≤ m ∨ e = minExponent)
  | _ => True

/-- Zero with a sign. -/
def zero (negative : Bool) : Binary64 :=
  .finite negative 0 minExponent

/-- The quotient rounded to the nearest whole number, a tie to the even one. -/
def roundDiv (num den : Nat) : Nat :=
  let q := num / den
  let r := num % den
  if 2 * r < den then q
  else if den < 2 * r then q + 1
  else q + q % 2

/-- The largest `k` with `2 ^ k ≤ num / den`, for positive `num` and `den`. -/
def floorLog (num den : Nat) : Int :=
  let k : Int := (Nat.log2 num : Int) - (Nat.log2 den : Int)
  if den * 2 ^ k.toNat ≤ num * 2 ^ (-k).toNat then k else k - 1

/-- The number nearest to `± num / den`. -/
def ofRatio (negative : Bool) (num den : Nat) : Binary64 :=
  if num = 0 then zero negative
  else
    let e := max (floorLog num den - 52) minExponent
    let m := roundDiv (num * 2 ^ (-e).toNat) (den * 2 ^ e.toNat)
    let (m, e) := if m = 2 ^ (53 : Nat) then (2 ^ (52 : Nat), e + 1) else (m, e)
    if maxExponent < e then .infinite negative else .finite negative m e

/-- The number nearest to a natural number. -/
def ofNat (n : Nat) : Binary64 :=
  ofRatio false n 1

/-- The number nearest to `± m · 2 ^ e`. -/
def ofScaled (negative : Bool) (m : Nat) (e : Int) : Binary64 :=
  ofRatio negative (m * 2 ^ e.toNat) (2 ^ (-e).toNat)

/-- The number with the other sign. -/
def neg : Binary64 → Binary64
  | .nan => .nan
  | .infinite s => .infinite (!s)
  | .finite s m e => .finite (!s) m e

/-- The product. -/
def mul : Binary64 → Binary64 → Binary64
  | .nan, _ => .nan
  | _, .nan => .nan
  | .infinite s, .infinite t => .infinite (s != t)
  | .infinite s, .finite t m _ => if m = 0 then .nan else .infinite (s != t)
  | .finite s m _, .infinite t => if m = 0 then .nan else .infinite (s != t)
  | .finite s m e, .finite t n f => ofScaled (s != t) (m * n) (e + f)

/-- The quotient. -/
def div : Binary64 → Binary64 → Binary64
  | .nan, _ => .nan
  | _, .nan => .nan
  | .infinite _, .infinite _ => .nan
  | .infinite s, .finite t _ _ => .infinite (s != t)
  | .finite s _ _, .infinite t => zero (s != t)
  | .finite s m e, .finite t n f =>
    if n = 0 then if m = 0 then .nan else .infinite (s != t)
    else
      let k := e - f
      ofRatio (s != t) (m * 2 ^ k.toNat) (n * 2 ^ (-k).toNat)

/-- `r · a ^ n` by repeated squaring, for a positive `n`; `r` itself for zero. -/
def mulPow (r a : Binary64) (n : Nat) : Binary64 :=
  let r' := if n % 2 = 1 then mul r a else r
  if h : n / 2 = 0 then r' else mulPow r' (mul a a) (n / 2)
termination_by n
decreasing_by omega

/-- The power `a ^ n` by repeated squaring. -/
def pow (a : Binary64) (n : Nat) : Binary64 :=
  mulPow (ofNat 1) a n

/-- The signed mantissa of `± m · 2 ^ e` when the exponent is brought down to `low`. -/
def signedAt (low : Int) (negative : Bool) (m : Nat) (e : Int) : Int :=
  let scaled : Int := (m * 2 ^ (e - low).toNat : Nat)
  if negative then -scaled else scaled

/-- Whether one number is at most another one; a not-a-number compares with nothing. -/
def le : Binary64 → Binary64 → Bool
  | .nan, _ => false
  | _, .nan => false
  | .infinite s, .infinite t => s || !t
  | .infinite s, .finite .. => s
  | .finite .., .infinite t => !t
  | .finite s m e, .finite t n f => signedAt (min e f) s m e ≤ signedAt (min e f) t n f

/-- Whether one number is less than another one. -/
def lt (a b : Binary64) : Bool :=
  le a b && !le b a

/-- Whether the number is neither infinite nor a not-a-number. -/
def isFinite : Binary64 → Bool
  | .finite .. => true
  | _ => false

/-- The smaller of two numbers; a not-a-number counts as missing. -/
def min (a b : Binary64) : Binary64 :=
  match a, b with
  | .nan, b => b
  | a, .nan => a
  | a, b => if lt b a then b else a

/-- The nearest natural number up to `bound`, a half upwards; negative numbers and
not-a-numbers give zero. -/
def toNatUpTo (bound : Nat) : Binary64 → Nat
  | .nan => 0
  | .infinite negative => if negative then 0 else bound
  | .finite negative m e =>
    if negative then 0
    else if 0 ≤ e then Nat.min (m * 2 ^ e.toNat) bound
    else Nat.min ((m + 2 ^ ((-e).toNat - 1)) / 2 ^ (-e).toNat) bound

/-- `f · 10 ^ k` in one rounded multiplication or division, where `10 ^ |k|` is in range, and after
rounded divisions by `10 ^ 308` where `k` is smaller; nothing if the result is too large. -/
def scaleTen? (f : Binary64) (k : Int) : Option Binary64 :=
  if k.natAbs ≤ 308 then
    if 0 ≤ k then
      let r := mul f (ofNat (10 ^ k.toNat))
      if r.isFinite then some r else none
    else some (div f (ofNat (10 ^ (-k).toNat)))
  else if f = zero false then some f
  else if 0 ≤ k then none
  else scaleTen? (div f (ofNat (10 ^ (308 : Nat)))) (k + 308)
termination_by (-k).toNat
decreasing_by omega

end Binary64

end ActivityFeed
