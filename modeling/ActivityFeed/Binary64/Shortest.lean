import ActivityFeed.Binary64.Basic

/-!
# The fewest digits that read back

A finite number is written with the fewest significant digits that still round to it, and with the
nearest such digits where several do. All arithmetic is exact: the reals that round to `m · 2 ^ e`
form an interval around it, and for each digit count only the two grid points beside the number can
be the answer.
-/

namespace ActivityFeed.Binary64

/-- Significant digits and the place of the decimal point: the value is `0.digits · 10 ^ point`. -/
structure Decimal where
  digits : List Char
  point : Int
deriving DecidableEq, Repr, Inhabited

/-- Whether `d · a` lies in the interval between `low · b` and `high · b`, ends included iff
`closed`. -/
def liesWithin (closed : Bool) (low high a b d : Nat) : Bool :=
  if closed then low * b ≤ d * a && d * a ≤ high * b
  else low * b < d * a && d * a < high * b

/-- The `count`-digit number nearest to `m · 2 ^ e` among those that round to it. `point` is the
place of the decimal point of the number. -/
def digitsOfCount (m : Nat) (e point : Int) (count : Nat) : Option Nat :=
  let shift : Int := (count : Int) - point
  let unit : Int := e - 2
  let a := 2 ^ (-unit).toNat * 10 ^ (-shift).toNat
  let b := 2 ^ unit.toNat * 10 ^ shift.toNat
  let low := if m = 2 ^ (52 : Nat) ∧ minExponent < e then 4 * m - 1 else 4 * m - 2
  let below := 4 * m * b / a
  let fits := liesWithin (m % 2 == 0) low (4 * m + 2) a b
  let toBelow := 4 * m * b - below * a
  let toAbove := (below + 1) * a - 4 * m * b
  match fits below, fits (below + 1) with
  | true, true =>
    if toBelow < toAbove || (toBelow == toAbove && below % 2 == 0) then some below
    else some (below + 1)
  | true, false => some below
  | false, true => some (below + 1)
  | false, false => none

/-- The smallest `p` with `m · 2 ^ e < 10 ^ p`, for a positive `m`. -/
def decimalPoint (m : Nat) (e : Int) : Int :=
  let guess : Int := ((Nat.log2 m : Int) + e) * 30103 / 100000
  let isBelow (p : Int) : Bool :=
    m * 2 ^ e.toNat * 10 ^ (-p).toNat < 10 ^ p.toNat * 2 ^ (-e).toNat
  if isBelow guess then guess
  else if isBelow (guess + 1) then guess + 1
  else guess + 2

/-- A list of digits without the zeros at its end. -/
def dropTrailingZeros (digits : List Char) : List Char :=
  (digits.reverse.dropWhile (· == '0')).reverse

/-- The shortest decimal of `m · 2 ^ e`, for a positive `m` in canonical form. Seventeen digits
always suffice. -/
def shortest (m : Nat) (e : Int) : Decimal :=
  let point := decimalPoint m e
  let found := (List.range 17).findSome? fun i =>
    (digitsOfCount m e point (i + 1)).map fun d => (d, i + 1)
  match found with
  | some (d, count) =>
    let digits := Nat.toDigits 10 d
    ⟨dropTrailingZeros digits, point + ((digits.length : Int) - count)⟩
  | none => ⟨['0'], 1⟩

end ActivityFeed.Binary64
