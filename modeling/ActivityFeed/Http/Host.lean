import ActivityFeed.Http.Domain
import ActivityFeed.Http.Escape

/-!
# Hosts

The host of an address is a domain, an IPv4 address or, in brackets, an IPv6 address. What ends like
a number has to be an IPv4 address, whose parts may be written in base eight, ten or sixteen; hosts
are shown in one form however they were written.
-/

namespace ActivityFeed.Http.Host

/-! ## IPv4 -/

/-- The number that a part of an IPv4 address spells; a part without digits after its sign of base
is zero. -/
def number? : List Char → Option Nat
  | [] => none
  | '0' :: 'x' :: ds => Text.numeral? 16 0 ds
  | '0' :: 'X' :: ds => Text.numeral? 16 0 ds
  | ['0'] => some 0
  | '0' :: ds => Text.numeral? 8 0 ds
  | ds => Text.numeral? 10 0 ds

/-- The parts of a domain, without an empty one after a last point. -/
def labels (cs : List Char) : List (List Char) :=
  let ps := Text.splitAt '.' cs
  if 1 < ps.length && ps.getLast? == some [] then ps.dropLast else ps

/-- Whether a domain ends like a number. -/
def endsInNumber (cs : List Char) : Bool :=
  match (labels cs).getLast? with
  | some last =>
    !last.isEmpty && (last.all (fun c => (Text.digit? c).isSome) || (number? last).isSome)
  | none => false

/-- The 32 bits of an IPv4 address: all parts but the last one are octets, and the last one fills
what is left. -/
def ipv4? (cs : List Char) : Option Nat := do
  let numbers ← (labels cs).mapM number?
  let last ← numbers.getLast?
  let front := numbers.dropLast
  if front.length ≤ 3 && front.all (· ≤ 255) && last < 256 ^ (4 - front.length) then
    some (front.foldl (fun n d => n * 256 + d) 0 * 256 ^ (4 - front.length) + last)
  else none

/-- An IPv4 address. -/
def ipv4Text (n : Nat) : List Char :=
  List.intercalate ['.']
    [Text.decimal (n / 16777216), Text.decimal (n / 65536 % 256), Text.decimal (n / 256 % 256),
      Text.decimal (n % 256)]

/-! ## IPv6 -/

/-- A piece of 16 bits, in one to four digits of base sixteen. -/
def piece? (cs : List Char) : Option Nat :=
  if cs.isEmpty || 4 < cs.length then none else Text.numeral? 16 0 cs

/-- An octet in base ten, without leading zeros. -/
def octet? (cs : List Char) : Option Nat :=
  match cs with
  | [] => none
  | ['0'] => some 0
  | '0' :: _ => none
  | _ => (Text.number? 0 cs).filter (· ≤ 255)

/-- Two pieces written as four octets. -/
def quad? (cs : List Char) : Option (List Nat) :=
  match (Text.splitAt '.' cs).mapM octet? with
  | some [a, b, c, d] => some [a * 256 + b, c * 256 + d]
  | _ => none

/-- Pieces with colons between them; the last two may be written as four octets, if `closes`. -/
def pieces? (closes : Bool) : List (List Char) → Option (List Nat)
  | [] => some []
  | [p] =>
    if closes && p.contains '.' then quad? p else (piece? p).map fun n => [n]
  | p :: ps => do
    let n ← piece? p
    let ns ← pieces? closes ps
    some (n :: ns)

/-- The text before two colons in a row, and the text after them. -/
def splitAtGap? : List Char → Option (List Char × List Char)
  | ':' :: ':' :: rest => some ([], rest)
  | c :: cs => (splitAtGap? cs).map fun (before, rest) => (c :: before, rest)
  | [] => none

/-- The pieces of one side of a gap. -/
def side? (closes : Bool) (cs : List Char) : Option (List Nat) :=
  if cs.isEmpty then some [] else pieces? closes (Text.splitAt ':' cs)

/-- The eight pieces of an IPv6 address; a gap of two colons stands for one or more zeros. -/
def ipv6? (cs : List Char) : Option (List Nat) :=
  match splitAtGap? cs with
  | none => (pieces? true (Text.splitAt ':' cs)).filter (·.length = 8)
  | some (before, rest) => do
    let front ← side? false before
    let back ← side? true rest
    if front.length + back.length ≤ 7 then
      some (front ++ List.replicate (8 - front.length - back.length) 0 ++ back)
    else none

/-- The number of zeros at the front. -/
def zeros (ns : List Nat) : Nat := (ns.takeWhile (· == 0)).length

/-- The start and the length of the first longest run of zeros, from an index on. -/
def longestZeros (index : Nat) : List Nat → Nat × Nat
  | [] => (index, 0)
  | n :: ns =>
    let here := zeros (n :: ns)
    let (start, length) := longestZeros (index + 1) ns
    if length ≤ here then (index, here) else (start, length)

/-- Pieces in base sixteen, colons between them. -/
def piecesText (ns : List Nat) : List Char :=
  List.intercalate [':'] (ns.map (Nat.toDigits 16))

/-- An IPv6 address, a gap for its longest run of two zeros or more. -/
def ipv6Text (ns : List Nat) : List Char :=
  let (start, length) := longestZeros 0 ns
  if 2 ≤ length then
    piecesText (ns.take start) ++ [':', ':'] ++ piecesText (ns.drop (start + length))
  else piecesText ns

/-! ## Hosts -/

/-- A domain or an IPv4 address as it is shown; it is not empty. -/
def domain? (cs : List Char) : Option (List Char) := do
  let name ← Domain.ofOctets? (unescape (Text.Utf8.encode cs))
  if name.isEmpty then none
  else if endsInNumber name then (ipv4? name).map ipv4Text
  else some name

/-- A host in brackets as it is shown. -/
def bracketed? (cs : List Char) : Option (List Char) :=
  if cs.getLast? == some ']' then
    (ipv6? cs.dropLast).map fun ns => '[' :: ipv6Text ns ++ [']']
  else none

/-- A host as it is shown. -/
def ofText? (cs : List Char) : Option (List Char) :=
  match cs with
  | '[' :: rest => bracketed? rest
  | _ => domain? cs

/-- The characters that no host has in an address of an unknown scheme. -/
def isForbiddenAnywhere (c : Char) : Bool :=
  c.toNat = 0
    || ['\t', '\n', '\r', ' ', '#', '/', ':', '<', '>', '?', '@', '[', '\\', ']', '^',
      '|'].contains c

/-- The host of an address of an unknown scheme as it is shown; it may be empty. -/
def opaqueOfText? (cs : List Char) : Option (List Char) :=
  match cs with
  | '[' :: rest => bracketed? rest
  | _ => if cs.any isForbiddenAnywhere then none else some (escape [] cs)

end ActivityFeed.Http.Host
