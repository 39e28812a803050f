import ActivityFeed.Instant.Basic
import ActivityFeed.Text.Digits
import ActivityFeed.Text.Space

/-!
# Timestamps

Timestamps are read in three forms: the strict form of internet timestamps with an offset from UTC,
and two loose forms without one, which are taken as UTC. They are written in three forms as well: in
records with the fewest of 0, 3, 6 or 9 decimal places, in catch-up cursors with six places, cut off
and not rounded, and for people with whole seconds.
-/

namespace ActivityFeed.Instant

/-! ## Reading -/

/-- A reader of the front of a text: the value and what is left. -/
abbrev Front (α : Type) := List Char → Option (α × List Char)

/-- The rest of a text after a given character. -/
def after? (c : Char) : List Char → Option (List Char)
  | [] => none
  | d :: rest => if d = c then some rest else none

/-- The digits at the front of a text, at most `most`, and what is left. -/
def spanDigits : Nat → List Char → List Nat × List Char
  | 0, cs => ([], cs)
  | _ + 1, [] => ([], [])
  | most + 1, c :: cs =>
    match Text.digit? c with
    | some d =>
      let (ds, rest) := spanDigits most cs
      (d :: ds, rest)
    | none => ([], c :: cs)

/-- The number that digits spell. -/
def ofDigits (ds : List Nat) : Nat :=
  ds.foldl (fun n d => n * 10 + d) 0

/-- A number of exactly `width` digits. -/
def fixed (width : Nat) : Front Nat := fun cs =>
  let (ds, rest) := spanDigits width cs
  if ds.length = width then some (ofDigits ds, rest) else none

/-- A number of one digit up to `most`, with white space before it. -/
def loose (most : Nat) : Front Nat := fun cs =>
  let (ds, rest) := spanDigits most (Text.trimStart cs)
  if ds.isEmpty then none else some (ofDigits ds, rest)

/-- A year: up to four digits, or a sign and any number of digits, with white space before it. -/
def looseYear : Front Int := fun cs =>
  let unlimited (cs : List Char) : Option (Nat × List Char) :=
    let (ds, rest) := spanDigits cs.length cs
    if ds.isEmpty then none else some (ofDigits ds, rest)
  match Text.trimStart cs with
  | '-' :: rest => (unlimited rest).map fun (n, rest) => (-(n : Int), rest)
  | '+' :: rest => (unlimited rest).map fun (n, rest) => ((n : Int), rest)
  | cs => (loose 4 cs).map fun (n, rest) => ((n : Int), rest)

/-- An optional fraction of a second, in nanoseconds: a point and at least one digit, of which
those after the ninth do not count. -/
def fraction : Front Nat := fun cs =>
  match cs with
  | '.' :: rest =>
    let (ds, rest) := spanDigits rest.length rest
    if ds.isEmpty then none
    else some (ofDigits (ds.take 9) * 10 ^ (9 - ds.length), rest)
  | _ => some (0, cs)

/-- The signed offset from UTC in seconds: a `Z`, or a sign, hours and minutes. -/
def offset : Front Int := fun cs =>
  let clock (sign : Int) (cs : List Char) : Option (Int × List Char) := do
    let (hour, cs) ← fixed 2 cs
    let cs ← after? ':' cs
    let (minute, cs) ← fixed 2 cs
    if hour ≤ 23 && minute ≤ 59 then
      some (sign * (hour * 3600 + minute * 60 : Nat), cs)
    else none
  match cs with
  | [] => none
  | c :: rest =>
    if c = 'Z' || c = 'z' then some (0, rest)
    else if c = '+' then clock 1 rest
    else if c = '-' || c.toNat = 0x2212 then clock (-1) rest
    else none

/-- The strict form: fixed widths, `T` or a blank between date and time, and an offset. -/
def strict? (cs : List Char) : Option Instant := do
  let (year, cs) ← fixed 4 cs
  let cs ← after? '-' cs
  let (month, cs) ← fixed 2 cs
  let cs ← after? '-' cs
  let (day, cs) ← fixed 2 cs
  let cs ← (after? 'T' cs).orElse fun _ => (after? 't' cs).orElse fun _ => after? ' ' cs
  let (hour, cs) ← fixed 2 cs
  let cs ← after? ':' cs
  let (minute, cs) ← fixed 2 cs
  let cs ← after? ':' cs
  let (second, cs) ← fixed 2 cs
  let (nanos, cs) ← fraction cs
  let (shift, cs) ← offset cs
  let civil : Civil := ⟨⟨year, month, day⟩, hour, minute, second, nanos⟩
  if cs.isEmpty && civil.isValid then
    let t := civil.toInstant
    some { t with seconds := t.seconds - shift }
  else none

/-- A loose form, with what has to stand between date and time. -/
def loose? (separator : List Char → Option (List Char)) (cs : List Char) : Option Instant := do
  let (year, cs) ← looseYear cs
  let cs ← after? '-' cs
  let (month, cs) ← loose 2 cs
  let cs ← after? '-' cs
  let (day, cs) ← loose 2 cs
  let cs ← separator cs
  let (hour, cs) ← loose 2 cs
  let cs ← after? ':' cs
  let (minute, cs) ← loose 2 cs
  let cs ← after? ':' cs
  let (second, cs) ← loose 2 cs
  let (nanos, cs) ← fraction cs
  let civil : Civil := ⟨⟨year, month, day⟩, hour, minute, second, nanos⟩
  if cs.isEmpty && civil.isValid then some civil.toInstant else none

/-- The loose form with a `T`. -/
def looseT? : List Char → Option Instant :=
  loose? (after? 'T')

/-- The loose form with white space, or none, between date and time. -/
def looseBlank? : List Char → Option Instant :=
  loose? fun cs => some (Text.trimStart cs)

/-- The instant that a timestamp denotes; white space around it does not count. -/
def ofText? (s : String) : Option Instant :=
  let cs := Text.trim s.toList
  (strict? cs).orElse fun _ => (looseT? cs).orElse fun _ => looseBlank? cs

/-! ## Writing -/

/-- A year: four digits, with a sign and perhaps more digits outside the years 0 to 9999. -/
def yearText (year : Int) : List Char :=
  let digits := Text.padded 4 year.natAbs
  if year < 0 then '-' :: digits
  else if 9999 < year then '+' :: digits
  else digits

/-- A date. -/
def dateText (d : Date) : List Char :=
  yearText d.year ++ '-' :: Text.padded 2 d.month ++ '-' :: Text.padded 2 d.day

/-- Hours, minutes and seconds. -/
def clockText (c : Civil) : List Char :=
  Text.padded 2 c.hour ++ ':' :: Text.padded 2 c.minute ++ ':' :: Text.padded 2 c.second

/-- The decimal places of a record's timestamp: as few of 0, 3, 6 or 9 as lose nothing. -/
def placesText (nanos : Nat) : List Char :=
  if nanos = 0 then []
  else if nanos % 1000000 = 0 then '.' :: Text.padded 3 (nanos / 1000000)
  else if nanos % 1000 = 0 then '.' :: Text.padded 6 (nanos / 1000)
  else '.' :: Text.padded 9 nanos

/-- The timestamp of a record. -/
def text (t : Instant) : String :=
  let c := t.civil
  String.ofList (dateText c.date ++ 'T' :: clockText c ++ placesText c.nanos ++ ['Z'])

/-- The catch-up cursor: the timestamp cut off after the microseconds. -/
def cursor (t : Instant) : String :=
  let c := t.civil
  String.ofList
    (dateText c.date ++ 'T' :: clockText c ++ '.' :: Text.padded 6 (c.nanos / 1000) ++ ['Z'])

/-- The timestamp for people, in whole seconds. -/
def display (t : Instant) : String :=
  let c := t.civil
  String.ofList (dateText c.date ++ ' ' :: clockText c)

end ActivityFeed.Instant
