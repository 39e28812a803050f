import ActivityFeed.Json.Basic
import ActivityFeed.Json.Fault
import ActivityFeed.Text.Utf8
import ActivityFeed.Text.Digits

/-!
# Reading JSON

The reader takes a text octet by octet. Its state is a stack of the arrays and objects that are open
and a `Mode` that says what may come next, so reading is a fold over the octets and each fault has
its place for free: it is the place of the octet at which the fold stopped, or the end of the text.
Only a string that denotes no text is seen at its closing quote, and its place is found by counting
the octets that it denotes back from there.

* `Numeral` reads one number, `Quotation` one string, `Reader` the rest.
* `read` gives the tree of the first value of a text together with the place of the first octet
  after it that is not blank, if there is one; `parse` refuses such an octet and gives the value
  that the tree denotes.
-/

namespace ActivityFeed.Json

/-- The octet of an ASCII character. -/
def octet (c : Char) : UInt8 :=
  UInt8.ofNat c.toNat

/-- Whether an octet is blank between the tokens of a text. -/
def isBlank (b : UInt8) : Bool :=
  b == 0x20 || b == 0x0A || b == 0x09 || b == 0x0D

/-- The value of the octet of a digit. -/
def digitOf? (b : UInt8) : Option Nat :=
  if 0x30 ≤ b && b ≤ 0x39 then some (b.toNat - 0x30) else none

/-! ## Numbers -/

/-- How far a number has been read. -/
inductive Numeral.Phase where
  /-- After the minus sign. -/
  | sign
  /-- After a leading zero, which stands alone. -/
  | zero
  /-- In the digits before the point, which fit 64 bits so far. -/
  | whole
  /-- In digits before the point past 64 bits, of which only the count matters. -/
  | overlong
  /-- After the point. -/
  | point
  /-- In the digits after the point. -/
  | fraction
  /-- In digits after the point past 64 bits, which are ignored. -/
  | rounded
  /-- After the letter of the exponent. -/
  | exponentMark
  /-- After the sign of the exponent. -/
  | exponentSign
  /-- In the digits of the exponent. -/
  | exponent
  /-- In the digits of an exponent past 31 bits that makes the number a zero. -/
  | vanished
deriving DecidableEq, Repr, Inhabited

/-- A number that is being read: `± significand · 10 ^ (scale ± written)`. -/
structure Numeral where
  phase : Numeral.Phase
  negative : Bool
  significand : Nat
  scale : Int
  exponentNegative : Bool
  written : Nat
deriving DecidableEq, Repr, Inhabited

namespace Numeral

/-- The largest exponent that is read as written. -/
def maxWritten : Nat := 2147483647

/-- A number of which only the sign has been read, if it has one. -/
def empty (negative : Bool) : Numeral :=
  ⟨.sign, negative, 0, 0, false, 0⟩

/-- Whether an octet is the letter of an exponent. -/
def isExponentMark (b : UInt8) : Bool :=
  b == octet 'e' || b == octet 'E'

/-- After the digits before or after the point: a point (where `pointed`), an exponent, or the end
of the number. -/
def afterDigits (n : Numeral) (pointed : Bool) (b : UInt8) : Option Numeral :=
  if pointed && b == octet '.' then some { n with phase := .point }
  else if isExponentMark b then some { n with phase := .exponentMark }
  else none

/-- One more digit after the point. -/
def fractionDigit (n : Numeral) (d : Nat) : Numeral :=
  let longer := n.significand * 10 + d
  if longer ≤ Text.maxWord then
    { n with phase := .fraction, significand := longer, scale := n.scale - 1 }
  else { n with phase := .rounded }

/-- One more digit of the exponent. -/
def exponentDigit (n : Numeral) (d : Nat) : Except Reason Numeral :=
  let longer := n.written * 10 + d
  if longer ≤ maxWritten then .ok { n with phase := .exponent, written := longer }
  else if n.significand = 0 || n.exponentNegative then .ok { n with phase := .vanished }
  else .error .numberOutOfRange

/-- Takes one octet; `none` if the number ended before it. -/
def feed (n : Numeral) (b : UInt8) : Except Reason (Option Numeral) :=
  match n.phase, digitOf? b with
  | .sign, some 0 => .ok (some { n with phase := .zero })
  | .sign, some d => .ok (some { n with phase := .whole, significand := d })
  | .sign, none => .error .invalidNumber
  | .zero, some _ => .error .invalidNumber
  | .zero, none => .ok (n.afterDigits true b)
  | .whole, some d =>
    let longer := n.significand * 10 + d
    if longer ≤ Text.maxWord then .ok (some { n with significand := longer })
    else .ok (some { n with phase := .overlong, scale := n.scale + 1 })
  | .whole, none => .ok (n.afterDigits true b)
  | .overlong, some _ => .ok (some { n with scale := n.scale + 1 })
  | .overlong, none => .ok (n.afterDigits true b)
  | .point, some d => .ok (some (n.fractionDigit d))
  | .point, none => .error .invalidNumber
  | .fraction, some d => .ok (some (n.fractionDigit d))
  | .fraction, none => .ok (n.afterDigits false b)
  | .rounded, some _ => .ok (some n)
  | .rounded, none => .ok (n.afterDigits false b)
  | .exponentMark, some d => n.exponentDigit d |>.map some
  | .exponentMark, none =>
    if b == octet '+' then .ok (some { n with phase := .exponentSign })
    else if b == octet '-' then
      .ok (some { n with phase := .exponentSign, exponentNegative := true })
    else .error .invalidNumber
  | .exponentSign, some d => n.exponentDigit d |>.map some
  | .exponentSign, none => .error .invalidNumber
  | .exponent, some d => n.exponentDigit d |>.map some
  | .exponent, none => .ok none
  | .vanished, some _ => .ok (some n)
  | .vanished, none => .ok none

/-- Whether the number may end here. -/
def isComplete (n : Numeral) : Bool :=
  match n.phase with
  | .sign | .point | .exponentMark | .exponentSign => false
  | _ => true

/-- A floating-point number with a sign. -/
def signed (negative : Bool) (f : Binary64) : Number :=
  .float (if negative then f.neg else f)

/-- The value of a complete number; nothing if it is too large. A whole number of 64 bits stays
whole, but minus zero is a floating-point number. -/
def value? (n : Numeral) : Option Number :=
  match n.phase with
  | .zero | .whole =>
    if !n.negative then some (.integer n.significand)
    else if n.significand = 0 || 2 ^ (63 : Nat) < n.significand then
      some (signed true (Binary64.ofNat n.significand))
    else some (.integer (-(n.significand : Int)))
  | .vanished => some (signed n.negative (Binary64.zero false))
  | _ =>
    let exponent := if n.exponentNegative then n.scale - n.written else n.scale + n.written
    (Binary64.scaleTen? (Binary64.ofNat n.significand) exponent).map (signed n.negative)

end Numeral

/-! ## Strings -/

/-- How far an escape has been read. -/
inductive Quotation.Escape where
  /-- No escape is open. -/
  | none
  /-- After the backslash. -/
  | started
  /-- In the four octets of a code unit, latest first, perhaps the second unit of a pair. -/
  | unit (leading : Option Nat) (octets : List UInt8)
  /-- After the first unit of a pair, before the backslash of the second one. -/
  | paired (leading : Nat)
  /-- After the first unit of a pair and a backslash. -/
  | pairedStarted (leading : Nat)
deriving DecidableEq, Repr, Inhabited

/-- A string that is being read: the octets that it denotes so far, latest first. Whether they
spell a text is seen at its end. -/
structure Quotation where
  octets : List UInt8
  escape : Quotation.Escape
deriving DecidableEq, Repr, Inhabited

namespace Quotation

/-- After the opening quote. -/
def empty : Quotation := ⟨[], .none⟩

/-- What became of a string after one more octet. -/
inductive Outcome where
  /-- It goes on. -/
  | more (q : Quotation)
  /-- It ended with the closing quote. -/
  | closed (text : String)
  /-- The octet is at fault. -/
  | fault (reason : Reason)
  /-- It ended, but of the octets that it denotes the last `back` ones do not start with a
  well-formed character. -/
  | malformed (back : Nat)
deriving DecidableEq, Repr, Inhabited

/-- The code unit that four octets spell. -/
def unit? (octets : List UInt8) : Option Nat :=
  octets.foldl
    (fun n b => n.bind fun n => (Text.hexDigit? (Char.ofNat b.toNat)).map fun d => n * 16 + d)
    (some 0)

/-- Whether a code unit is the first one of a pair. -/
def isLeading (u : Nat) : Bool := 0xD800 ≤ u && u ≤ 0xDBFF

/-- Whether a code unit is the second one of a pair. -/
def isTrailing (u : Nat) : Bool := 0xDC00 ≤ u && u ≤ 0xDFFF

/-- The character of a pair of code units. -/
def pair (leading trailing : Nat) : Char :=
  Char.ofNat ((leading - 0xD800) * 1024 + (trailing - 0xDC00) + 0x10000)

/-- The string with one more character and no escape open. -/
def push (q : Quotation) (c : Char) : Quotation :=
  ⟨(Text.Utf8.encode [c]).reverse ++ q.octets, .none⟩

/-- The string after a complete code unit. -/
def pushUnit (q : Quotation) (leading : Option Nat) (u : Nat) : Outcome :=
  match leading with
  | some l => if isTrailing u then .more (q.push (pair l u)) else .fault .loneSurrogate
  | none =>
    if isTrailing u then .fault .loneSurrogate
    else if isLeading u then .more { q with escape := .paired u }
    else .more (q.push (Char.ofNat u))

/-- The character that a letter after a backslash stands for. -/
def escaped? (b : UInt8) : Option Char :=
  if b == octet '"' then some '"'
  else if b == octet '\\' then some '\\'
  else if b == octet '/' then some '/'
  else if b == octet 'b' then some (Char.ofNat 8)
  else if b == octet 'f' then some (Char.ofNat 12)
  else if b == octet 'n' then some '\n'
  else if b == octet 'r' then some '\r'
  else if b == octet 't' then some '\t'
  else none

/-- The end of the string. -/
def close (q : Quotation) : Outcome :=
  let octets := q.octets.reverse
  match Text.Utf8.malformedAt octets with
  | some i => .malformed (octets.length - i)
  | none => .closed (Text.Utf8.toText octets)

/-- Takes one octet. -/
def feed (q : Quotation) (b : UInt8) : Outcome :=
  match q.escape with
  | .none =>
    if b == octet '"' then q.close
    else if b == octet '\\' then .more { q with escape := .started }
    else if b < 0x20 then .fault .controlCharacter
    else .more { q with octets := b :: q.octets }
  | .started =>
    if b == octet 'u' then .more { q with escape := .unit none [] }
    else
      match escaped? b with
      | some c => .more (q.push c)
      | none => .fault .invalidEscape
  | .unit leading octets =>
    if octets.length < 3 then .more { q with escape := .unit leading (b :: octets) }
    else
      match unit? (b :: octets).reverse with
      | some u => q.pushUnit leading u
      | none => .fault .invalidEscape
  | .paired leading =>
    if b == octet '\\' then .more { q with escape := .pairedStarted leading }
    else .fault .unexpectedEndOfHexEscape
  | .pairedStarted leading =>
    if b == octet 'u' then .more { q with escape := .unit (some leading) [] }
    else .fault .unexpectedEndOfHexEscape

end Quotation

/-! ## Arrays, objects and whole texts -/

/-- An array or object that is open, with what it holds so far, latest first. -/
inductive Opened where
  | array (items : List Json)
  /-- `key` is the key whose value is next or is being read. -/
  | object (members : Members) (key : String)
deriving DecidableEq, Repr, Inhabited

/-- What may come next. -/
inductive Mode where
  /-- A value. -/
  | value
  /-- The first item of an array, or its end. -/
  | firstItem
  /-- A comma, or the end of the array. -/
  | afterItem
  /-- The item after a comma. -/
  | nextItem
  /-- The first key of an object, or its end. -/
  | firstKey
  /-- A comma, or the end of the object. -/
  | afterMember
  /-- The key after a comma. -/
  | nextKey
  /-- The colon after a key. -/
  | colon
  /-- The rest of a literal name. -/
  | literal (rest : List UInt8) (value : Json)
  /-- More of a number. -/
  | number (n : Numeral)
  /-- More of a string, which may be a key. -/
  | string (isKey : Bool) (q : Quotation)
  /-- Only blanks, or else the place of the first other octet is kept. -/
  | finished (value : Json) (trailing : Option Position)
deriving DecidableEq, Repr, Inhabited

/-- A text that is being read. -/
structure Reader where
  position : Position
  opened : List Opened
  mode : Mode
deriving DecidableEq, Repr, Inhabited

/-- What was read: the first value of a text, and the place of the first octet that follows it and
is not blank. -/
structure Reading where
  value : Json
  trailing : Option Position
deriving DecidableEq, Repr, Inhabited

namespace Reader

/-- The most arrays and objects that may be open at once. -/
def maxDepth : Nat := 127

/-- Before the first octet. -/
def start : Reader := ⟨.start, [], .value⟩

/-- A value is complete: it goes to the innermost open array or object, or is the whole. -/
def deliver (r : Reader) (v : Json) : Reader :=
  match r.opened with
  | [] => { r with mode := .finished v none }
  | .array items :: rest => { r with opened := .array (v :: items) :: rest, mode := .afterItem }
  | .object members key :: rest =>
    { r with opened := .object ((key, v) :: members) key :: rest, mode := .afterMember }

/-- The innermost open array or object is complete. -/
def close (r : Reader) : Reader :=
  match r.opened with
  | [] => r
  | .array items :: rest => deliver { r with opened := rest } (.array items.reverse)
  | .object members _ :: rest => deliver { r with opened := rest } (.object members.reverse)

/-- One more array or object, unless too many are open. -/
def open? (r : Reader) (o : Opened) (mode : Mode) : Except Reason Reader :=
  if r.opened.length < maxDepth then .ok { r with opened := o :: r.opened, mode := mode }
  else .error .tooDeep

/-- The key of the next member of the innermost object. -/
def nameMember (r : Reader) (key : String) : Reader :=
  match r.opened with
  | .object members _ :: rest => { r with opened := .object members key :: rest, mode := .colon }
  | _ => { r with mode := .colon }

/-- The first octet of a value. -/
def startValue (r : Reader) (b : UInt8) : Except Reason Reader :=
  if b == octet 'n' then
    .ok { r with mode := .literal [octet 'u', octet 'l', octet 'l'] .null }
  else if b == octet 't' then
    .ok { r with mode := .literal [octet 'r', octet 'u', octet 'e'] (.bool true) }
  else if b == octet 'f' then
    .ok { r with mode := .literal [octet 'a', octet 'l', octet 's', octet 'e'] (.bool false) }
  else if b == octet '-' then .ok { r with mode := .number (.empty true) }
  else if b == octet '"' then .ok { r with mode := .string false .empty }
  else if b == octet '[' then r.open? (.array []) .firstItem
  else if b == octet '\x7b' then r.open? (.object [] "") .firstKey
  else
    match digitOf? b with
    | some 0 => .ok { r with mode := .number { Numeral.empty false with phase := .zero } }
    | some d =>
      .ok { r with mode := .number { Numeral.empty false with phase := .whole, significand := d } }
    | none => .error .expectedValue

/-- Takes an octet between tokens. -/
def feedBetween (r : Reader) (b : UInt8) : Except Reason Reader :=
  if isBlank b then .ok r
  else
    match r.mode with
    | .value => r.startValue b
    | .firstItem => if b == octet ']' then .ok r.close else r.startValue b
    | .afterItem =>
      if b == octet ']' then .ok r.close
      else if b == octet ',' then .ok { r with mode := .nextItem }
      else .error .expectedCommaOrBracket
    | .nextItem => if b == octet ']' then .error .trailingComma else r.startValue b
    | .firstKey =>
      if b == octet '\x7d' then .ok r.close
      else if b == octet '"' then .ok { r with mode := .string true .empty }
      else .error .keyMustBeString
    | .afterMember =>
      if b == octet '\x7d' then .ok r.close
      else if b == octet ',' then .ok { r with mode := .nextKey }
      else .error .expectedCommaOrBrace
    | .nextKey =>
      if b == octet '"' then .ok { r with mode := .string true .empty }
      else if b == octet '\x7d' then .error .trailingComma
      else .error .keyMustBeString
    | .colon => if b == octet ':' then .ok { r with mode := .value } else .error .expectedColon
    | .finished v none => .ok { r with mode := .finished v (some r.position) }
    | _ => .ok r

/-- Takes one octet. -/
def feed (before : Reader) (b : UInt8) : Except Fault Reader :=
  let r := { before with position := before.position.after b }
  let located (result : Except Reason Reader) : Except Fault Reader :=
    result.mapError fun reason => ⟨reason, r.position⟩
  match r.mode with
  | .literal [] v => located ((r.deliver v).feedBetween b)
  | .literal (expected :: rest) v =>
    if b != expected then .error ⟨.expectedLiteral, r.position⟩
    else if rest.isEmpty then .ok (r.deliver v)
    else .ok { r with mode := .literal rest v }
  | .number n =>
    match n.feed b with
    | .error reason => .error ⟨reason, r.position⟩
    | .ok (some longer) => .ok { r with mode := .number longer }
    | .ok none =>
      match n.value? with
      | some v => located ((r.deliver (.number v)).feedBetween b)
      | none => .error ⟨.numberOutOfRange, before.position⟩
  | .string isKey q =>
    match q.feed b with
    | .more longer => .ok { r with mode := .string isKey longer }
    | .closed text =>
      .ok (if isKey then r.nameMember text else r.deliver (.string text))
    | .fault reason => .error ⟨reason, r.position⟩
    | .malformed back =>
      .error ⟨.invalidCodePoint, ⟨r.position.line, r.position.column - back⟩⟩
  | _ => located (r.feedBetween b)

/-- The end of the text. -/
def finish (r : Reader) : Except Fault Reading :=
  let ended (reason : Reason) : Except Fault Reading := .error ⟨reason, r.position⟩
  match r.mode with
  | .finished v trailing => .ok ⟨v, trailing⟩
  | .number n =>
    if !n.isComplete then ended .endInValue
    else
      match n.value? with
      | none => ended .numberOutOfRange
      | some v =>
        match (r.deliver (.number v)).mode with
        | .finished v trailing => .ok ⟨v, trailing⟩
        | .afterItem => ended .endInList
        | _ => ended .endInObject
  | .firstItem | .afterItem => ended .endInList
  | .firstKey | .afterMember | .colon => ended .endInObject
  | .string .. => ended .endInString
  | .value | .nextItem | .nextKey | .literal .. => ended .endInValue

end Reader

/-- Reads the first value of a text, whatever follows it. -/
def read (octets : List UInt8) : Except Fault Reading := do
  let r ← octets.foldlM Reader.feed Reader.start
  r.finish

/-- The fault of a text that goes on after its first value. -/
def Reading.check (r : Reading) : Except Fault Unit :=
  match r.trailing with
  | some p => .error ⟨.trailingCharacters, p⟩
  | none => .ok ()

/-- The value that a text denotes. -/
def parse (octets : List UInt8) : Except Fault Json := do
  let r ← read octets
  r.check
  return r.value.canonical

/-- `parse` on strings. -/
def parseText (s : String) : Except Fault Json :=
  parse (Text.Utf8.ofString s)

end ActivityFeed.Json
