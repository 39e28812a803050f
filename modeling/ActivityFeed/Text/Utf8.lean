/-!
# UTF-8 octets

Streams and bodies arrive as octets. Reading them is total: a sequence that is not well-formed
UTF-8 becomes the replacement character, one for each maximal part that could have started a
well-formed sequence. `malformedAt` says where the first such part starts, for readers that refuse
malformed text instead.

A text may be cut at an octet only if no character has octets on both sides of it. `isBoundary`
tells that from the octets alone, `boundaryUpTo?` steps back to the last such place, and `upTo?`
cuts there and nowhere else.
-/

namespace ActivityFeed.Text.Utf8

/-- The octets of a text. -/
def encode (cs : List Char) : List UInt8 :=
  cs.flatMap String.utf8EncodeChar

/-- The octets of a string. -/
def ofString (s : String) : List UInt8 :=
  encode s.toList

/-- What stands for a malformed part: U+FFFD. -/
def replacement : Char := Char.ofNat 0xFFFD

/-- Whether an octet can only continue a sequence. -/
def isContinuation (b : UInt8) : Bool :=
  0x80 ≤ b && b ≤ 0xBF

/-- The number of octets that follow the first octet of a well-formed sequence; none starts with
any other octet than these. -/
def following? (b : UInt8) : Option Nat :=
  if b < 0x80 then some 0
  else if 0xC2 ≤ b && b ≤ 0xDF then some 1
  else if 0xE0 ≤ b && b ≤ 0xEF then some 2
  else if 0xF0 ≤ b && b ≤ 0xF4 then some 3
  else none

/-- Whether `second` may follow `first` where two or more octets are missing: no character has two
spellings, surrogates are no characters, and there is none past U+10FFFF. -/
def secondFits (first second : UInt8) : Bool :=
  if first == 0xE0 then 0xA0 ≤ second && second ≤ 0xBF
  else if first == 0xED then 0x80 ≤ second && second ≤ 0x9F
  else if first == 0xF0 then 0x90 ≤ second && second ≤ 0xBF
  else if first == 0xF4 then 0x80 ≤ second && second ≤ 0x8F
  else isContinuation second

/-- The payload of a continuation octet. -/
def payload (b : UInt8) : Nat :=
  b.toNat - 0x80

/-- What stands at the front of `first :: rest`: the character, if it is well-formed, and how many
octets of `rest` belong to it. Of a malformed sequence the longest part that starts some well-formed
one is taken together. -/
def front (first : UInt8) (rest : List UInt8) : Option Char × Nat :=
  match following? first with
  | none => (none, 0)
  | some 0 => (some (Char.ofNat first.toNat), 0)
  | some 1 =>
    match rest with
    | b :: _ =>
      if isContinuation b then
        (some (Char.ofNat ((first.toNat - 0xC0) * 64 + payload b)), 1)
      else (none, 0)
    | [] => (none, 0)
  | some 2 =>
    match rest with
    | b :: c :: _ =>
      if secondFits first b then
        if isContinuation c then
          (some (Char.ofNat ((first.toNat - 0xE0) * 4096 + payload b * 64 + payload c)), 2)
        else (none, 1)
      else (none, 0)
    | [b] => (none, if secondFits first b then 1 else 0)
    | [] => (none, 0)
  | some _ =>
    match rest with
    | b :: c :: d :: _ =>
      if secondFits first b then
        if isContinuation c then
          if isContinuation d then
            (some (Char.ofNat ((first.toNat - 0xF0) * 262144 + payload b * 4096
              + payload c * 64 + payload d)), 3)
          else (none, 2)
        else (none, 1)
      else (none, 0)
    | [b, c] => (none, if secondFits first b then if isContinuation c then 2 else 1 else 0)
    | [b] => (none, if secondFits first b then 1 else 0)
    | [] => (none, 0)

/-- Reads the octets after the next `skip`, which belong to a character already read. -/
def decodeFrom : Nat → List UInt8 → List Char
  | _, [] => []
  | skip + 1, _ :: rest => decodeFrom skip rest
  | 0, b :: rest =>
    let (c, used) := front b rest
    c.getD replacement :: decodeFrom used rest

/-- The text that octets spell, malformed parts replaced. -/
def decode (bytes : List UInt8) : List Char :=
  decodeFrom 0 bytes

/-- `decode` as a string. -/
def toText (bytes : List UInt8) : String :=
  String.ofList (decode bytes)

/-- `malformedAt`, `index` octets into the text and `skip` octets before the next character. -/
def malformedFrom : Nat → Nat → List UInt8 → Option Nat
  | _, _, [] => none
  | skip + 1, index, _ :: rest => malformedFrom skip (index + 1) rest
  | 0, index, b :: rest =>
    match front b rest with
    | (none, _) => some index
    | (some _, used) => malformedFrom used (index + 1) rest

/-- The index of the first octet that starts a malformed part, if there is one. -/
def malformedAt (bytes : List UInt8) : Option Nat :=
  malformedFrom 0 0 bytes

/-! ## Places to cut -/

/-- Whether a character starts at an index, or the octets end there. -/
def startsAt (octets : List UInt8) (i : Nat) : Bool :=
  match octets[i]? with
  | some b => !isContinuation b
  | none => i == octets.length

/-- Whether no character has octets on both sides of an index. -/
def isBoundary (octets : List UInt8) (i : Nat) : Bool :=
  i == 0 || startsAt octets i

/-- The last boundary up to an index; nothing if one has to step back below zero. -/
def boundaryUpTo? (octets : List UInt8) (i : Nat) : Option Nat :=
  if isBoundary octets i then some i
  else
    match i with
    | 0 => none
    | i + 1 => boundaryUpTo? octets i

/-- What stands before an index into the octets of a text; nothing if the index lies within a
character or past the end. -/
def upTo? : Nat → List Char → Option (List Char)
  | 0, _ => some []
  | _ + 1, [] => none
  | i + 1, c :: cs =>
    if c.utf8Size ≤ i + 1 then (upTo? (i + 1 - c.utf8Size) cs).map (c :: ·) else none

end ActivityFeed.Text.Utf8
