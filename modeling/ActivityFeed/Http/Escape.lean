import ActivityFeed.Text.Digits
import ActivityFeed.Text.Utf8

/-!
# Percent escapes

Addresses are written in printable ASCII. Every other octet of a text, and those printable
characters that would end the part of the address in which they stand, is written as `%` and two
digits of base sixteen. Which characters these are depends on the part: path, query or fragment.
-/

namespace ActivityFeed.Http

/-- A digit of base sixteen, in capital letters. -/
def upperHexDigit (n : Nat) : Char :=
  if n < 10 then Char.ofNat ('0'.toNat + n) else Char.ofNat ('A'.toNat + (n - 10))

/-- An octet as an escape. -/
def escapeOctet (b : UInt8) : List Char :=
  ['%', upperHexDigit (b.toNat / 16), upperHexDigit (b.toNat % 16)]

/-- Whether an octet is no printable ASCII. -/
def isUnprintable (b : UInt8) : Bool :=
  b < 0x20 || 0x7F ≤ b

/-- An octet in a part of an address in which `reserved` characters are escaped. -/
def escapeIn (reserved : List Char) (b : UInt8) : List Char :=
  let c := Char.ofNat b.toNat
  if isUnprintable b || reserved.contains c then escapeOctet b else [c]

/-- A text in a part of an address in which `reserved` characters are escaped. -/
def escape (reserved : List Char) (cs : List Char) : List Char :=
  (Text.Utf8.encode cs).flatMap (escapeIn reserved)

/-- The printable characters that are escaped in a fragment. -/
def fragmentReserved : List Char := [' ', '"', '<', '>', '\x60']

/-- The printable characters that are escaped in a path. -/
def pathReserved : List Char := fragmentReserved ++ ['#', '?', '\x7b', '\x7d']

/-- The printable characters that are escaped in credentials. -/
def credentialsReserved : List Char :=
  pathReserved ++ ['/', ':', ';', '=', '@', '[', '\\', ']', '^', '|']

/-- The printable characters that are escaped in a query. -/
def queryReserved : List Char := [' ', '"', '#', '<', '>']

/-- The value of an octet that is a digit of base sixteen. -/
def hexValue? (b : UInt8) : Option Nat :=
  Text.hexDigit? (Char.ofNat b.toNat)

/-- The octets with every escape replaced by the octet that it stands for. -/
def unescape : List UInt8 → List UInt8
  | [] => []
  | [a] => [a]
  | [a, b] => [a, b]
  | a :: b :: c :: rest =>
    match a == 0x25, hexValue? b, hexValue? c with
    | true, some high, some low => UInt8.ofNat (high * 16 + low) :: unescape rest
    | _, _, _ => a :: unescape (b :: c :: rest)

/-- An octet of a name or value in a query: letters, digits and `*-._` stand for themselves, and a
blank is a `+`. -/
def formOctet (b : UInt8) : List Char :=
  let c := Char.ofNat b.toNat
  if c.isAlphanum && b < 0x80 || c = '*' || c = '-' || c = '.' || c = '_' then [c]
  else if c = ' ' then ['+']
  else escapeOctet b

/-- A name or value in a query. -/
def formText (s : String) : List Char :=
  (Text.Utf8.ofString s).flatMap formOctet

end ActivityFeed.Http
