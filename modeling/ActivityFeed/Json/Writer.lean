import ActivityFeed.Json.Basic
import ActivityFeed.Binary64.Shortest

/-!
# Writing JSON

The compact form of a tree has no blanks; the indented form has one item or member on a line, two
blanks deeper than its array or object. Members are written in the order in which they stand.
-/

namespace ActivityFeed.Json

/-! ## Numbers -/

/-- How a positive decimal is written: in positions while its point lies less than five places
before its first digit and at most sixteen places after it, and with an exponent beyond. There is
always a sign that the number is no whole one. -/
def decimalText (d : Binary64.Decimal) : List Char :=
  let n : Int := d.digits.length
  if n ≤ d.point && d.point ≤ 16 then
    d.digits ++ List.replicate (d.point - n).toNat '0' ++ ['.', '0']
  else if 0 < d.point && d.point ≤ 16 then
    d.digits.take d.point.toNat ++ ['.'] ++ d.digits.drop d.point.toNat
  else if -5 < d.point && d.point ≤ 0 then
    ['0', '.'] ++ List.replicate (-d.point).toNat '0' ++ d.digits
  else
    let exponent := d.point - 1
    let mantissa := match d.digits with
      | first :: second :: rest => first :: '.' :: second :: rest
      | digits => digits
    mantissa ++ ['e', if exponent < 0 then '-' else '+'] ++ Nat.toDigits 10 exponent.natAbs

/-- How a floating-point number is written. JSON has no word for those that are not finite. -/
def floatText : Binary64 → List Char
  | .finite negative m e =>
    let size := if m = 0 then ['0', '.', '0'] else decimalText (Binary64.shortest m e)
    if negative then '-' :: size else size
  | _ => "null".toList

/-- How a whole number is written. -/
def integerText (n : Int) : List Char :=
  if n < 0 then '-' :: Nat.toDigits 10 n.natAbs else Nat.toDigits 10 n.natAbs

/-- How a number is written. -/
def Number.text : Number → List Char
  | .integer n => integerText n
  | .float f => floatText f

/-! ## Strings -/

/-- How one character of a string is written. -/
def escapeChar (c : Char) : List Char :=
  match c with
  | '"' => ['\\', '"']
  | '\\' => ['\\', '\\']
  | '\n' => ['\\', 'n']
  | '\r' => ['\\', 'r']
  | '\t' => ['\\', 't']
  | _ =>
    if c.toNat = 8 then ['\\', 'b']
    else if c.toNat = 12 then ['\\', 'f']
    else if c.toNat < 0x20 then
      ['\\', 'u', '0', '0', Nat.digitChar (c.toNat / 16), Nat.digitChar (c.toNat % 16)]
    else [c]

/-- How a string is written. -/
def stringText (s : String) : List Char :=
  '"' :: s.toList.flatMap escapeChar ++ ['"']

/-! ## The compact form -/

mutual

/-- The characters of the compact form. -/
def chars : Json → List Char
  | .null => "null".toList
  | .bool true => "true".toList
  | .bool false => "false".toList
  | .number n => n.text
  | .string s => stringText s
  | .array items => '[' :: itemChars items ++ [']']
  | .object members => '\x7b' :: memberChars members ++ ['\x7d']

/-- The items of an array, commas between them. -/
def itemChars : List Json → List Char
  | [] => []
  | [v] => chars v
  | v :: rest => chars v ++ ',' :: itemChars rest

/-- The members of an object, commas between them. -/
def memberChars : List (String × Json) → List Char
  | [] => []
  | [(k, v)] => stringText k ++ ':' :: chars v
  | (k, v) :: rest => stringText k ++ ':' :: chars v ++ ',' :: memberChars rest

end

/-- The compact form. -/
def compact (v : Json) : String :=
  String.ofList v.chars

/-! ## The indented form -/

/-- The start of a line at a depth. -/
def lineStart (depth : Nat) : List Char :=
  '\n' :: List.replicate (2 * depth) ' '

mutual

/-- The characters of the indented form of a value at a depth. Empty arrays and objects stay on
their line. -/
def indentedChars (depth : Nat) : Json → List Char
  | .array [] => ['[', ']']
  | .array items => '[' :: indentedItems (depth + 1) items ++ lineStart depth ++ [']']
  | .object [] => ['\x7b', '\x7d']
  | .object members =>
    '\x7b' :: indentedMembers (depth + 1) members ++ lineStart depth ++ ['\x7d']
  | .null => "null".toList
  | .bool true => "true".toList
  | .bool false => "false".toList
  | .number n => n.text
  | .string s => stringText s

/-- The items of an array, each on its line. -/
def indentedItems (depth : Nat) : List Json → List Char
  | [] => []
  | [v] => lineStart depth ++ indentedChars depth v
  | v :: rest => lineStart depth ++ indentedChars depth v ++ ',' :: indentedItems depth rest

/-- The members of an object, each on its line. -/
def indentedMembers (depth : Nat) : List (String × Json) → List Char
  | [] => []
  | [(k, v)] => lineStart depth ++ stringText k ++ ':' :: ' ' :: indentedChars depth v
  | (k, v) :: rest =>
    lineStart depth ++ stringText k ++ ':' :: ' ' :: indentedChars depth v
      ++ ',' :: indentedMembers depth rest

end

/-- The indented form. -/
def indented (v : Json) : String :=
  String.ofList (v.indentedChars 0)

end ActivityFeed.Json
