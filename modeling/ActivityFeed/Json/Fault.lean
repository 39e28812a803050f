/-!
# What is wrong with a JSON text, and where

A fault names the first octet at which a text stops being JSON, by its line and by the number of
octets on that line up to it. Where the text ends too early that octet is the last one.
-/

namespace ActivityFeed.Json

/-- A place in a text. -/
structure Position where
  /-- Lines count from one. -/
  line : Nat
  /-- Octets of the line up to and with the place. -/
  column : Nat
deriving DecidableEq, Repr, Inhabited

namespace Position

/-- Before the first octet. -/
def start : Position := ⟨1, 0⟩

/-- The place of the next octet. -/
def after (p : Position) (b : UInt8) : Position :=
  if b == 10 then ⟨p.line + 1, 0⟩ else ⟨p.line, p.column + 1⟩

end Position

/-- Why a text is no JSON. -/
inductive Reason where
  | endInValue
  | endInList
  | endInObject
  | endInString
  | expectedValue
  | expectedCommaOrBracket
  | expectedCommaOrBrace
  | expectedColon
  | keyMustBeString
  | trailingComma
  | trailingCharacters
  | expectedLiteral
  | invalidNumber
  | numberOutOfRange
  | controlCharacter
  | invalidEscape
  | unexpectedEndOfHexEscape
  | loneSurrogate
  | invalidCodePoint
  | tooDeep
deriving DecidableEq, Repr, Inhabited

/-- The wording of a reason. -/
def Reason.message : Reason → String
  | .endInValue => "EOF while parsing a value"
  | .endInList => "EOF while parsing a list"
  | .endInObject => "EOF while parsing an object"
  | .endInString => "EOF while parsing a string"
  | .expectedValue => "expected value"
  | .expectedCommaOrBracket => "expected `,` or `]`"
  | .expectedCommaOrBrace => "expected `,` or `\x7d`"
  | .expectedColon => "expected `:`"
  | .keyMustBeString => "key must be a string"
  | .trailingComma => "trailing comma"
  | .trailingCharacters => "trailing characters"
  | .expectedLiteral => "expected ident"
  | .invalidNumber => "invalid number"
  | .numberOutOfRange => "number out of range"
  | .controlCharacter => "control character (\\u0000-\\u001F) found while parsing a string"
  | .invalidEscape => "invalid escape"
  | .unexpectedEndOfHexEscape => "unexpected end of hex escape"
  | .loneSurrogate => "lone leading surrogate in hex escape"
  | .invalidCodePoint => "invalid unicode code point"
  | .tooDeep => "recursion limit exceeded"

/-- A reason at a place. -/
structure Fault where
  reason : Reason
  position : Position
deriving DecidableEq, Repr, Inhabited

/-- The wording of a fault. -/
def Fault.message (f : Fault) : String :=
  f.reason.message ++ " at line " ++ toString f.position.line ++ " column "
    ++ toString f.position.column

end ActivityFeed.Json
