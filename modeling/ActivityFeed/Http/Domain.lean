import ActivityFeed.Http.Domain.Characters
import ActivityFeed.Http.Domain.Direction
import ActivityFeed.Http.Domain.Joining
import ActivityFeed.Http.Domain.Mark
import ActivityFeed.Http.Domain.Punycode
import ActivityFeed.Http.Domain.Replacements
import ActivityFeed.Text.Composed
import ActivityFeed.Text.Split
import ActivityFeed.Text.Utf8

/-!
# Domains

A domain is a list of labels with points between them. People write it in the letters of their
languages, and it is sent in letters, digits and hyphens of ASCII: `ofOctets?` is the way from the
one to the other.

The text is mapped first: characters are kept, dropped, replaced or refused one by one, and the
result is composed. Then each label is taken by itself. A label may also be written as it is sent,
after `xn--`; it has to stand for a label that the mapping leaves alone. What a label must not be is
said by `Label.isFit`, and `areOrdered` has a rule for all labels together.
-/

namespace ActivityFeed.Http.Domain

/-! ## Mapping -/

/-- What becomes of a character. -/
inductive Use where
  | kept
  | dropped
  | replaced (text : List Char)
  | refused
deriving DecidableEq, Repr, Inhabited

/-- What becomes of a character. -/
def use (c : Char) : Use :=
  if Text.inRanges droppedRanges c then .dropped
  else
    match replacement? c with
    | some text => .replaced text
    | none => if Text.inRanges keptRanges c then .kept else .refused

/-- What a character leaves behind. -/
def Use.text? (c : Char) : Use → Option (List Char)
  | .kept => some [c]
  | .dropped => some []
  | .replaced text => some text
  | .refused => none

/-- A text with its characters mapped, in its composed form. -/
def mapped? (cs : List Char) : Option (List Char) :=
  (cs.mapM fun c => (use c).text? c).map fun texts => Text.composed texts.flatten

/-! ## Labels -/

/-- A label as people read it and as it is sent. -/
structure Label where
  text : List Char
  sent : List Char
deriving DecidableEq, Repr, Inhabited

namespace Label

/-- What the sent form of a label begins with if it is not the text itself. -/
def mark : List Char := "xn--".toList

/-- What follows the mark of a label, if it has the mark. -/
def afterMark? (cs : List Char) : Option (List Char) :=
  if mark.isPrefixOf cs then some (cs.drop mark.length) else none

/-- Whether a text with other characters than those of ASCII may be a label. -/
def isFit (cs : List Char) : Bool :=
  (afterMark? cs).isNone && !cs.head?.any isMark && joinersFit [] cs

/-- The most characters of a label that is written in ASCII. -/
def maxLength : Nat := 1000

/-- The most characters of a label written in ASCII, its mark left out. -/
def maxSentLength : Nat := 2000

/-- Whether the mapping leaves a text alone. -/
def isMapped (cs : List Char) : Bool :=
  cs.all (fun c => use c == .kept) && Text.composed cs == cs

/-- The label that is sent as given. -/
def ofSent? (sent rest : List Char) : Option Label :=
  if rest.length ≤ maxSentLength && rest.getLast?.any (· ≠ '-') then
    (Punycode.decode? rest).bind fun text =>
      if isMapped text && isFit text then some ⟨text, sent⟩ else none
  else none

/-- The label of a mapped text. -/
def ofMapped? (cs : List Char) : Option Label :=
  match afterMark? cs with
  | some rest => ofSent? cs rest
  | none =>
    if cs.all Punycode.isBasic then some ⟨cs, cs⟩
    else if isFit cs && cs.length ≤ maxLength then some ⟨cs, mark ++ Punycode.encode cs⟩
    else none

end Label

/-! ## Whole domains -/

/-- The signs that no domain has. -/
def forbidden : List Char :=
  ['%', '#', '/', ':', '<', '>', '?', '@', '[', '\\', ']', '^', '|']

/-- Whether a character is one of ASCII that no domain has. -/
def isForbidden (c : Char) : Bool :=
  c.toNat ≤ 0x20 || c.toNat = 0x7F || forbidden.contains c

/-- The domain of a text, as it is sent. -/
def ofText? (cs : List Char) : Option (List Char) := do
  let mapped ← mapped? cs
  let labels ← (Text.splitAt '.' mapped).mapM Label.ofMapped?
  if mapped.any isForbidden || !areOrdered (labels.map (·.text)) then none
  else some (List.intercalate ['.'] (labels.map (·.sent)))

/-- The domain that octets spell, as it is sent. -/
def ofOctets? (octets : List UInt8) : Option (List Char) :=
  if (Text.Utf8.malformedAt octets).isSome then none else ofText? (Text.Utf8.decode octets)

end ActivityFeed.Http.Domain
