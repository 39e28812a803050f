import ActivityFeed.Text.Digits

/-!
# Board identifiers

Boards are named by numbers of 128 bits, written as 32 digits of base sixteen in groups of 8, 4, 4,
4 and 12. They are read with the groups or without them, and with groups also in braces or after
`urn:uuid:`. Capital and small letters are the same.
-/

namespace ActivityFeed

/-- The name of a board. -/
structure BoardId where
  value : Nat
deriving DecidableEq, Repr, Inhabited

namespace BoardId

/-- The digits of five groups, without the hyphens between them. -/
def ungrouped? (cs : List Char) : Option (List Char) :=
  let isHyphen (i : Nat) : Bool := i == 8 || i == 13 || i == 18 || i == 23
  if cs.length = 36 && cs.zipIdx.all fun (c, i) => !isHyphen i || c == '-' then
    some ((cs.zipIdx.filter fun (_, i) => !isHyphen i).map (·.1))
  else none

/-- What may stand before an identifier in groups, in small letters. -/
def scheme : List Char := "urn:uuid:".toList

/-- The digits of a written identifier. -/
def digits? (cs : List Char) : Option (List Char) :=
  if cs.length = 32 then some cs
  else if cs.length = 38 && cs.head? == some '\x7b' && cs.getLast? == some '\x7d' then
    ungrouped? (cs.drop 1).dropLast
  else if cs.length = 45 && (cs.take 9).map Char.toLower == scheme then ungrouped? (cs.drop 9)
  else ungrouped? cs

/-- The identifier that a text denotes. -/
def ofText? (s : String) : Option BoardId :=
  ((digits? s.toList).bind (Text.numeral? 16 0)).map BoardId.mk

/-- The 32 digits of an identifier. -/
def digits (b : BoardId) : List Char :=
  let ds := Nat.toDigits 16 b.value
  List.replicate (32 - ds.length) '0' ++ ds

/-- The identifier in groups. -/
def text (b : BoardId) : String :=
  let ds := b.digits
  let group (start length : Nat) := (ds.drop start).take length
  String.ofList (List.intercalate ['-']
    [group 0 8, group 8 4, group 12 4, group 16 4, group 20 12])

end BoardId

end ActivityFeed
