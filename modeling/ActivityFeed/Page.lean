import ActivityFeed.Record.Basic

/-!
# Snapshot pages

A page holds the newest records as the server has them. Its body is a list of records, or an object
with the list as its member `items` and perhaps the number of all records as its member `total`.
A bad item costs only itself: it is counted and left out.
-/

namespace ActivityFeed

/-- The content of a snapshot body. -/
structure Page where
  /-- The items that are records, in the order of the body. -/
  items : List Record
  /-- The number of all records that the server has. -/
  total : Option Nat
  /-- The number of items that are no records. -/
  rejected : Nat
deriving DecidableEq, Repr, Inhabited

namespace Page

/-- A page of records only. -/
def ofRecords (items : List Record) : Page := ⟨items, some items.length, 0⟩

/-- A page without records. -/
def empty : Page := ⟨[], none, 0⟩

/-- The total that a member denotes: null, or a whole number of 64 bits. -/
def total? : Json → Option (Option Nat)
  | .null => some none
  | .number (.integer n) => if 0 ≤ n && n ≤ Text.maxWord then some (some n.toNat) else none
  | _ => none

/-- The items and the total of a tree: those of a list, or of an object with one member `items` and
at most one member `total`. -/
def shape? : Json → Option (List Json × Option Nat)
  | .array items => some (items, none)
  | .object members =>
    match members.filter (·.1 = "items"), members.filter (·.1 = "total") with
    | [(_, .array items)], [] => some (items, none)
    | [(_, .array items)], [(_, total)] => (total? total).map fun t => (items, t)
    | _, _ => none
  | _ => none

/-- The page of a list of items. -/
def ofItems (items : List Json) (total : Option Nat) : Page :=
  let results := items.map fun v => Record.ofJson v.canonical
  { items := results.filterMap fun r => r.toOption
    total
    rejected := results.countP fun r => r.toOption.isNone }

/-- The page of a snapshot body. The shape is looked at before what follows the first value. -/
def ofBody (body : List UInt8) : Except PayloadError Page :=
  match Json.read body with
  | .error fault => .error (.invalidJson fault)
  | .ok reading =>
    match shape? reading.value with
    | none => .error (.malformed .unexpectedBody)
    | some (items, total) =>
      match reading.check with
      | .error fault => .error (.invalidJson fault)
      | .ok () => .ok (ofItems items total)

end Page

end ActivityFeed
