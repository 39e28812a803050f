import ActivityFeed.Record.Basic

/-!
# The store

The store keeps the newest records of a feed: at most `capacity` of them, no two with one
identifier, newest first, and records of one instant in the order in which they came. An identifier
that the capacity pushed out may come back later.
-/

namespace ActivityFeed

/-- Whether a record stands before another one unless it came later: it is at least as new. -/
def Record.isNewer (a b : Record) : Bool :=
  b.createdAt.le a.createdAt

/-- A bounded collection of records. -/
structure Store where
  /-- The most records that are kept. -/
  capacity : Nat
  /-- The records, newest first. -/
  entries : List Record
  /-- The identifiers that count as held, in any order. -/
  seen : List String
deriving DecidableEq, Repr, Inhabited

namespace Store

/-- A store without records. -/
def empty (capacity : Nat) : Store := ⟨capacity, [], []⟩

/-- Whether a record with this identifier is held. -/
def contains (s : Store) (id : String) : Bool :=
  s.seen.contains id

/-- Sorts the entries and cuts them to the capacity; identifiers that were cut are forgotten. -/
def settle (s : Store) : Store :=
  let sorted := s.entries.mergeSort Record.isNewer
  if s.capacity < sorted.length then
    let kept := sorted.take s.capacity
    { s with entries := kept, seen := kept.map Record.id }
  else { s with entries := sorted }

/-- One more record at the end, whatever its age, unless its identifier is held. -/
def append (s : Store) (r : Record) : Store :=
  if s.contains r.id then s else { s with entries := s.entries ++ [r], seen := r.id :: s.seen }

/-- Adds the records of a batch whose identifiers are not held, and says how many they are. The
capacity cuts once, after the last of them. -/
def seed (s : Store) (batch : List Record) : Nat × Store :=
  let grown := batch.foldl append s
  let added := grown.entries.length - s.entries.length
  (added, if 0 < added then grown.settle else s)

/-- Adds one record unless its identifier is held, and says whether the record is held because of
that. A record older than all those of a full store is cut at once. -/
def merge (s : Store) (r : Record) : Bool × Store :=
  if s.contains r.id then (false, s)
  else
    let merged := (s.append r).settle
    (merged.contains r.id, merged)

/-- The creation time of the newest record. -/
def latest (s : Store) : Option Instant :=
  s.entries.head?.map Record.createdAt

end Store

end ActivityFeed
