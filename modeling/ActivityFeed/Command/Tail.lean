import ActivityFeed.Http.Exchange
import ActivityFeed.Sync.Session

/-!
# Following a feed

Whoever follows a feed is woken when its records change and when the phase of its connection does.
At a change of the records it looks at them and prints those that were not there at the look before,
oldest first; several changes may have come together by then. A record that the capacity pushed out
and that came back later is printed again.
-/

namespace ActivityFeed.Command.Tail

/-- What wakes whoever follows a feed. -/
inductive Wake where
  /-- The records have changed, and are these now. -/
  | records (view : List Record)
  /-- The phase of the connection has changed. -/
  | phase
deriving DecidableEq, Repr, Inhabited

/-- The records of a look that were not there at the look before, oldest first. -/
def fresh (before : List String) (view : List Record) : List Record :=
  view.reverse.filter fun r => !before.contains r.id

theorem mem_fresh {before : List String} {view : List Record} {r : Record} :
    r ∈ fresh before view ↔ r ∈ view ∧ r.id ∉ before := by
  simp [fresh]

/-- The identifiers seen at the last look, when there was one more wake-up. -/
def seenAt (before : List String) : Wake → List String
  | .records view => view.map Record.id
  | .phase => before

/-- The records that are printed at a wake-up. -/
def printedAt (before : List String) : Wake → List Record
  | .records view => fresh before view
  | .phase => []

/-- The records that are printed at each of several wake-ups; `before` are the identifiers seen at
the look before them. -/
def printed (before : List String) : List Wake → List (List Record)
  | [] => []
  | w :: rest => printedAt before w :: printed (seenAt before w) rest

/-- The wake-ups for the changes from one state of a session to the next. -/
def wakesBetween (s next : Session) : List Wake :=
  let isPhase := next.feed.phase.changedSince s.feed.phase.version
  let isRecords := next.feed.revision.changedSince s.feed.revision.version
  (if isPhase then [.phase] else [])
    ++ (if isRecords then [.records next.feed.store.entries] else [])

/-- The wake-ups while a session does at most `n` pieces of work, with one after each change. -/
def wakes (s : Session) : Nat → List Wake
  | 0 => []
  | n + 1 =>
    match s.step? .signals with
    | none => []
    | some next => wakesBetween s next ++ wakes next n

/-- What an accepted connection delivers for a response. -/
def deliveries (r : Http.Response) : List Delivery :=
  r.chunks.map .chunk ++ (r.ending.failure.map .failure).toList

/-- A server that gives a page, and for the stream a response or a failure, or neither. -/
def script (page : Except Failure Page) (stream : Option (Except Failure Http.Response)) :
    Script :=
  let base := { Script.empty with snapshot := page }
  match stream with
  | none => base
  | some (.error cause) => { base with prepared := [cause] }
  | some (.ok r) =>
    { base with
      answers := [.accept 0]
      connections := [⟨deliveries r, r.ending = .held, true⟩] }

/-- The session that follows a feed, started; a terminal is always eligible. -/
def opened (c : Config) (page : Except Failure Page)
    (stream : Option (Except Failure Http.Response)) : Except Failure Session := do
  let session ← Session.new c .always
  Session.start { session with script := script page stream }

/-- The records that are printed, in order, from the snapshot and one connection. -/
def follow (c : Config) (page : Except Failure Page)
    (stream : Option (Except Failure Http.Response)) : Except Failure (List Record) := do
  let session ← opened c page stream
  return (printed [] (wakes session session.workload)).flatten

end ActivityFeed.Command.Tail
