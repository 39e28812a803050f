import ActivityFeed.Sync.Session

/-!
# Scenarios

A scenario is a sequence of steps by the views, the host and the server of a synchronizer. After
each step all work that is ready is done, and an `Observation` says what can be seen then, with the
changes since the observation before.
-/

namespace ActivityFeed

/-- One step of a scenario. -/
inductive Step where
  | start
  | stop
  /-- The synchronizer is given away, which tears it down. -/
  | drop
  | signal (signal : Signal)
  /-- The host falls silent. -/
  | dropHost
  /-- The server answers the next request by a connection. -/
  | connect
  /-- The server answers the next request by a rejection. -/
  | reject (message : String) (status : Option Nat)
  /-- The next request fails before the server sees it. -/
  | prepare (cause : Failure)
  | send (connection : Nat) (octets : List UInt8)
  /-- Sends a frame of a type with data. -/
  | sendFrame (connection : Nat) (event data : String)
  | fail (connection : Nat) (cause : Failure)
  | close (connection : Nat)
  /-- The snapshot gives these records from now on. -/
  | snapshot (items : List Record)
  | failSnapshot (message : String) (status : Option Nat)
  /-- The snapshot takes this many milliseconds from now on. -/
  | delaySnapshot (millis : Nat)
  | advance (millis : Nat)
  /-- Several steps without work between them. -/
  | batch (steps : List Step)
deriving Inhabited

/-- What a step returned. -/
inductive StepResult where
  | nothing
  | started
  | refused (cause : Failure)
  /-- Whether what was sent may still be read. -/
  | sent (readable : Bool)
deriving DecidableEq, Repr, Inhabited

/-- A scenario under way. -/
structure Scenario where
  session : Session
  /-- Whether the synchronizer has not been given away. -/
  isOwned : Bool
  /-- The versions of phase and revision at the last observation. -/
  seen : Nat × Nat

/-- What can be seen of a synchronizer that has not been given away. -/
structure View where
  phase : Phase
  revision : Nat
  ids : List String
  snapshot : SnapshotStatus
  stats : Stats
deriving DecidableEq, Repr, Inhabited

/-- What can be seen after a step. -/
structure Observation where
  result : StepResult
  /-- Whether phase and revision changed; nothing once the synchronizer is gone. -/
  changed : Option (Bool × Bool)
  phase : Phase
  revision : Nat
  snapshotCalls : Nat
  attempts : List Attempt
  /-- For each connection whether it is held; nothing once it is closed. -/
  held : List (Option Bool)
  view : Option View
deriving DecidableEq, Repr, Inhabited

namespace Scenario

/-- What comes first where the scenario leaves it open. -/
def precedence : Precedence := .signals

/-- A scenario before its first step. -/
def new (config : Config) (visibility : Visibility) : Except Failure Scenario :=
  (Session.new config visibility).map fun session => ⟨session, true, (0, 0)⟩

/-- Changes the server's script. -/
def modifyScript (s : Scenario) (change : Script → Script) : Scenario :=
  { s with session := { s.session with script := change s.session.script } }

/-- Delivers something on a connection. -/
def deliver (s : Scenario) (connection : Nat) (d : Delivery) : StepResult × Scenario :=
  let (result, script) := s.session.script.deliver connection d
  (match result with
    | some readable => .sent readable
    | none => .nothing,
   { s with session := { s.session with script } })

/-- The octets of a frame with a type and one piece of data. -/
def frameOctets (event data : String) : List UInt8 :=
  Text.Utf8.ofString ("event: " ++ event ++ "\ndata: " ++ data ++ "\n\n")

mutual

/-- What a step does, before any work that it makes ready. -/
def act (s : Scenario) : Step → StepResult × Scenario
  | .start =>
    if !s.isOwned then (.nothing, s)
    else
      match s.session.start with
      | .ok session => (.started, { s with session })
      | .error cause => (.refused cause, s)
  | .stop =>
    if !s.isOwned then (.nothing, s) else (.nothing, { s with session := s.session.stop })
  | .drop => (.nothing, { s with session := s.session.stop, isOwned := false })
  | .signal signal => (.nothing, { s with session := s.session.signal signal })
  | .dropHost => (.nothing, { s with session := s.session.dropHost })
  | .connect => (.nothing, s.modifyScript .connect)
  | .reject message status => (.nothing, s.modifyScript (·.reject message status))
  | .prepare cause =>
    (.nothing, s.modifyScript fun t => { t with prepared := t.prepared ++ [cause] })
  | .send connection octets => s.deliver connection (.chunk octets)
  | .sendFrame connection event data =>
    s.deliver connection (.chunk (frameOctets event data))
  | .fail connection cause => s.deliver connection (.failure cause)
  | .close connection => (.nothing, s.modifyScript (·.close connection))
  | .snapshot items =>
    (.nothing, s.modifyScript fun t => { t with snapshot := .ok (.ofRecords items) })
  | .failSnapshot message status =>
    (.nothing, s.modifyScript fun t => { t with snapshot := .error (.snapshot message status) })
  | .delaySnapshot millis => (.nothing, s.modifyScript fun t => { t with snapshotDelay := millis })
  | .advance millis => (.nothing, { s with session := s.session.advance precedence millis })
  | .batch steps => (.nothing, actAll s steps)

/-- What several steps do, one after the other. -/
def actAll (s : Scenario) : List Step → Scenario
  | [] => s
  | step :: steps => actAll (act s step).2 steps

end

/-- What can be seen of the synchronizer. -/
def view (s : Scenario) : Option View :=
  let feed := s.session.feed
  if s.isOwned then
    some ⟨feed.phase.value, feed.revision.value, feed.store.entries.map Record.id, feed.snapshot,
      feed.stats⟩
  else none

/-- What can be seen, and the scenario with it taken note of. -/
def observe (s : Scenario) (result : StepResult) : Observation × Scenario :=
  let feed := s.session.feed
  let script := s.session.script
  ({ result
     changed :=
       if s.isOwned then
         some (feed.phase.changedSince s.seen.1, feed.revision.changedSince s.seen.2)
       else none
     phase := feed.phase.value
     revision := feed.revision.value
     snapshotCalls := script.snapshotRequests.length
     attempts := script.attempts
     held := script.connections.map fun c => if c.isOpen then some c.isHeld else none
     view := s.view },
   { s with seen := (feed.phase.version, feed.revision.version) })

/-- A step, the work that it makes ready, and what can be seen then. -/
def advance (s : Scenario) (step : Step) : Observation × Scenario :=
  let (result, s) := s.act step
  observe { s with session := s.session.settle precedence } result

/-- All steps of a scenario. -/
def run (s : Scenario) : List Step → List Observation × Scenario
  | [] => ([], s)
  | step :: steps =>
    let (observation, s) := s.advance step
    let (observations, s) := run s steps
    (observation :: observations, s)

end Scenario

end ActivityFeed
