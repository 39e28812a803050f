import ActivityFeed.Sync.Feed
import ActivityFeed.Sync.Script
import ActivityFeed.Visibility

/-!
# Running a synchronizer

A `Session` is a synchronizer together with its surroundings: a clock, the visibility of its view,
a scripted server, and the chance that disturbs its retry delays. Two activities share the work of
a started synchronizer. The `Loader` reads the snapshot once. The `Link` holds at most one
connection at a time:

* it waits until the view is eligible and requests the stream from the newest record that is held;
* it reads the stream while the view stays eligible, and gives the connection up otherwise;
* after a connection that failed, was rejected or was closed, it waits for the retry delay, whose
  growth starts anew with every chunk that is not empty, and of which chance may draw any length
  that the policy admits;
* after one that the server cancelled, it waits until eligibility is lost and comes back.

`step?` does one piece of work that is ready, and `settle` does all of it without moving the clock;
the two activities take turns in which of them goes first. Where a signal and the stream are ready
at once, either may come first: `Precedence` chooses.
-/

namespace ActivityFeed

-- The zero of a sum is the numeral, whatever else is in scope.
attribute [local instance (2000)] Zero.ofOfNat0

/-- Where the reading of the snapshot stands. -/
inductive Loader where
  /-- The request is to be sent. -/
  | ready
  /-- The answer comes at a time of the clock. -/
  | pending (due : Nat)
  | done
deriving DecidableEq, Repr, Inhabited

/-- Where the holding of a connection stands. -/
inductive Link where
  /-- Waits to become eligible. -/
  | parked
  /-- A request is out. -/
  | opening
  /-- Reads a connection with the decoder of that connection. -/
  | reading (connection : Nat) (decoder : Decoder)
  /-- Waits for a time of the clock. -/
  | resting (due : Nat)
  /-- Cancelled by the server: waits to become ineligible. -/
  | released
deriving DecidableEq, Repr, Inhabited

/-- Whether a synchronizer works. -/
inductive Task where
  | unstarted
  | running (loader : Loader) (link : Link)
  | ended
deriving DecidableEq, Repr, Inhabited

/-- What comes first if the view is no longer eligible and the stream is ready. -/
inductive Precedence where
  | signals
  | stream
deriving DecidableEq, Repr, Inhabited

/-- A synchronizer and its surroundings. -/
structure Session where
  /-- Milliseconds since the start. -/
  clock : Nat
  visibility : Visibility
  /-- Whether the host still tells about its view; its last word is final otherwise. -/
  hasHost : Bool
  script : Script
  feed : Feed
  /-- Failures in a row. -/
  backoff : Backoff
  /-- What chance has drawn for the next retry delay. -/
  drawn : Duration
  task : Task
  /-- Whether the link goes before the loader when they work next. -/
  linkFirst : Bool
  /-- Whether the host has told the link something since it worked last. -/
  isStirred : Bool

namespace Session

/-- A synchronizer to which nothing has happened. Chance has drawn nothing, which is no draw of any
delay. -/
def initial (config : Config) (visibility : Visibility) : Session :=
  { clock := 0
    visibility
    hasHost := true
    script := .empty
    feed := .new config
    backoff := .new config.retry
    drawn := ⟨0⟩
    task := .unstarted
    linkFirst := false
    isStirred := false }

/-- A synchronizer that has not been started; settings out of range are refused. -/
def new (config : Config) (visibility : Visibility) : Except Failure Session := do
  config.check
  return initial config visibility

/-- Whether the synchronizer has been torn down. -/
def isStopped (s : Session) : Bool :=
  s.feed.phase.value = .stopped

/-! ## What views and hosts do -/

/-- Starts the work. Starting twice does nothing, and what has stopped does not start. -/
def start (s : Session) : Except Failure Session :=
  if s.isStopped then .error .stopped
  else
    match s.task with
    | .unstarted => .ok { s with task := .running .ready .parked }
    | _ => .ok s

/-- Gives up the connection that is being read. -/
def dropConnection (s : Session) : Session :=
  match s.task with
  | .running _ (.reading connection _) => { s with script := s.script.abandon connection }
  | _ => s

/-- Tears the synchronizer down: every attempt is cancelled, no work is left. -/
def stop (s : Session) : Session :=
  let s := s.dropConnection
  { s with
    script := s.script.cancelAttempts
    feed := s.feed.enter .stopped
    task := .ended }

/-- Whether the link waits for the view to become eligible or to stop being so. It does not while it
waits for a time of the clock. -/
def heedsHost (s : Session) : Bool :=
  match s.task with
  | .running _ (.resting _) => false
  | .running _ _ => true
  | _ => false

/-- A signal of the host. -/
def signal (s : Session) (signal : Signal) : Session :=
  if s.hasHost then
    let visibility := s.visibility.receive signal
    let isChanged := visibility.eligible.changedSince s.visibility.eligible.version
    { s with visibility, isStirred := s.isStirred || (isChanged && s.heedsHost) }
  else s

/-- The host falls silent. -/
def dropHost (s : Session) : Session :=
  { s with hasHost := false, isStirred := s.isStirred || (s.hasHost && s.heedsHost) }

/-- Chance draws the next retry delay. -/
def draw (s : Session) (drawn : Duration) : Session :=
  { s with drawn }

/-- Whether a connection may be held. -/
def isEligible (s : Session) : Bool :=
  s.visibility.eligible.value

/-! ## The snapshot -/

/-- The answer to the request for the snapshot. -/
def completeSnapshot (s : Session) (link : Link) : Session :=
  { s with feed := s.feed.loadSnapshot s.script.snapshot, task := .running .done link }

/-- Sends the request for the snapshot. -/
def requestSnapshot (s : Session) (link : Link) : Session :=
  let request : SnapshotRequest := ⟨s.feed.config.snapshotLimit, s.feed.config.board⟩
  let s := { s with
    script := { s.script with snapshotRequests := s.script.snapshotRequests ++ [request] } }
  if s.script.snapshotDelay = 0 then s.completeSnapshot link
  else { s with task := .running (.pending (s.clock + s.script.snapshotDelay)) link }

/-- One piece of work on the snapshot, if one is ready. -/
def loaderStep? (s : Session) (loader : Loader) (link : Link) : Option Session :=
  match loader with
  | .ready => some (s.requestSnapshot link)
  | .pending due => if due ≤ s.clock then some (s.completeSnapshot link) else none
  | .done => none

/-! ## The connection -/

/-- How an attempt ended. -/
inductive Ending where
  /-- Cancelled by the server; no failure. -/
  | aborted
  /-- The stream came to its end. -/
  | closed
  | failed (cause : Failure)
deriving DecidableEq, Repr, Inhabited

/-- How an attempt ended that a failure ended. -/
def Ending.ofFailure (cause : Failure) : Ending :=
  if cause.isAbort then .aborted else .failed cause

/-- The delay before another attempt, disturbed as chance has drawn. -/
def delay (s : Session) : Duration :=
  s.backoff.next.1.actual s.drawn

/-- Waits for the delay before another attempt. -/
def rest (s : Session) (loader : Loader) : Session :=
  { s with
    feed := s.feed.noteRetry
    backoff := s.backoff.next.2
    task := .running loader (.resting (s.clock + s.delay.ceilMillis)) }

/-- Ends the attempt. -/
def endAttempt (s : Session) (loader : Loader) (ending : Ending) : Session :=
  let s := s.dropConnection
  let s := { s with script := s.script.cancelNewest }
  match ending with
  | .aborted => { s with feed := s.feed.enter .idle, task := .running loader .released }
  | .closed => s.rest loader
  | .failed cause => rest { s with feed := s.feed.noteError cause } loader

/-- Gives the attempt up because the view is no longer eligible. -/
def release (s : Session) (loader : Loader) : Session :=
  let s := s.dropConnection
  { s with
    script := s.script.cancelNewest
    feed := s.feed.enter .idle
    task := .running loader .parked }

/-- Requests the stream from the newest record on. -/
def openStream (s : Session) (loader : Loader) : Session :=
  let s := { s with feed := s.feed.enter .connecting }
  let since := s.feed.store.latest
  match s.script.prepared with
  | cause :: prepared =>
    let attempts := s.script.attempts ++ [⟨since, false, false⟩]
    endAttempt { s with script := { s.script with prepared, attempts } } loader
      (.ofFailure cause)
  | [] =>
    let attempts := s.script.attempts ++ [⟨since, false, true⟩]
    { s with script := { s.script with attempts }, task := .running loader .opening }

/-- Takes the answer to the request that is out, if there is one. -/
def takeAnswer? (s : Session) (loader : Loader) : Option Session :=
  match s.script.answers with
  | [] => none
  | .accept connection :: answers =>
    some
      { s with
        script := { s.script with answers }
        feed := s.feed.noteOpened
        task := .running loader (.reading connection .fresh) }
  | .reject message status :: answers =>
    some (endAttempt { s with script := { s.script with answers } } loader
      (.failed (.connect message status true)))

/-- Applies a chunk. An empty one does nothing, not even to the retry delays. -/
def applyChunk (s : Session) (loader : Loader) (connection : Nat) (decoder : Decoder)
    (octets : List UInt8) : Session :=
  if octets.isEmpty then s
  else
    let (frames, decoder) := decoder.push octets
    { s with
      feed := s.feed.applyChunk octets frames
      backoff := s.backoff.reset
      task := .running loader (.reading connection decoder) }

/-- Reads what the connection delivers next, if there is something. -/
def readNext? (s : Session) (loader : Loader) (connection : Nat) (decoder : Decoder) :
    Option Session :=
  match s.script.connections[connection]? with
  | none => none
  | some c =>
    match c.unread with
    | [] => if c.isOpen then none else some (s.endAttempt loader .closed)
    | delivery :: unread =>
      let s := { s with
        script := s.script.modifyConnection connection fun c => { c with unread } }
      match delivery with
      | .chunk octets => some (s.applyChunk loader connection decoder octets)
      | .failure cause => some (s.endAttempt loader (.ofFailure cause))

/-- The first of two pieces of work that is ready, in an order of precedence. -/
def Precedence.pick (p : Precedence) (signals stream : Option Session) : Option Session :=
  match p with
  | .signals => signals.orElse fun _ => stream
  | .stream => stream.orElse fun _ => signals

/-- One piece of work on the connection, if one is ready. -/
def linkStep? (p : Precedence) (s : Session) (loader : Loader) (link : Link) : Option Session :=
  let lost := if s.isEligible then none else some (s.release loader)
  match link with
  | .parked => if s.isEligible then some (s.openStream loader) else none
  | .opening => Precedence.pick p lost (s.takeAnswer? loader)
  | .reading connection decoder =>
    Precedence.pick p lost (s.readNext? loader connection decoder)
  | .resting due =>
    if due ≤ s.clock then some { s with task := .running loader .parked } else none
  | .released =>
    if s.isEligible then none else some { s with task := .running loader .parked }

/-! ## Running -/

/-- One piece of work that is ready. -/
def step? (p : Precedence) (s : Session) : Option Session :=
  match s.task with
  | .running loader link =>
    if s.linkFirst then (s.linkStep? p loader link).orElse fun _ => s.loaderStep? loader link
    else (s.loaderStep? loader link).orElse fun _ => s.linkStep? p loader link
  | _ => none

/-- More pieces of work than can be ready before the clock moves on: what has been delivered or
answered and not been taken, and a few turns around each. -/
def workload (s : Session) : Nat :=
  let unread := (s.script.connections.map fun c => c.unread.length + 1).sum
  4 * (unread + s.script.answers.length + s.script.prepared.length) + 8

/-- At most `n` pieces of work. -/
def runSteps (p : Precedence) : Nat → Session → Session
  | 0, s => s
  | n + 1, s =>
    match s.step? p with
    | some s => runSteps p n s
    | none => s

/-- Whether the activities have a reason to look for work. -/
def isRoused (p : Precedence) (s : Session) : Bool :=
  s.isStirred || (s.step? p).isSome

/-- All the work that is ready. -/
def settle (p : Precedence) (s : Session) : Session :=
  if s.isRoused p then
    { runSteps p s.workload s with linkFirst := !s.linkFirst, isStirred := false }
  else s

/-- The next time at which work becomes ready by itself. -/
def nextDue (s : Session) : Option Nat :=
  match s.task with
  | .running (.pending a) (.resting b) => some (min a b)
  | .running (.pending a) _ => some a
  | .running _ (.resting b) => some b
  | _ => none

/-- Moves the clock to a time, stopping at most `n` times for work that becomes ready on the
way. -/
def moveClock (p : Precedence) : Nat → Nat → Session → Session
  | 0, target, s => { s.settle p with clock := target }
  | n + 1, target, s =>
    let s := s.settle p
    match s.nextDue with
    | some due =>
      if s.clock < due && due < target then moveClock p n target { s with clock := due }
      else { s with clock := target }
    | none => { s with clock := target }

/-- Lets time pass. Work that becomes ready on the way is done at its time; what becomes ready at
the end is left to be done, and if no time passes nothing is done at all. -/
def advance (p : Precedence) (s : Session) (millis : Nat) : Session :=
  if millis = 0 then s else moveClock p millis (s.clock + millis) s

end Session

end ActivityFeed
