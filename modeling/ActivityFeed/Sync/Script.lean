import ActivityFeed.BoardId
import ActivityFeed.Failure
import ActivityFeed.Page

/-!
# Scripted servers

A script is a server whose answers are laid out in advance: what the snapshot gives and after which
delay, how requests for the stream are answered in turn, and what each accepted connection delivers.
A connection goes on delivering after its reader's attempt has been cancelled; that nobody reads it
then is the reader's affair.
-/

namespace ActivityFeed

/-- What the reader of a connection gets. -/
inductive Delivery where
  | chunk (octets : List UInt8)
  | failure (cause : Failure)
deriving DecidableEq, Repr, Inhabited

/-- One accepted connection. -/
structure Connection where
  /-- What has been delivered and not been read. -/
  unread : List Delivery
  /-- Whether more may be delivered. -/
  isOpen : Bool
  /-- Whether somebody holds the reading end, or may still come to hold it. -/
  isHeld : Bool
deriving DecidableEq, Repr, Inhabited

/-- The answer to a request for the stream. -/
inductive Answer where
  /-- The connection of the given number. -/
  | accept (connection : Nat)
  | reject (message : String) (status : Option Nat)
deriving DecidableEq, Repr, Inhabited

/-- One request for the stream. -/
structure Attempt where
  /-- The newest record that the reader holds. -/
  since : Option Instant
  /-- Whether the reader has given the attempt up, or it has ended. -/
  isCancelled : Bool
  /-- Whether it was answered from the list of answers and not by a prepared failure. -/
  isScripted : Bool
deriving DecidableEq, Repr, Inhabited

/-- One request for the snapshot. -/
structure SnapshotRequest where
  limit : Nat
  board : Option BoardId
deriving DecidableEq, Repr, Inhabited

/-- A server and what has happened to it. -/
structure Script where
  /-- What the snapshot gives. -/
  snapshot : Except Failure Page
  /-- Milliseconds that the snapshot takes. -/
  snapshotDelay : Nat
  snapshotRequests : List SnapshotRequest
  /-- Failures of the next requests for the stream, before any answer is used. -/
  prepared : List Failure
  /-- Answers to the requests after those. -/
  answers : List Answer
  connections : List Connection
  /-- All requests for the stream, oldest first. -/
  attempts : List Attempt

namespace Script

/-- A server with an empty snapshot, which leaves requests for the stream unanswered. -/
def empty : Script := ⟨.ok .empty, 0, [], [], [], [], []⟩

/-- The script with one connection changed. -/
def modifyConnection (s : Script) (n : Nat) (change : Connection → Connection) : Script :=
  { s with connections := s.connections.modify n change }

/-- Answers the next open request by a new connection. -/
def connect (s : Script) : Script :=
  { s with
    connections := s.connections ++ [⟨[], true, true⟩]
    answers := s.answers ++ [.accept s.connections.length] }

/-- Answers the next open request by a rejection. -/
def reject (s : Script) (message : String) (status : Option Nat) : Script :=
  { s with answers := s.answers ++ [.reject message status] }

/-- Delivers something on a connection, and says whether somebody may still read it; nothing if the
connection is closed. -/
def deliver (s : Script) (n : Nat) (d : Delivery) : Option Bool × Script :=
  match s.connections[n]? with
  | none => (none, s)
  | some c =>
    if !c.isOpen then (none, s)
    else if !c.isHeld then (some false, s)
    else (some true, s.modifyConnection n fun c => { c with unread := c.unread ++ [d] })

/-- Ends what a connection delivers. -/
def close (s : Script) (n : Nat) : Script :=
  s.modifyConnection n fun c => { c with isOpen := false }

/-- The reading end of a connection is given up. -/
def abandon (s : Script) (n : Nat) : Script :=
  s.modifyConnection n fun c => { c with unread := [], isHeld := false }

/-- Cancels the newest attempt, which leaves those before it as they are. -/
def cancelNewest (s : Script) : Script :=
  { s with
    attempts := s.attempts.modify (s.attempts.length - 1) fun a => { a with isCancelled := true } }

/-- Cancels every attempt. -/
def cancelAttempts (s : Script) : Script :=
  { s with attempts := s.attempts.map fun a => { a with isCancelled := true } }

/-- The attempts that were answered from the list of answers. -/
def scripted (s : Script) : List Attempt :=
  s.attempts.filter (·.isScripted)

/-- The state of a script in diagnostics. -/
def describe (s : Script) : String :=
  "MockTransport \x7b snapshot_calls: " ++ toString s.snapshotRequests.length
    ++ ", stream_opens: " ++ toString s.scripted.length
    ++ ", queued: " ++ toString s.answers.length ++ " \x7d"

end Script

end ActivityFeed
