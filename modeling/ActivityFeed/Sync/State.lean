import ActivityFeed.Text.Quoted

/-!
# What a synchronizer reports

The phase of its connection, the outcome of its snapshot, and its counters.
-/

namespace ActivityFeed

/-- The phase of the connection. -/
inductive Phase where
  /-- No connection; waiting to become eligible. -/
  | idle
  /-- A request for the stream is out. -/
  | connecting
  /-- The stream is open. -/
  | streaming
  /-- Waiting before the next attempt, or for eligibility after that. -/
  | backingOff
  /-- Torn down for good. -/
  | stopped
deriving DecidableEq, Repr, Inhabited

namespace Phase

/-- Whether an attempt to connect or a connection exists. -/
def isActive : Phase → Bool
  | .connecting | .streaming => true
  | _ => false

/-- Whether records arrive. -/
def isLive : Phase → Bool
  | .streaming => true
  | _ => false

/-- The name of a phase. -/
def name : Phase → String
  | .idle => "idle"
  | .connecting => "connecting"
  | .streaming => "streaming"
  | .backingOff => "backing-off"
  | .stopped => "stopped"

/-- The name of a phase in diagnostics. -/
def describe : Phase → String
  | .idle => "Idle"
  | .connecting => "Connecting"
  | .streaming => "Streaming"
  | .backingOff => "BackingOff"
  | .stopped => "Stopped"

end Phase

/-- The outcome of the snapshot. -/
inductive SnapshotStatus where
  /-- Not there yet. -/
  | pending
  /-- It had `count` records. -/
  | loaded (count : Nat)
  | failed (message : String)
deriving DecidableEq, Repr, Inhabited

/-- An outcome in diagnostics. -/
def SnapshotStatus.describe : SnapshotStatus → String
  | .pending => "Pending"
  | .loaded count => "Loaded \x7b count: " ++ toString count ++ " \x7d"
  | .failed message => "Failed \x7b message: " ++ Text.quoted message ++ " \x7d"

/-- The counters of a synchronizer's life. -/
structure Stats where
  /-- Connections that reached the streaming phase. -/
  connectionsOpened : Nat
  /-- Records added to the store, those of the snapshot included. -/
  recordsMerged : Nat
  /-- Records whose identifier was held already. -/
  duplicatesRejected : Nat
  /-- Frames that should have been records and were none. -/
  framesDropped : Nat
  /-- Delays before another attempt. -/
  reconnectsScheduled : Nat
  /-- Octets of streams. -/
  octetsReceived : Nat
  /-- The last failure of a connection or of the snapshot. -/
  lastError : Option String
deriving DecidableEq, Repr, Inhabited

/-- The counters at the start. -/
def Stats.zero : Stats := ⟨0, 0, 0, 0, 0, 0, none⟩

end ActivityFeed
