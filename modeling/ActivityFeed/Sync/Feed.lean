import ActivityFeed.Config
import ActivityFeed.Frame.Decoder
import ActivityFeed.Page
import ActivityFeed.Retry.Backoff
import ActivityFeed.Store
import ActivityFeed.Sync.State
import ActivityFeed.Visibility

/-!
# The view of a feed

A `Feed` is what a synchronizer keeps for its views: the store, the phase of the connection, the
outcome of the snapshot and the counters. This module says what a snapshot, a chunk of the stream
and each turn of the connection do to it; `Sync.Session` says when they happen.

A feed never leaves the phase `stopped`.
-/

namespace ActivityFeed

/-- The state that views of a feed see. -/
structure Feed where
  config : Config
  store : Store
  phase : Watched Phase
  /-- Changes whenever the records or the outcome of the snapshot change. -/
  revision : Watched Nat
  snapshot : SnapshotStatus
  stats : Stats
deriving DecidableEq, Repr, Inhabited

namespace Feed

/-- A feed to which nothing has happened. -/
def new (config : Config) : Feed :=
  { config
    store := .empty config.capacity
    phase := .new .idle
    revision := .new 0
    snapshot := .pending
    stats := .zero }

/-- Enters a phase, unless the feed has stopped. -/
def enter (f : Feed) (phase : Phase) : Feed :=
  if f.phase.value = .stopped then f else { f with phase := f.phase.set phase }

/-- Tells the views that records or snapshot changed. -/
def bump (f : Feed) : Feed :=
  { f with revision := f.revision.put (f.revision.value + 1) }

/-- Notes a failure. -/
def noteError (f : Feed) (cause : Failure) : Feed :=
  { f with stats := { f.stats with lastError := some cause.message } }

/-- The outcome of the snapshot. -/
def loadSnapshot (f : Feed) (result : Except Failure Page) : Feed :=
  match result with
  | .ok page =>
    let (added, store) := f.store.seed page.items
    bump
      { f with
        store
        stats := { f.stats with recordsMerged := f.stats.recordsMerged + added }
        snapshot := .loaded page.items.length }
  | .error cause => bump { f.noteError cause with snapshot := .failed cause.message }

/-- Applies one frame of the stream. Frames of other types than the one that carries records do
nothing; a record counts as added only if the store keeps it. -/
def applyFrame (f : Feed) (frame : Frame) : Feed :=
  if frame.event ≠ f.config.recordEvent then f
  else
    match Record.ofPayload frame.data f.config.envelope with
    | .error _ => { f with stats := { f.stats with framesDropped := f.stats.framesDropped + 1 } }
    | .ok record =>
      if f.store.contains record.id then
        { f with
          stats := { f.stats with duplicatesRejected := f.stats.duplicatesRejected + 1 } }
      else
        let (kept, store) := f.store.merge record
        if kept then
          bump
            { f with
              store
              stats := { f.stats with recordsMerged := f.stats.recordsMerged + 1 } }
        else { f with store }

/-- Applies a chunk of the stream that is not empty: its frames in order. -/
def applyChunk (f : Feed) (octets : List UInt8) (frames : List Frame) : Feed :=
  frames.foldl applyFrame
    { f with stats := { f.stats with octetsReceived := f.stats.octetsReceived + octets.length } }

/-- The stream is open. -/
def noteOpened (f : Feed) : Feed :=
  enter
    { f with stats := { f.stats with connectionsOpened := f.stats.connectionsOpened + 1 } }
    .streaming

/-- A delay before another attempt begins. -/
def noteRetry (f : Feed) : Feed :=
  enter
    { f with stats := { f.stats with reconnectsScheduled := f.stats.reconnectsScheduled + 1 } }
    .backingOff

/-- The state of a feed in diagnostics. -/
def describe (f : Feed) : String :=
  "FeedSynchronizer \x7b state: " ++ f.phase.value.describe
    ++ ", records: " ++ toString f.store.entries.length
    ++ ", snapshot: " ++ f.snapshot.describe ++ " \x7d"

end Feed

end ActivityFeed
