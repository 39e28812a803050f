import ActivityFeed.BoardId
import ActivityFeed.Retry.Policy
import ActivityFeed.Text.Space

/-!
# Configuration

A `Config` says where a feed is served, what is asked for and how much is kept. `check` names the
first setting that is out of range.
-/

namespace ActivityFeed

/-- The settings of one feed. -/
structure Config where
  /-- The address of the server. -/
  baseUrl : String
  /-- The path of the feed on the server; the stream is at `/stream` below it. -/
  resource : String
  /-- How many records the snapshot asks for. -/
  snapshotLimit : Nat
  /-- How many records are kept. -/
  capacity : Nat
  /-- The type of the frames that carry records. -/
  recordEvent : String
  /-- The key under which a frame's data holds the record. -/
  envelope : Option String
  /-- The only board whose records are asked for. -/
  board : Option BoardId
  /-- The bearer token of every request. -/
  token : Option String
  /-- How long the snapshot may take. -/
  requestTimeout : Duration
  retry : RetryPolicy
deriving DecidableEq, Repr, Inhabited

namespace Config

/-- The path of the feed of task comments. -/
def defaultResource : String := "/api/v1/activity/task-comments"

/-- How many records are kept unless told otherwise. -/
def defaultCapacity : Nat := 200

/-- The address of a server on this machine. -/
def defaultBaseUrl : String := "http://127.0.0.1:8000"

/-- The largest number of records that a snapshot can ask for. -/
def maxLimit : Nat := 4294967295

/-- The feed of task comments of a server. -/
def new (baseUrl : String) : Config :=
  { baseUrl
    resource := defaultResource
    snapshotLimit := defaultCapacity
    capacity := defaultCapacity
    recordEvent := "comment"
    envelope := some "comment"
    board := none
    token := none
    requestTimeout := .ofSeconds 30
    retry := .standard }

/-- Keeps, and asks for, a number of records. -/
def withCapacity (c : Config) (capacity : Nat) : Config :=
  { c with capacity, snapshotLimit := min capacity maxLimit }

/-- The first setting that is out of range. -/
def check (c : Config) : Except Failure Unit :=
  if Text.isBlank c.baseUrl then .error (.config "base_url" "must not be empty")
  else if c.resource.toList.head? != some '/' then
    .error (.config "resource" "must start with '/'")
  else if c.capacity = 0 then .error (.config "capacity" "must be > 0")
  else if c.snapshotLimit = 0 then .error (.config "snapshot_limit" "must be > 0")
  else if Text.isBlank c.recordEvent then .error (.config "record_event" "must not be empty")
  else if c.requestTimeout.nanos = 0 then .error (.config "request_timeout" "must be > 0")
  else c.retry.check

/-- Where the snapshot is. -/
def snapshotUrl (c : Config) : String :=
  String.ofList ((c.baseUrl.toList.reverse.dropWhile (· == '/')).reverse ++ c.resource.toList)

/-- Where the stream is. -/
def streamUrl (c : Config) : String :=
  c.snapshotUrl ++ "/stream"

end Config

end ActivityFeed
