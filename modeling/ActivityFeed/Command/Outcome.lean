import ActivityFeed.Command.Help
import ActivityFeed.Command.Lines
import ActivityFeed.Command.Tail
import ActivityFeed.Frame.Decoder

/-!
# Outcomes

What an invocation prints, how it ends, and which requests it sent, given what the server answers.
A setting out of range is found before any request is sent. An invocation that waits for a server
which holds the connection comes to what it has printed until then.

The frames of a stream are printed as its chunks complete them. With a limit, printing stops after
the frame that reaches it, and the rest of the stream is not read.
-/

namespace ActivityFeed.Command

namespace Dump

/-- Whether a number of frames is as many as were asked for. -/
def isReached (limit : Option Nat) (count : Nat) : Bool :=
  limit.any (· ≤ count)

/-- The frames that are printed of those of one chunk when `count` were printed before, and whether
the limit stops the printing. -/
def shown (limit : Option Nat) (count : Nat) : List Frame → List Frame × Bool
  | [] => ([], false)
  | f :: rest =>
    if isReached limit (count + 1) then ([f], true)
    else
      let (frames, stops) := shown limit (count + 1) rest
      (f :: frames, stops)

/-- The frames that are printed of a stream when `count` were printed before, and whether the limit
stops the printing. -/
def run (limit : Option Nat) (count : Nat) (d : Decoder) : List (List UInt8) → List Frame × Bool
  | [] => ([], false)
  | chunk :: rest =>
    let (frames, d) := d.push chunk
    let (front, stops) := shown limit count frames
    if stops then (front, true)
    else
      let (back, stops) := run limit (count + front.length) d rest
      (front ++ back, stops)

end Dump

/-- The answers of a server. -/
structure Server where
  snapshot : Http.Reply
  stream : Http.Reply
deriving DecidableEq, Repr, Inhabited

/-- What a run of the program comes to. -/
structure Outcome where
  /-- The code for the shell. -/
  exit : Nat
  output : String
  failure : Option Failure
  /-- The requests that reached the server. -/
  requests : List Http.Request
deriving DecidableEq, Repr, Inhabited

namespace Outcome

/-- Lines, each with its line feed. -/
def unlines (lines : List String) : String :=
  String.join (lines.map (· ++ "\n"))

/-- The end of a run that printed lines and perhaps failed. -/
def ofLines (lines : List String) (failure : Option Failure) (requests : List Http.Request) :
    Outcome :=
  { exit := if failure.isSome then 1 else 0
    output := unlines lines
    failure
    requests }

/-- The line about a failure. -/
def errorLine (cause : Failure) : String :=
  "Error: " ++ cause.describe

end Outcome

/-- The requests that reach a server which gives a reply. -/
def reaching (request : Except Http.RequestFlaw Http.Request) (reply : Http.Reply) :
    List Http.Request :=
  match request, reply with
  | .ok _, .unreachable => []
  | .ok request, _ => [request]
  | .error _, _ => []

/-- One record in a format. -/
def recordLine (format : Format) (r : Record) : String :=
  match format with
  | .text => r.line
  | .json => r.text

/-- One frame in a format. -/
def frameLine (format : Format) (f : Frame) : String :=
  match format with
  | .text => f.line
  | .json => f.toJson.compact

/-- A page in a format: for people its records that are kept, oldest first, and else one document
with them newest first. -/
def pageLines (format : Format) (capacity : Nat) (page : Page) : List String :=
  let records := ((Store.empty capacity).seed page.items).2.entries
  match format with
  | .text => records.reverse.map Record.line
  | .json =>
    let total : Json := match page.total with
      | some n => .number (.integer n)
      | none => .null
    [(Json.object
      [("total", total), ("rejected", .number (.integer page.rejected)),
        ("records", .array (records.map Record.toJson))]).indented]

/-- Prints the snapshot. -/
def runSnapshot (c : Config) (format : Format) (server : Server) : Outcome :=
  let requests := reaching (Http.Request.forSnapshot c) server.snapshot
  match Http.fetchSnapshot c fun _ => server.snapshot with
  | .error cause => .ofLines [] (some cause) requests
  | .ok page => .ofLines (pageLines format c.capacity page) none requests

/-- Prints the frames of the stream. -/
def runFrames (c : Config) (format : Format) (since : Option Instant) (limit : Option Nat)
    (server : Server) : Outcome :=
  let requests := reaching (Http.Request.forStream c since) server.stream
  match Http.openStream c since fun _ => server.stream with
  | none => .ofLines [] none requests
  | some (.error cause) => .ofLines [] (some cause) requests
  | some (.ok r) =>
    let (frames, stops) := Dump.run limit 0 .fresh r.chunks
    .ofLines (frames.map (frameLine format)) (if stops then none else r.ending.failure) requests

/-- Follows the feed until the answers of the server are used up. -/
def runTail (c : Config) (format : Format) (server : Server) : Outcome :=
  let page := Http.fetchSnapshot c fun _ => server.snapshot
  let stream := Http.openStream c none fun _ => server.stream
  match Tail.follow c page stream with
  | .error cause => .ofLines [] (some cause) []
  | .ok records => .ofLines (records.map (recordLine format)) none []

/-- What an invocation comes to. -/
def Invocation.outcome (i : Invocation) (server : Server) : Outcome :=
  match i.config.check with
  | .error cause => .ofLines [] (some cause) []
  | .ok () =>
    match i.job with
    | .tail => runTail i.config i.format server
    | .snapshot => runSnapshot i.config i.format server
    | .frames since limit => runFrames i.config i.format since limit server

/-- What arguments come to. -/
def Wish.outcome (w : Wish) (server : Server) : Outcome :=
  match w with
  | .run invocation => invocation.outcome server
  | .help request => ⟨0, request.text ++ "\n", none, []⟩
  | .version => ⟨0, versionText ++ "\n", none, []⟩
  | .misuse => ⟨2, "", none, []⟩

end ActivityFeed.Command
