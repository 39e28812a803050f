import ActivityFeed.Http.Request
import ActivityFeed.Page
import ActivityFeed.Text.Utf8

/-!
# Exchanges

What a server answers, and what becomes of it: the snapshot is one page, and the stream is a body
that is read chunk by chunk until it ends, breaks off, or is cancelled. An answer of failure is
described by its status and the beginning of its body.

The snapshot has to be there, with all of its body, before a deadline. The stream has none, so that
whoever asks for it waits as long as the server holds the connection.
-/

namespace ActivityFeed.Http

/-- How the body of a response ends. -/
inductive Ending where
  | complete
  /-- Before the announced length. -/
  | cutOff
  /-- Not at all: the server holds the connection. -/
  | held
deriving DecidableEq, Repr, Inhabited

/-- A response. -/
structure Response where
  status : Nat
  chunks : List (List UInt8)
  ending : Ending
deriving DecidableEq, Repr, Inhabited

/-- What comes back for a request. -/
inductive Reply where
  /-- Nobody listens. -/
  | unreachable
  /-- The connection is closed without a response. -/
  | hungUp
  | response (r : Response)
deriving DecidableEq, Repr, Inhabited

/-- The wording of a body that broke off, or was not there in time. -/
def cutOffText : String := "error decoding response body"

namespace Response

/-- Whether a status says that there is no body. -/
def hasNoBody (status : Nat) : Bool := status = 204 || status = 304

/-- The response that a status, a body and its end make. -/
def new (status : Nat) (chunks : List (List UInt8)) (ending : Ending) : Response :=
  if hasNoBody status then ⟨status, [], .complete⟩ else ⟨status, chunks, ending⟩

/-- Whether the response is what was asked for. -/
def isSuccess (r : Response) : Bool := 200 ≤ r.status && r.status ≤ 299

/-- Whether the same request may succeed later. -/
def isTransient (r : Response) : Bool :=
  (500 ≤ r.status && r.status ≤ 599) || r.status = 429 || r.status = 408

/-- The body of a response. -/
def body (r : Response) : List UInt8 := r.chunks.flatten

/-- The text of a body; one that does not come to its end has none. -/
def bodyText (r : Response) : List Char :=
  if r.ending = .complete then Text.Utf8.decode r.body else []

/-- The most octets of a body that are shown. -/
def shownOctets : Nat := 200

/-- The beginning of a text that is shown: as much of it as fits, to the last place where it can be
cut. -/
def excerpt? (text : List Char) : Option (List Char) :=
  let octets := Text.Utf8.encode text
  (Text.Utf8.boundaryUpTo? octets (min octets.length shownOctets)).bind (Text.Utf8.upTo? · text)

/-- What is said of a failure with a status and the text of a body. Every text has an excerpt. -/
def failureText (status : Nat) (body : List Char) : String :=
  let text := Text.trim body
  if text.isEmpty then "HTTP " ++ toString status
  else "HTTP " ++ toString status ++ ": " ++ String.ofList ((excerpt? text).getD [])

/-- What is said of a response with a status of failure. -/
def describe (r : Response) : String :=
  failureText r.status r.bodyText

end Response

/-- The response to a request, or why there is none. -/
def send (request : Except RequestFlaw Request) (reply : Request → Reply) :
    Except String Response :=
  match request with
  | .error flaw => .error flaw.message
  | .ok request =>
    match reply request with
    | .response r => .ok r
    | _ => .error ("error sending request for url (" ++ request.url.text ++ ")")

/-! ## The snapshot -/

/-- The page of a response. A body that is held is not there before the deadline, and fails like one
that breaks off. -/
def page (r : Response) : Except Failure Page :=
  if !r.isSuccess then .error (.snapshot r.describe (some r.status))
  else if r.ending ≠ .complete then
    .error (.snapshot ("reading body: " ++ cutOffText) (some r.status))
  else
    match Page.ofBody r.body with
    | .ok page => .ok page
    | .error error =>
      .error (.snapshot ("invalid snapshot body: " ++ error.message) (some r.status))

/-- Asks for the snapshot. -/
def fetchSnapshot (c : Config) (reply : Request → Reply) : Except Failure Page :=
  match send (Request.forSnapshot c) reply with
  | .error message => .error (.snapshot message none)
  | .ok r => page r

/-! ## The stream -/

/-- Asks for the stream from a record on. Nothing comes of it as long as the server holds the body
of an answer of failure, which is waited for. -/
def openStream (c : Config) (since : Option Instant) (reply : Request → Reply) :
    Option (Except Failure Response) :=
  match send (Request.forStream c since) reply with
  | .error message => some (.error (.connect message none true))
  | .ok r =>
    if r.isSuccess then some (.ok r)
    else if r.ending = .held then none
    else some (.error (.connect r.describe (some r.status) r.isTransient))

/-- What was read of a stream. -/
structure StreamRead where
  octets : List UInt8
  failure : Option Failure
  /-- Whether the reader cancelled it. -/
  isCancelled : Bool
deriving DecidableEq, Repr, Inhabited

/-- The failure with which a body ends. -/
def Ending.failure : Ending → Option Failure
  | .cutOff => some (.read cutOffText)
  | _ => none

/-- Whether a reader cancels once `count` octets have been read. -/
def isEnough (cancelAt : Option Nat) (count : Nat) : Bool :=
  cancelAt.any (· ≤ count)

/-- Reads chunks to their end, or until enough octets have been read. -/
def readChunks (ending : Ending) (cancelAt : Option Nat) (before : List UInt8) :
    List (List UInt8) → StreamRead
  | [] =>
    if isEnough cancelAt before.length then ⟨before, none, true⟩
    else ⟨before, ending.failure, false⟩
  | chunk :: rest =>
    if isEnough cancelAt before.length then ⟨before, none, true⟩
    else readChunks ending cancelAt (before ++ chunk) rest

/-- Reads the body of a stream, or as much of it as comes before it is cancelled. -/
def Response.read (r : Response) (cancelAt : Option Nat) : StreamRead :=
  readChunks r.ending cancelAt [] r.chunks

end ActivityFeed.Http
