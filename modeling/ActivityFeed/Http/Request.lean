import ActivityFeed.Config
import ActivityFeed.Http.Url
import ActivityFeed.Instant.Text

/-!
# Requests

The snapshot and the stream are asked for by plain `GET` requests. A request is not even sent if
the configured address is none of the web, or if the token cannot stand in a header.
-/

namespace ActivityFeed.Http

/-- A request. -/
structure Request where
  url : Url
  /-- Names, in small letters, and values. -/
  headers : List (String × String)
deriving DecidableEq, Repr, Inhabited

/-- Why a request cannot be sent. -/
inductive RequestFlaw where
  /-- The address is none, or the token cannot stand in a header. -/
  | unreadable
  /-- The address is none to which requests go. -/
  | unusable (url : Url)
deriving DecidableEq, Repr, Inhabited

/-- The wording of a flaw. -/
def RequestFlaw.message : RequestFlaw → String
  | .unreadable => "builder error"
  | .unusable url => "builder error for url (" ++ url.text ++ ")"

namespace Request

/-- The first line of a request. -/
def line (r : Request) : String :=
  "GET " ++ r.url.target ++ " HTTP/1.1"

/-- What the program calls itself. -/
def userAgent : String := "livefeed/0.3.0"

/-- Whether an octet may stand in a header. -/
def isHeaderOctet (b : UInt8) : Bool :=
  (0x20 ≤ b && b != 0x7F) || b == 9

/-- The longest address that a request may have, in octets. -/
def maxUrlSize : Nat := 65534

/-- Signs that a host may have and that no request names. -/
def unsendable : List Char := ['"', '\x60', '\x7b', '\x7d']

/-- Whether requests can go to an address. -/
def isUsable (u : Url) : Bool :=
  (u.scheme = "http" || u.scheme = "https") && u.text.utf8ByteSize ≤ maxUrlSize
    && !u.host.any fun host => host.toList.any unsendable.contains

/-- The header for a token. -/
def tokenHeader (token : Option String) : Except RequestFlaw (List (String × String)) :=
  match token with
  | none => .ok []
  | some token =>
    if (Text.Utf8.ofString token).all isHeaderOctet then
      .ok [("authorization", "Bearer " ++ token)]
    else .error .unreadable

/-- The request for an address with names and values in its query. -/
def build (address : String) (token : Option String) (pairs headers : List (String × String)) :
    Except RequestFlaw Request :=
  match Url.ofText? address with
  | none => .error .unreadable
  | some url =>
    if !url.hasHost then .error (.unusable url)
    else do
      let authorization ← tokenHeader token
      let url := url.withoutCredentials.withPairs pairs
      if isUsable url then
        return ⟨url, authorization ++ headers ++ [("user-agent", userAgent)]⟩
      else .error (.unusable url)

/-- The name and value that ask for one board only. -/
def boardPair (board : Option BoardId) : List (String × String) :=
  (board.map fun b => ("board_id", b.text)).toList

/-- The request for the snapshot. -/
def forSnapshot (c : Config) : Except RequestFlaw Request :=
  build c.snapshotUrl c.token (("limit", toString c.snapshotLimit) :: boardPair c.board)
    [("accept", "application/json")]

/-- The request for the stream from a record on. -/
def forStream (c : Config) (since : Option Instant) : Except RequestFlaw Request :=
  build c.streamUrl c.token
    ((since.map fun t => ("since", t.cursor)).toList ++ boardPair c.board)
    [("accept", "text/event-stream"), ("cache-control", "no-cache")]

end Request

end ActivityFeed.Http
