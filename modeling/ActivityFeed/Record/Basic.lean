import ActivityFeed.Instant.Text
import ActivityFeed.Json.Reader
import ActivityFeed.Json.Writer
import ActivityFeed.Record.Error

/-!
# Records

A record is one event of the feed. Its identifier alone decides which records are the same event.
Members of a payload that a record does not model are kept as they are and written back.

* `Record.ofJson` checks a value: first that it is an object, then its identifier, its creation time
  and its text members, in that order.
* `Record.ofPayload` reads the payload of a frame, in which a record may be wrapped in an envelope.
* `Record.members` and `Record.text` write a record.
-/

namespace ActivityFeed

/-- One event of the feed. -/
structure Record where
  id : String
  createdAt : Instant
  message : Option String
  agentId : Option String
  agentName : Option String
  agentRole : Option String
  taskId : Option String
  taskTitle : Option String
  boardId : Option String
  boardName : Option String
  /-- The members that are not modelled, sorted by key. -/
  extra : Json.Members
deriving DecidableEq, Repr, Inhabited

namespace Record

/-- A record with an identifier and a creation time only. -/
def new (id : String) (createdAt : Instant) : Record :=
  ⟨id, createdAt, none, none, none, none, none, none, none, none, []⟩

/-! ## Reading -/

/-- The identifier that a member denotes: text without the white space around it, or the digits of
a whole number. -/
def identifier (value : Option Json) : Except PayloadError String :=
  match value with
  | none => .error (.invalidIdentifier .missing)
  | some (.string raw) =>
    let id := Text.trimmed raw
    if id.isEmpty then .error (.invalidIdentifier .empty) else .ok id
  | some (.number (.integer n)) => .ok (String.ofList (Json.integerText n))
  | some other => .error (.invalidIdentifier (.unsupported other))

/-- The instant that a timestamp denotes. -/
def timestamp (raw : String) : Except PayloadError Instant :=
  match Instant.ofText? raw with
  | some t => .ok t
  | none => .error (.invalidTimestamp raw)

/-- The instant that a member denotes. -/
def creationTime (value : Option Json) : Except PayloadError Instant :=
  match value with
  | none => .error (.malformed .missingCreationTime)
  | some (.string raw) => timestamp raw
  | some other => .error (.invalidTimestamp other.compact)

/-- The text of a member that may be absent: null counts as absent, a number as its text. -/
def textMember (members : Json.Members) (key : String) : Except PayloadError (Option String) :=
  match members.lookup key with
  | none => .ok none
  | some .null => .ok none
  | some (.string s) => .ok (some s)
  | some (.number n) => .ok (some (String.ofList n.text))
  | some other => .error (.malformed (.textExpected key other))

/-- The keys of the text members, in the order in which they are checked and written. -/
def textKeys : List String :=
  ["message", "agent_id", "agent_name", "agent_role", "task_id", "task_title", "board_id",
    "board_name"]

/-- The keys of all modelled members. -/
def modelledKeys : List String :=
  "id" :: "created_at" :: textKeys

/-- The record of an object's members. -/
def ofMembers (members : Json.Members) : Except PayloadError Record := do
  let id ← identifier (members.lookup "id")
  let createdAt ← creationTime (members.lookup "created_at")
  let message ← textMember members "message"
  let agentId ← textMember members "agent_id"
  let agentName ← textMember members "agent_name"
  let agentRole ← textMember members "agent_role"
  let taskId ← textMember members "task_id"
  let taskTitle ← textMember members "task_title"
  let boardId ← textMember members "board_id"
  let boardName ← textMember members "board_name"
  let extra := members.filter fun m => !modelledKeys.contains m.1
  return ⟨id, createdAt, message, agentId, agentName, agentRole, taskId, taskTitle, boardId,
    boardName, extra⟩

/-- The record that a value denotes. -/
def ofJson : Json → Except PayloadError Record
  | .object members => ofMembers members
  | _ => .error .notAnObject

/-- The value inside an envelope: the member of an object with the given key, if there is one. -/
def unwrap (envelope : Option String) (value : Json) : Json :=
  match envelope, value with
  | some key, .object members => (members.lookup key).getD value
  | _, _ => value

/-- The record of a payload, which may be wrapped in an envelope. -/
def ofPayload (payload : String) (envelope : Option String) : Except PayloadError Record :=
  match Json.parseText payload with
  | .error fault => .error (.invalidJson fault)
  | .ok value => ofJson (unwrap envelope value)

/-- Why a text is no record by itself: its own flaw, or that it is no JSON text. -/
inductive TextError where
  | notJson (fault : Json.Fault)
  | refused (error : PayloadError)
deriving DecidableEq, Repr, Inhabited

/-- The wording of an error. -/
def TextError.message : TextError → String
  | .notJson fault => fault.message
  | .refused error => error.message

/-- The record of a text that holds one and nothing else. What follows the record is looked at only
after the record has been accepted. -/
def ofText (text : String) : Except TextError Record :=
  match Json.read (Text.Utf8.ofString text) with
  | .error fault => .error (.notJson fault)
  | .ok reading =>
    match ofJson reading.value.canonical with
    | .error error => .error (.refused error)
    | .ok record =>
      match reading.check with
      | .error fault => .error (.notJson fault)
      | .ok () => .ok record

/-! ## Writing -/

/-- The texts of a record, in the order of `textKeys`. -/
def texts (r : Record) : List (Option String) :=
  [r.message, r.agentId, r.agentName, r.agentRole, r.taskId, r.taskTitle, r.boardId, r.boardName]

/-- The members of a record: identifier, creation time, the texts it has, and the rest. -/
def members (r : Record) : Json.Members :=
  ("id", .string r.id) :: ("created_at", .string r.createdAt.text)
    :: ((textKeys.zip r.texts).filterMap fun (key, text) => text.map fun t => (key, .string t))
    ++ r.extra

/-- A record as a value. -/
def toJson (r : Record) : Json :=
  .object r.members

/-- The compact text of a record. -/
def text (r : Record) : String :=
  r.toJson.compact

end Record

end ActivityFeed
