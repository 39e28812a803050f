import ActivityFeed.Json.Fault
import ActivityFeed.Json.Writer
import ActivityFeed.Text.Quoted

/-!
# Why a payload is refused

A payload error says why wire text could not become a record or a page of records.
-/

namespace ActivityFeed

/-- Why an identifier is refused. -/
inductive IdentifierFlaw where
  | missing
  /-- Nothing but white space. -/
  | empty
  /-- Neither text nor a whole number. -/
  | unsupported (value : Json)
deriving DecidableEq, Repr, Inhabited

/-- The wording of a flaw. -/
def IdentifierFlaw.message : IdentifierFlaw → String
  | .missing => "missing"
  | .empty => "empty"
  | .unsupported value => "unsupported type: " ++ value.compact

/-- What is wrong with the shape of a record or a page. -/
inductive ShapeFlaw where
  /-- There is no creation time. -/
  | missingCreationTime
  /-- A member that has to be text is something else. -/
  | textExpected (field : String) (value : Json)
  /-- A page is neither a list nor an object with a list of items. -/
  | unexpectedBody
deriving DecidableEq, Repr, Inhabited

/-- The wording of a flaw. -/
def ShapeFlaw.message : ShapeFlaw → String
  | .missingCreationTime => "missing created_at"
  | .textExpected field value => "field " ++ field ++ " must be text, got " ++ value.compact
  | .unexpectedBody =>
    "unexpected snapshot body: data did not match any variant of untagged enum RawBody"

/-- Why a payload is refused. -/
inductive PayloadError where
  | invalidJson (fault : Json.Fault)
  | notAnObject
  | invalidIdentifier (flaw : IdentifierFlaw)
  /-- The creation time denotes no instant; `value` is its text. -/
  | invalidTimestamp (value : String)
  | malformed (flaw : ShapeFlaw)
deriving DecidableEq, Repr, Inhabited

namespace PayloadError

/-- The wording of an error. -/
def message : PayloadError → String
  | .invalidJson fault => "invalid JSON payload: " ++ fault.message
  | .notAnObject => "payload is not an object"
  | .invalidIdentifier flaw => "invalid record identifier: " ++ flaw.message
  | .invalidTimestamp value => "invalid timestamp " ++ Text.quoted value
  | .malformed flaw => "malformed record: " ++ flaw.message

/-- The structure of an error, spelled out for diagnostics. -/
def describe : PayloadError → String
  | .invalidJson fault =>
    "InvalidJson(Error(" ++ Text.quoted fault.reason.message ++ ", line: "
      ++ toString fault.position.line ++ ", column: " ++ toString fault.position.column ++ "))"
  | .notAnObject => "NotAnObject"
  | .invalidIdentifier flaw =>
    "InvalidIdentifier \x7b reason: " ++ Text.quoted flaw.message ++ " \x7d"
  | .invalidTimestamp value => "InvalidTimestamp \x7b value: " ++ Text.quoted value ++ " \x7d"
  | .malformed flaw => "MalformedRecord(" ++ Text.quoted flaw.message ++ ")"

end PayloadError

end ActivityFeed
