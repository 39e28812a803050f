import ActivityFeed.Record.Error

/-!
# Failures of a feed

A failure says why a snapshot, a connection or the whole feed did not go on, whether another attempt
may help, and whether it is only the effect of a cancellation.
-/

namespace ActivityFeed

/-- Why something about a feed failed. -/
inductive Failure where
  /-- The snapshot could not be read; with the status of the answer, if there was one. -/
  | snapshot (message : String) (status : Option Nat)
  /-- The stream could not be opened. -/
  | connect (message : String) (status : Option Nat) (retryable : Bool)
  /-- The stream broke off. -/
  | read (message : String)
  /-- A frame is no record. -/
  | decode (error : PayloadError)
  /-- The attempt was cancelled. -/
  | aborted
  /-- A setting is out of range. -/
  | config (field reason : String)
  /-- The feed has been stopped. -/
  | stopped
deriving DecidableEq, Repr, Inhabited

namespace Failure

/-- The wording of a failure. -/
def message : Failure → String
  | .snapshot message _ => "snapshot fetch failed: " ++ message
  | .connect message _ _ => "stream connect failed: " ++ message
  | .read message => "stream read failed: " ++ message
  | .decode error => "stream decode failed: " ++ error.message
  | .aborted => "stream aborted"
  | .config field reason => "invalid config " ++ field ++ ": " ++ reason
  | .stopped => "synchronizer stopped"

/-- Whether another attempt may help. A snapshot that the server refused as the client's fault stays
refused. -/
def isRetryable : Failure → Bool
  | .connect _ _ retryable => retryable
  | .read _ => true
  | .snapshot _ (some status) => !(400 ≤ status && status ≤ 499)
  | .snapshot _ none => true
  | _ => false

/-- Whether the failure is the expected effect of a cancellation. -/
def isAbort : Failure → Bool
  | .aborted | .stopped => true
  | _ => false

/-- The status of the answer behind the failure. -/
def status : Failure → Option Nat
  | .snapshot _ status => status
  | .connect _ status _ => status
  | _ => none

/-- An optional number, spelled out for diagnostics. -/
def describeStatus : Option Nat → String
  | none => "None"
  | some n => "Some(" ++ toString n ++ ")"

/-- The structure of a failure, spelled out for diagnostics. -/
def describe : Failure → String
  | .snapshot message status =>
    "SnapshotFetch \x7b message: " ++ Text.quoted message ++ ", status: " ++ describeStatus status
      ++ " \x7d"
  | .connect message status retryable =>
    "StreamConnect \x7b message: " ++ Text.quoted message ++ ", status: " ++ describeStatus status
      ++ ", retryable: " ++ (if retryable then "true" else "false") ++ " \x7d"
  | .read message => "StreamRead(" ++ Text.quoted message ++ ")"
  | .decode error => "StreamDecode(" ++ error.describe ++ ")"
  | .aborted => "StreamAborted"
  | .config field reason =>
    "InvalidConfig \x7b field: " ++ Text.quoted field ++ ", reason: " ++ Text.quoted reason
      ++ " \x7d"
  | .stopped => "Stopped"

end Failure

end ActivityFeed
