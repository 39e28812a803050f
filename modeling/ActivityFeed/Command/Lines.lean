import ActivityFeed.Frame.Basic
import ActivityFeed.Record.Basic

/-!
# Frames and records as lines

For people a frame is its type in brackets, its identifier if it has one, and its data, and a record
is one line: when, who, where, and the message with its line feeds as blanks. For programs a frame
is an object, whose data is the value that the data spells, or else its text.
-/

namespace ActivityFeed

namespace Frame

/-- A frame for people. -/
def line (f : Frame) : String :=
  "[" ++ f.event ++ "]" ++ (f.id.map fun id => " id=" ++ id).getD "" ++ " " ++ f.data

/-- The value that a frame's data spells, or its text. -/
def dataValue (f : Frame) : Json :=
  match Json.parseText f.data with
  | .ok value => value
  | .error _ => .string f.data

/-- A frame as a value. -/
def toJson (f : Frame) : Json :=
  .object
    (("event", .string f.event) :: (f.id.map fun id => ("id", .string id)).toList
      ++ (f.retry.map fun n => ("retry_ms", .number (.integer n))).toList
      ++ [("data", f.dataValue)])

end Frame

namespace Record

/-- A text with blanks for its line feeds. -/
def joinLines (s : String) : String :=
  String.ofList (s.toList.map fun c => if c = '\n' then ' ' else c)

/-- Whose record it is: the agent's name, else the agent's identifier. -/
def who (r : Record) : String :=
  (r.agentName.orElse fun _ => r.agentId).getD "-"

/-- The board and the task of a record, as far as it names them. -/
def place (r : Record) : String :=
  match r.boardName, r.taskTitle with
  | some board, some task => " [" ++ board ++ " / " ++ task ++ "]"
  | none, some task => " [" ++ task ++ "]"
  | some board, none => " [" ++ board ++ "]"
  | none, none => ""

/-- A record for people. -/
def line (r : Record) : String :=
  r.createdAt.display ++ "Z  " ++ r.who ++ r.place ++ "  " ++ (r.message.map joinLines).getD ""

end Record

end ActivityFeed
