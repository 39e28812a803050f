import ActivityFeed.Text.Digits
import ActivityFeed.Text.Space
import ActivityFeed.Text.Split

/-!
# Frames of an event stream

A frame is one event of a `text/event-stream` body. Its block is a sequence of lines, each a field
name and a value after the first colon; a blank line ends it. `Fields` collects the lines of a block
and `Fields.frame?` says which frame they make: none unless there is a line of data.
-/

namespace ActivityFeed

/-- One event of a stream. -/
structure Frame where
  /-- The type of the event. -/
  event : String
  /-- The lines of data, line feeds between them. -/
  data : String
  id : Option String
  /-- Milliseconds after which the server asks to reconnect. -/
  retry : Option Nat
deriving DecidableEq, Repr, Inhabited

namespace Frame

/-- The type of an event that names none. -/
def defaultEvent : String := "message"

/-- A frame with a type and data only. -/
def new (event data : String) : Frame := ⟨event, data, none, none⟩

/-- What the lines of a block have said so far. -/
structure Fields where
  event : Option (List Char)
  /-- The lines of data in order. -/
  data : List (List Char)
  id : Option (List Char)
  retry : Option Nat
deriving DecidableEq, Repr, Inhabited

/-- The lines of a text: the parts between its line feeds. -/
def lines : List Char → List (List Char) :=
  Text.splitAt '\n'

/-- The field name and the value of a line: the value starts after the first colon, without one
blank; a line without a colon is a name with an empty value. -/
def field (line : List Char) : List Char × List Char :=
  match line.span (· ≠ ':') with
  | (name, []) => (name, [])
  | (name, _ :: ' ' :: value) => (name, value)
  | (name, _ :: value) => (name, value)

namespace Fields

/-- Before the first line. -/
def empty : Fields := ⟨none, [], none, none⟩

/-- One more line. Empty lines, comments and unknown names say nothing. -/
def addLine (f : Fields) (line : List Char) : Fields :=
  match line with
  | [] => f
  | ':' :: _ => f
  | _ =>
    let (name, value) := field line
    if name = "event".toList then { f with event := some value }
    else if name = "data".toList then { f with data := f.data ++ [value] }
    else if name = "id".toList then { f with id := some value }
    else if name = "retry".toList then { f with retry := Text.word? (Text.trim value) }
    else f

/-- The frame of a block, if it has data. -/
def frame? (f : Fields) : Option Frame :=
  if f.data.isEmpty then none
  else
    let event := match f.event with
      | some (c :: cs) => String.ofList (c :: cs)
      | _ => defaultEvent
    some
      { event
        data := String.ofList (List.intercalate ['\n'] f.data)
        id := f.id.map String.ofList
        retry := f.retry }

end Fields

/-- The frame that a block makes. -/
def ofBlock? (block : List Char) : Option Frame :=
  ((lines block).foldl Fields.addLine .empty).frame?

end Frame

end ActivityFeed
