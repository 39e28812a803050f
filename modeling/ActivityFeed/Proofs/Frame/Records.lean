import ActivityFeed.Config
import ActivityFeed.Proofs.Frame.Lines
import ActivityFeed.Record.Basic

/-!
# The records that a body carries

A body is read line by line, and of the frames that its lines make, those of the right type whose
data is a record carry one. `recordsIn` is the list of these records. A decoder finds the same ones
(`recordsIn_eq`), and goes on finding them chunk by chunk (`recordsIn_append`), so that what has
been read of a body carries a beginning of the list, however much of the next frame has come.
-/

namespace ActivityFeed.Config

variable {c : Config}

/-- The record that a frame carries. -/
def recordOf? (c : Config) (frame : Frame) : Option Record :=
  if frame.event = c.recordEvent then (Record.ofPayload frame.data c.envelope).toOption else none

/-- The records that a body carries, in order. -/
def recordsIn (c : Config) (body : List UInt8) : List Record :=
  (EventStream.interpret body).filterMap c.recordOf?

theorem recordsIn_eq (c : Config) (body : List UInt8) :
    c.recordsIn body = (Decoder.fresh.push body).1.filterMap c.recordOf? := by
  rw [recordsIn, ← EventStream.frames_cut_normalize,
    Decoder.push_of_settled Decoder.Reachable.fresh.settled]
  rfl

/-- The decoder goes on where it stopped. -/
theorem recordsIn_append (c : Config) (x y : List UInt8) :
    c.recordsIn (x ++ y)
      = c.recordsIn x ++ ((Decoder.fresh.push x).2.push y).1.filterMap c.recordOf? := by
  rw [recordsIn_eq, recordsIn_eq, Decoder.push_push Decoder.Reachable.fresh.settled,
    List.filterMap_append]

theorem recordsIn_mono (c : Config) {x y : List UInt8} (h : x <+: y) :
    c.recordsIn x <+: c.recordsIn y := by
  obtain ⟨z, rfl⟩ := h
  rw [recordsIn_append]
  exact List.prefix_append _ _

/-- If the records read so far are the beginning of a list, those of the next chunk come next in
it. -/
theorem recordsOf_push_next {x y : List UInt8} {records : List Record}
    (h : c.recordsIn (x ++ y) <+: records) :
    ((Decoder.fresh.push x).2.push y).1.filterMap c.recordOf?
      <+: records.drop (c.recordsIn x).length := by
  obtain ⟨rest, hrest⟩ := h
  rw [← hrest, recordsIn_append, List.append_assoc, List.drop_left]
  exact List.prefix_append _ _

end ActivityFeed.Config
