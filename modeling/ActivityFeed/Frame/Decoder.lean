import ActivityFeed.Frame.Basic
import ActivityFeed.Text.Utf8

/-!
# Decoding an event stream

The body of a stream arrives in chunks that are cut anywhere. A decoder keeps the octets after the
last blank line, with all line ends turned into line feeds, and gives the frame of each block that a
chunk completes. Octets become text block by block, so a character may be cut between two chunks.

One decoder serves one connection: what a broken connection left behind never reaches the next one.
-/

namespace ActivityFeed

/-- The state of the decoder of one connection. -/
structure Decoder where
  /-- Octets that no blank line has ended yet, line ends as line feeds. -/
  buffer : List UInt8
  /-- Whether the last octet was a carriage return, so that a line feed right after it is part of
  the same line end. -/
  afterReturn : Bool
  /-- How many octets of the buffer are known to start no blank line. -/
  scanned : Nat
  /-- How many octets have been fed. -/
  octetsSeen : Nat
deriving DecidableEq, Repr, Inhabited

namespace Decoder

/-- The octet of a line feed. -/
def lineFeed : UInt8 := 10

/-- The octet of a carriage return. -/
def carriageReturn : UInt8 := 13

/-- A decoder that has seen nothing. -/
def fresh : Decoder := ⟨[], false, 0, 0⟩

/-- The octets with each line end as one line feed, and whether they end with a carriage return.
`afterReturn` says so of what came before them. -/
def normalize (afterReturn : Bool) : List UInt8 → List UInt8 × Bool
  | [] => ([], afterReturn)
  | b :: rest =>
    if afterReturn && b == lineFeed then normalize false rest
    else if b == carriageReturn then
      let (out, last) := normalize true rest
      (lineFeed :: out, last)
    else
      let (out, last) := normalize false rest
      (b :: out, last)

/-- Line ends are found alike however the octets are cut, even between the two of one line end. -/
theorem normalize_append (afterReturn : Bool) (a b : List UInt8) :
    normalize afterReturn (a ++ b)
      = ((normalize afterReturn a).1 ++ (normalize (normalize afterReturn a).2 b).1,
          (normalize (normalize afterReturn a).2 b).2) := by
  induction a generalizing afterReturn with
  | nil => rfl
  | cons c rest ih =>
    simp only [List.cons_append, normalize]
    split
    · exact ih false
    · split
      · rw [ih true]
        rfl
      · rw [ih false]
        rfl

/-- Where the first two line feeds in a row start. -/
def blankLine? : List UInt8 → Option Nat
  | [] => none
  | [_] => none
  | a :: b :: rest =>
    if a == lineFeed && b == lineFeed then some 0
    else (blankLine? (b :: rest)).map (· + 1)

/-- Where the first two line feeds in a row start, from an index on. -/
def blankLineFrom? (start : Nat) (octets : List UInt8) : Option Nat :=
  (blankLine? (octets.drop start)).map (start + ·)

theorem length_pos_of_blankLineFrom? {start at_ : Nat} {octets : List UInt8}
    (h : blankLineFrom? start octets = some at_) : 0 < octets.length := by
  cases octets with
  | nil => simp [blankLineFrom?, blankLine?] at h
  | cons => simp

/-- The blocks that blank lines end, and the octets after the last one. -/
def cut (scanned : Nat) (octets : List UInt8) : List (List UInt8) × List UInt8 :=
  match _h : blankLineFrom? scanned octets with
  | none => ([], octets)
  | some end_ =>
    let (blocks, rest) := cut 0 (octets.drop (end_ + 2))
    (octets.take end_ :: blocks, rest)
termination_by octets.length
decreasing_by
  have := length_pos_of_blankLineFrom? _h
  simp only [List.length_drop]
  omega

/-- Feeds one chunk: the frames that it completed, in order, and the decoder after it. -/
def push (d : Decoder) (chunk : List UInt8) : List Frame × Decoder :=
  let (octets, afterReturn) := normalize d.afterReturn chunk
  let (blocks, rest) := cut (min d.scanned (d.buffer ++ octets).length) (d.buffer ++ octets)
  (blocks.filterMap fun b => Frame.ofBlock? (Text.Utf8.decode b),
    { buffer := rest
      afterReturn
      scanned := rest.length - 1
      octetsSeen := d.octetsSeen + chunk.length })

/-- The end of the body: how many octets no blank line has ended, and the decoder without them. -/
def finish (d : Decoder) : Nat × Decoder :=
  (d.buffer.length, { d with buffer := [], afterReturn := false, scanned := 0 })

end Decoder

end ActivityFeed
