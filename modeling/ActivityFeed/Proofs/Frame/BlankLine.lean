import ActivityFeed.Proofs.Frame.Lines

/-!
# A blank line ends whatever came before it

Octets may be damaged in any way: a field may lack its end, a character its last octets, a line end
its second half. Whatever is wrong with them is over at the next blank line. In the reading by lines
this is plain, since an empty line clears all that is pending (`interpretFrom_append_nil`) and a
line feed ends a line whatever stands before it (`linesFrom_append`). The decoder need not be as it
was at its start: with more line feeds before the blank line than it takes, one of them is left in
the buffer. But it gives the frames of the reading by lines, and so nobody can tell.

Main result: `frames_after_blankLine`.
-/

namespace ActivityFeed.EventStream

open Decoder (fresh lineFeed)

/-- An octet that is not the first half of a line end is read by itself. -/
theorem linesFrom_cons {b : UInt8} {rest : List UInt8} (h : b = 13 → rest.head? ≠ some 10)
    (line : List UInt8) :
    linesFrom line (b :: rest)
      = if b = 10 ∨ b = 13 then line :: linesFrom [] rest else linesFrom (line ++ [b]) rest := by
  rw [linesFrom]
  rintro later hb rfl
  exact h hb rfl

/-- A line feed ends a line, and what comes after it are lines of their own. -/
theorem linesFrom_append (line x later : List UInt8) :
    linesFrom line (x ++ 10 :: later) = linesFrom line (x ++ [10]) ++ linesFrom [] later := by
  induction line, x using linesFrom.induct with
  | case1 line => simp [linesFrom]
  | case2 line rest ih => simp [linesFrom, ih]
  | case3 line b rest hpair hend ih =>
    cases rest with
    | nil =>
      -- the line feed may be the second half of the line end that `b` begins
      rcases hend with rfl | rfl <;> simp [linesFrom]
    | cons c rest =>
      have hsingle : ∀ more, b = 13 → (c :: rest ++ more).head? ≠ some 10 := by
        intro more hb hc
        obtain rfl : c = 10 := by simpa using hc
        exact hpair rest hb rfl
      have hends : ∀ more, linesFrom line (b :: (c :: rest ++ more))
          = line :: linesFrom [] (c :: rest ++ more) := fun more => by
        rw [linesFrom_cons (hsingle more), if_pos hend]
      calc linesFrom line (b :: (c :: rest ++ 10 :: later))
        _ = line :: linesFrom [] (c :: rest ++ 10 :: later) := hends _
        _ = line :: linesFrom [] (c :: rest ++ [10]) ++ linesFrom [] later :=
          congrArg (line :: ·) ih
        _ = linesFrom line (b :: (c :: rest ++ [10])) ++ linesFrom [] later := by rw [hends]
  | case4 line b rest hpair hend ih =>
    have hsingle : ∀ more, b = 13 → (rest ++ more).head? ≠ some 10 :=
      fun _ hb => absurd (Or.inr hb) hend
    rw [List.cons_append, List.cons_append, linesFrom_cons (hsingle _), if_neg hend,
      linesFrom_cons (hsingle _), if_neg hend, ih]

/-- **An empty line ends all that is pending**, so that what comes after it is read as if nothing
had come before. -/
theorem interpretFrom_append_nil (p : Pending) (lines later : List (List UInt8)) :
    interpretFrom p (lines ++ [] :: later)
      = interpretFrom p (lines ++ [[]]) ++ interpretFrom .empty later := by
  induction lines generalizing p with
  | nil => simp [interpretFrom]
  | cons line lines ih =>
    rw [List.cons_append, List.cons_append, interpretFrom, interpretFrom]
    split
    · rw [ih, List.append_assoc]
    · exact ih _

/-- A blank line keeps what is after it from what is before it. -/
theorem interpret_append_blankLine (x y : List UInt8) :
    interpret (x ++ [lineFeed, lineFeed] ++ y)
      = interpret (x ++ [lineFeed, lineFeed]) ++ interpret y := by
  have hlines : ∀ later, linesFrom [] (x ++ 10 :: 10 :: later)
      = linesFrom [] (x ++ [10]) ++ [] :: linesFrom [] later := by
    intro later
    rw [linesFrom_append]
    simp [linesFrom]
  calc interpret (x ++ [lineFeed, lineFeed] ++ y)
    _ = interpretFrom .empty (linesFrom [] (x ++ 10 :: 10 :: y)) := by
      rw [interpret, List.append_assoc]
      rfl
    _ = interpretFrom .empty (linesFrom [] (x ++ [10]) ++ [[]])
        ++ interpretFrom .empty (linesFrom [] y) := by
      rw [hlines, interpretFrom_append_nil]
    _ = interpret (x ++ [lineFeed, lineFeed]) ++ interpret y :=
      congrArg (interpretFrom .empty · ++ interpret y) (hlines []).symm

/-- **A blank line isolates what came before it.** Let there be any octets, then a blank line, then
any octets again. However all of them are cut into chunks, the frames are those that the octets up
to and with the blank line give in any chunks, and after them those that a fresh decoder gives for
the rest, in any chunks again: none of these is swallowed, altered or given twice, and none is
added. -/
theorem frames_after_blankLine (x y : List UInt8) (chunks before after : List (List UInt8))
    (hchunks : chunks.flatten = x ++ [lineFeed, lineFeed] ++ y)
    (hbefore : before.flatten = x ++ [lineFeed, lineFeed]) (hafter : after.flatten = y) :
    (fresh.pushAll chunks).1 = (fresh.pushAll before).1 ++ (fresh.pushAll after).1 := by
  have hpushed : ∀ pieces : List (List UInt8),
      (fresh.pushAll pieces).1 = interpret pieces.flatten := by
    intro pieces
    rw [Decoder.pushAll_eq_push_flatten Decoder.Reachable.fresh.settled, frames_eq_interpret]
  rw [hpushed, hpushed, hpushed, hchunks, hbefore, hafter, interpret_append_blankLine]

/-- Half a character and a carriage return stand before the blank line, a line feed comes after it;
the chunks are cut within the line end, within the blank line and within a field. -/
theorem frames_after_blankLine_damaged :
    let x : List UInt8 := [100, 97, 116, 97, 58, 195, 13]
    let y : List UInt8 := [10, 100, 97, 116, 97, 58, 98, 10, 10]
    (fresh.pushAll [x, [10], [10, 10, 100, 97], [116, 97, 58, 98, 10, 10]]).1
        = (fresh.pushAll [x ++ [10, 10]]).1 ++ (fresh.pushAll [y.take 4, y.drop 4]).1
      ∧ (fresh.pushAll [y.take 4, y.drop 4]).1 = [Frame.new Frame.defaultEvent "b"] := by
  intro x y
  exact ⟨frames_after_blankLine x y _ _ _ rfl rfl rfl, by decide +kernel⟩

end ActivityFeed.EventStream
