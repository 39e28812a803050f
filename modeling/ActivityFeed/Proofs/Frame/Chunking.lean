import ActivityFeed.Frame.Decoder

/-!
# Frames do not depend on how the octets arrive

The network cuts a body wherever it likes: between the two octets of a line end, inside a blank
line, inside a character. A decoder carries three things over such a cut, the octets that no blank
line has ended, whether a line feed is still to be swallowed, and how far the search for a blank
line has come. `Settled` ties the third to the first, and every push and every finish keeps it, so
that the search may be taken to start at the front again (`push_of_settled`) and what is left of a
chunk can be put before the next one (`cut_append`).

Main result: `push_append`, for every decoder that calls can bring about and any two chunks, and
from it that only the octets count and not their chunks.
-/

namespace ActivityFeed.Decoder

/-! ## Searching for a blank line -/

/-- Octets after a blank line do not hide it. -/
theorem blankLine?_append_of_some {x : List UInt8} {at_ : Nat} (h : blankLine? x = some at_)
    (y : List UInt8) : blankLine? (x ++ y) = some at_ := by
  induction x using blankLine?.induct generalizing at_ with
  | case1 => simp [blankLine?] at h
  | case2 => simp [blankLine?] at h
  | case3 a b rest hfeeds =>
    simp only [blankLine?, hfeeds, if_true] at h
    simpa [blankLine?, hfeeds] using h
  | case4 a b rest hfeeds ih =>
    simp only [blankLine?, hfeeds, Bool.false_eq_true, if_false, Option.map_eq_some_iff] at h
    obtain ⟨n, hn, hat⟩ := h
    have hrest := ih hn
    simp only [List.cons_append] at hrest ⊢
    simp only [blankLine?, hfeeds, Bool.false_eq_true, if_false, hrest, Option.map_some, hat]

/-- A blank line lies within the octets. -/
theorem blankLine?_bound {x : List UInt8} {at_ : Nat} (h : blankLine? x = some at_) :
    at_ + 2 ≤ x.length := by
  induction x using blankLine?.induct generalizing at_ with
  | case1 => simp [blankLine?] at h
  | case2 => simp [blankLine?] at h
  | case3 a b rest hfeeds =>
    simp only [blankLine?, hfeeds, if_true, Option.some.injEq] at h
    simp only [List.length_cons]
    omega
  | case4 a b rest hfeeds ih =>
    simp only [blankLine?, hfeeds, Bool.false_eq_true, if_false, Option.map_eq_some_iff] at h
    obtain ⟨n, hn, hat⟩ := h
    have := ih hn
    simp only [List.length_cons] at this ⊢
    omega

/-- Octets fall into blocks: an induction from one blank line to the next. -/
@[elab_as_elim]
theorem block_induction {motive : List UInt8 → Prop}
    (last : ∀ x, blankLine? x = none → motive x)
    (block : ∀ x at_, blankLine? x = some at_ → motive (x.drop (at_ + 2)) → motive x)
    (x : List UInt8) : motive x := by
  induction hlen : x.length using Nat.strongRecOn generalizing x with
  | _ n ih =>
    cases hfound : blankLine? x with
    | none => exact last x hfound
    | some at_ =>
      have hbound := blankLine?_bound hfound
      have hless : (x.drop (at_ + 2)).length < n := by
        rw [List.length_drop]
        omega
      exact block x at_ hfound (ih _ hless _ rfl)

/-- Where no blank line starts in `x`, the search of `x ++ y` may begin at the last octet of `x`:
only that one can still be the first half of a blank line. -/
theorem blankLineFrom?_append {x : List UInt8} (h : blankLine? x = none) (y : List UInt8) :
    blankLineFrom? (x.length - 1) (x ++ y) = blankLine? (x ++ y) := by
  unfold blankLineFrom?
  induction x using blankLine?.induct with
  | case1 => simp
  | case2 => simp
  | case3 a b rest hfeeds =>
    simp [blankLine?, hfeeds] at h
  | case4 a b rest hfeeds ih =>
    have hnone : blankLine? (b :: rest) = none := by
      simpa [blankLine?, hfeeds] using h
    have hrest := ih hnone
    simp only [List.length_cons, Nat.add_sub_cancel, List.cons_append] at hrest ⊢
    rw [List.drop_succ_cons, blankLine?, if_neg (by simpa using hfeeds), ← hrest, Option.map_map]
    congr 1
    funext n
    simp only [Function.comp_apply]
    omega

/-! ## Cutting at blank lines -/

theorem cut_of_none {start : Nat} {octets : List UInt8}
    (h : blankLineFrom? start octets = none) : cut start octets = ([], octets) := by
  rw [cut]
  split
  next => rfl
  next heq =>
    rw [h] at heq
    cases heq

theorem cut_of_some {start at_ : Nat} {octets : List UInt8}
    (h : blankLineFrom? start octets = some at_) :
    cut start octets
      = (octets.take at_ :: (cut 0 (octets.drop (at_ + 2))).1,
          (cut 0 (octets.drop (at_ + 2))).2) := by
  rw [cut]
  split
  next heq =>
    rw [h] at heq
    cases heq
  next heq =>
    rw [h] at heq
    cases heq
    rfl

theorem blankLineFrom?_zero (octets : List UInt8) :
    blankLineFrom? 0 octets = blankLine? octets := by
  simp [blankLineFrom?]

theorem cut_zero_of_none {octets : List UInt8} (h : blankLine? octets = none) :
    cut 0 octets = ([], octets) :=
  cut_of_none ((blankLineFrom?_zero octets).trans h)

theorem cut_zero_of_some {octets : List UInt8} {at_ : Nat} (h : blankLine? octets = some at_) :
    cut 0 octets
      = (octets.take at_ :: (cut 0 (octets.drop (at_ + 2))).1,
          (cut 0 (octets.drop (at_ + 2))).2) :=
  cut_of_some ((blankLineFrom?_zero octets).trans h)

/-- Only the first blank line that is found counts, not where the search for it began. -/
theorem cut_congr {start : Nat} {octets : List UInt8}
    (h : blankLineFrom? start octets = blankLine? octets) : cut start octets = cut 0 octets := by
  cases hfound : blankLine? octets with
  | none => rw [cut_of_none (h.trans hfound), cut_zero_of_none hfound]
  | some at_ => rw [cut_of_some (h.trans hfound), cut_zero_of_some hfound]

/-- **Cutting goes on where it stopped.** The blocks of `x ++ y` are those of `x` and then those of
what `x` left over with `y` behind it. -/
theorem cut_append (x y : List UInt8) :
    cut 0 (x ++ y)
      = ((cut 0 x).1 ++ (cut 0 ((cut 0 x).2 ++ y)).1, (cut 0 ((cut 0 x).2 ++ y)).2) := by
  induction x using block_induction with
  | last x hfound =>
    rw [cut_zero_of_none hfound]
    rfl
  | block x at_ hfound ih =>
    -- `y` is behind the blank line, so that the first block of `x ++ y` is the one of `x`
    have hbound := blankLine?_bound hfound
    have hdrop : (x ++ y).drop (at_ + 2) = x.drop (at_ + 2) ++ y :=
      List.drop_append_of_le_length hbound
    have htake : (x ++ y).take at_ = x.take at_ :=
      List.take_append_of_le_length (by omega)
    rw [cut_zero_of_some (blankLine?_append_of_some hfound y), cut_zero_of_some hfound, hdrop,
      htake, ih]
    rfl

/-- No blank line is left over. -/
theorem blankLine?_rest (x : List UInt8) : blankLine? (cut 0 x).2 = none := by
  induction x using block_induction with
  | last x hfound =>
    rw [cut_zero_of_none hfound]
    exact hfound
  | block x at_ hfound ih =>
    rw [cut_zero_of_some hfound]
    exact ih

/-! ## What a decoder keeps between calls -/

/-- The buffer holds no blank line, and all of it but the last octet has been searched for one. -/
structure Settled (d : Decoder) : Prop where
  noBlankLine : blankLine? d.buffer = none
  searched : d.scanned = d.buffer.length - 1

/-- The frames of the blocks that have any. -/
def frames (blocks : List (List UInt8)) : List Frame :=
  blocks.filterMap fun b => Frame.ofBlock? (Text.Utf8.decode b)

theorem frames_append (xs ys : List (List UInt8)) : frames (xs ++ ys) = frames xs ++ frames ys :=
  List.filterMap_append

/-- The decoder whose buffer is the given octets, after `octetsSeen` octets in all. -/
def holding (buffer : List UInt8) (afterReturn : Bool) (octetsSeen : Nat) : Decoder :=
  ⟨buffer, afterReturn, buffer.length - 1, octetsSeen⟩

/-- A push cuts the buffer and the new octets together, from the front. -/
theorem push_of_settled {d : Decoder} (h : d.Settled) (chunk : List UInt8) :
    d.push chunk
      = (frames (cut 0 (d.buffer ++ (normalize d.afterReturn chunk).1)).1,
          holding (cut 0 (d.buffer ++ (normalize d.afterReturn chunk).1)).2
            (normalize d.afterReturn chunk).2 (d.octetsSeen + chunk.length)) := by
  have hstart : min d.scanned (d.buffer ++ (normalize d.afterReturn chunk).1).length
      = d.buffer.length - 1 := by
    rw [h.searched, List.length_append]
    omega
  have hcut := cut_congr
    (blankLineFrom?_append h.noBlankLine (normalize d.afterReturn chunk).1)
  unfold push
  dsimp only
  rw [hstart, hcut]
  rfl

theorem settled_holding (x : List UInt8) (afterReturn : Bool) (n : Nat) :
    (holding (cut 0 x).2 afterReturn n).Settled :=
  ⟨blankLine?_rest x, rfl⟩

theorem settled_push {d : Decoder} (h : d.Settled) (chunk : List UInt8) :
    (d.push chunk).2.Settled := by
  rw [push_of_settled h]
  exact settled_holding _ _ _

/-- The decoders that calls bring about. -/
inductive Reachable : Decoder → Prop
  | fresh : Reachable fresh
  | push {d : Decoder} (h : Reachable d) (chunk : List UInt8) : Reachable (d.push chunk).2
  | finish {d : Decoder} (h : Reachable d) : Reachable d.finish.2

theorem Reachable.settled {d : Decoder} (h : d.Reachable) : d.Settled := by
  induction h with
  | fresh => exact ⟨rfl, rfl⟩
  | push _ chunk ih => exact settled_push ih chunk
  | finish => exact ⟨rfl, rfl⟩

/-! ## Cutting the octets into chunks -/

/-- Pushing one more chunk is pushing both at once. -/
theorem push_push {d : Decoder} (h : d.Settled) (a b : List UInt8) :
    d.push (a ++ b) = ((d.push a).1 ++ ((d.push a).2.push b).1, ((d.push a).2.push b).2) := by
  rw [push_of_settled (settled_push h a) b, push_of_settled h a, push_of_settled h (a ++ b),
    normalize_append, ← List.append_assoc, cut_append (d.buffer ++ _), frames_append]
  simp only [holding, List.length_append, Nat.add_assoc]

theorem push_nil {d : Decoder} (h : d.Settled) : d.push [] = ([], d) := by
  have hcut : cut 0 d.buffer = ([], d.buffer) := cut_zero_of_none h.noBlankLine
  rw [push_of_settled h]
  simp only [normalize, List.append_nil, hcut, holding, ← h.searched, List.length_nil,
    Nat.add_zero]
  rfl

/-- Feeds several chunks: all frames they completed, in order, and the decoder after them. -/
def pushAll (d : Decoder) : List (List UInt8) → List Frame × Decoder
  | [] => ([], d)
  | chunk :: chunks =>
    let (first, d) := d.push chunk
    let (later, d) := pushAll d chunks
    (first ++ later, d)

theorem pushAll_eq_push_flatten {d : Decoder} (h : d.Settled) (chunks : List (List UInt8)) :
    d.pushAll chunks = d.push chunks.flatten := by
  induction chunks generalizing d with
  | nil => exact (push_nil h).symm
  | cons chunk chunks ih =>
    rw [List.flatten_cons, push_push h, ← ih (settled_push h chunk)]
    rfl

/-- **Only the octets count.** A decoder that calls have brought about, whatever they were, gives
for `a ++ b` the frames of `a` and then those of `b`, and ends in the same state; so any two ways to
cut the same octets into chunks give the same frames in the same order and the same decoder. -/
theorem push_append {d : Decoder} (h : d.Reachable) :
    (∀ a b, d.push (a ++ b)
        = ((d.push a).1 ++ ((d.push a).2.push b).1, ((d.push a).2.push b).2))
      ∧ ∀ chunks chunks' : List (List UInt8), chunks.flatten = chunks'.flatten →
        d.pushAll chunks = d.pushAll chunks' := by
  refine ⟨push_push h.settled, fun chunks chunks' heq => ?_⟩
  rw [pushAll_eq_push_flatten h.settled, pushAll_eq_push_flatten h.settled, heq]

/-- A decoder that has been finished once is within a character, and the next two chunks share a
line end. -/
theorem push_append_within_character :
    let d := ((fresh.push [120, 10]).2.finish.2.push [100, 97, 116, 97, 58, 195]).2
    d.Reachable
      ∧ d.push ([169, 13] ++ [10, 13, 10])
        = ((d.push [169, 13]).1 ++ ((d.push [169, 13]).2.push [10, 13, 10]).1,
            ((d.push [169, 13]).2.push [10, 13, 10]).2)
      ∧ (d.push [169, 13, 10, 13, 10]).1 = [Frame.new Frame.defaultEvent "é"] := by
  intro d
  have h : d.Reachable := .push (.finish (.push .fresh _)) _
  exact ⟨h, (push_append h).1 _ _, by decide +kernel⟩

end ActivityFeed.Decoder
