import ActivityFeed.Proofs.Frame.Chunking
import ActivityFeed.Proofs.Text.Utf8Lines
import Mathlib.Data.List.TakeDrop

/-!
# An event stream, line by line

An event stream may be read without blocks: each line is decoded by itself and changes what is
pending, and an empty line gives the pending frame, if there is data for one, and starts afresh.
`interpret` reads octets in this way. The decoder works differently, it searches a buffer with
uniform line ends for two line feeds in a row and decodes everything before them at once, and this
module shows that it gives the same frames.

The argument has three parts. Uniform line ends do not change the lines (`linesFrom_normalize`).
Text is decoded alike in lines and in blocks (`lines_decode`). And where the leftmost two line feeds
in a row are searched for, only the first line of a block can be empty, at a time when nothing is
pending (`lines_of_noBlankLine`), so that blocks end exactly where a line gives a frame
(`frames_cut`).

Main result: `frames_eq_interpret`.
-/

namespace ActivityFeed.EventStream

open Decoder (lineFeed carriageReturn blankLine? cut)

/-! ## The reading by lines -/

/-- The lines that something ends, without their ends; `line` is what the first one has so far. A
line feed ends a line, a carriage return does, and the two in this order do it once. -/
def linesFrom (line : List UInt8) : List UInt8 → List (List UInt8)
  | [] => []
  | 13 :: 10 :: rest => line :: linesFrom [] rest
  | b :: rest =>
    if b = 10 ∨ b = 13 then line :: linesFrom [] rest else linesFrom (line ++ [b]) rest

/-- What the lines since the last empty one have said. -/
structure Pending where
  event : Option String
  data : List String
  id : Option String
  retry : Option Nat
deriving DecidableEq, Repr, Inhabited

namespace Pending

/-- After an empty line. -/
def empty : Pending := ⟨none, [], none, none⟩

/-- The part of a line before its first colon. -/
def fieldName (line : List Char) : String :=
  String.ofList (line.takeWhile (· ≠ ':'))

/-- The part of a line after its first colon, less one space at its front; nothing if there is no
colon. -/
def fieldValue (line : List Char) : List Char :=
  let value := (line.dropWhile (· ≠ ':')).drop 1
  if value.head? = some ' ' then value.drop 1 else value

/-- One more line that is not empty. -/
def read (p : Pending) (line : List Char) : Pending :=
  if line.head? = some ':' then p
  else if fieldName line = "event" then { p with event := some (String.ofList (fieldValue line)) }
  else if fieldName line = "data" then
    { p with data := p.data ++ [String.ofList (fieldValue line)] }
  else if fieldName line = "id" then { p with id := some (String.ofList (fieldValue line)) }
  else if fieldName line = "retry" then { p with retry := Text.word? (Text.trim (fieldValue line)) }
  else p

/-- The frame that an empty line makes of it. -/
def frame? (p : Pending) : Option Frame :=
  if p.data = [] then none
  else
    some
      { event := if p.event.getD "" = "" then "message" else p.event.getD ""
        data := String.intercalate "\n" p.data
        id := p.id
        retry := p.retry }

end Pending

/-- The frames that lines make, `p` being pending. -/
def interpretFrom (p : Pending) : List (List UInt8) → List Frame
  | [] => []
  | line :: lines =>
    if line = [] then p.frame?.toList ++ interpretFrom .empty lines
    else interpretFrom (p.read (Text.Utf8.decode line)) lines

/-- The frames of a body, read line by line. -/
def interpret (octets : List UInt8) : List Frame :=
  interpretFrom .empty (linesFrom [] octets)

/-! ## Uniform line ends -/

/-- The lines that line feeds end, where they are the only line ends. -/
def feedLinesFrom (line : List UInt8) : List UInt8 → List (List UInt8)
  | [] => []
  | b :: rest =>
    if b = 10 then line :: feedLinesFrom [] rest else feedLinesFrom (line ++ [b]) rest

theorem normalize_other {b : UInt8} (hreturn : b ≠ 13) (rest : List UInt8) :
    (Decoder.normalize false (b :: rest)).1 = b :: (Decoder.normalize false rest).1 := by
  simp [Decoder.normalize, lineFeed, carriageReturn, hreturn]

theorem normalize_returnFeed (rest : List UInt8) :
    (Decoder.normalize false (13 :: 10 :: rest)).1 = 10 :: (Decoder.normalize false rest).1 := by
  simp [Decoder.normalize, lineFeed, carriageReturn]

/-- A carriage return without a line feed behind it swallows nothing. -/
theorem normalize_return {rest : List UInt8} (h : ∀ later, rest ≠ 10 :: later) :
    (Decoder.normalize false (13 :: rest)).1 = 10 :: (Decoder.normalize false rest).1 := by
  cases rest with
  | nil => rfl
  | cons b later =>
    have hb : b ≠ 10 := fun heq => h later (heq ▸ rfl)
    simp [Decoder.normalize, lineFeed, carriageReturn, hb]

/-- Lines are the same once all line ends are line feeds. -/
theorem linesFrom_normalize (line octets : List UInt8) :
    linesFrom line octets = feedLinesFrom line (Decoder.normalize false octets).1 := by
  induction line, octets using linesFrom.induct with
  | case1 line => rfl
  | case2 line rest ih =>
    rw [linesFrom, ih, normalize_returnFeed, feedLinesFrom, if_pos rfl]
  | case3 line b rest hpair hend ih =>
    have hout :
        (Decoder.normalize false (b :: rest)).1 = 10 :: (Decoder.normalize false rest).1 := by
      rcases hend with rfl | rfl
      · exact normalize_other (by decide) rest
      · exact normalize_return fun later heq => hpair later rfl heq
    rw [linesFrom, if_pos hend, ih, hout, feedLinesFrom, if_pos rfl]
    exact hpair
  | case4 line b rest hpair hend ih =>
    have hfeed : b ≠ 10 := fun heq => hend (Or.inl heq)
    have hreturn : b ≠ 13 := fun heq => hend (Or.inr heq)
    rw [linesFrom, if_neg hend, ih, normalize_other hreturn, feedLinesFrom, if_neg hfeed]
    exact hpair

/-! ## Lines of a block -/

/-- A line feed separates the lines before it from those after it. -/
theorem feedLinesFrom_append (line x later : List UInt8) :
    feedLinesFrom line (x ++ 10 :: later)
      = feedLinesFrom line (x ++ [10]) ++ feedLinesFrom [] later := by
  induction x generalizing line with
  | nil => rfl
  | cons b rest ih =>
    simp only [List.cons_append, feedLinesFrom]
    split
    · rw [ih []]
      rfl
    · exact ih (line ++ [b])

/-- Where no blank line is, an empty line is one whose end is the first octet. -/
theorem feedLinesFrom_ne_nil {x : List UInt8} (h : blankLine? x = none) {line : List UInt8}
    (hfirst : line ≠ [] ∨ x.head? ≠ some 10) : ∀ l ∈ feedLinesFrom line x, l ≠ [] := by
  induction x using Decoder.blankLine?.induct generalizing line with
  | case1 => simp [feedLinesFrom]
  | case2 b =>
    intro l hl
    simp only [feedLinesFrom] at hl
    split at hl
    next hb =>
      rw [List.mem_singleton] at hl
      subst hl
      exact hfirst.resolve_right (by simp [hb])
    next => cases hl
  | case3 a b rest hfeeds => simp [blankLine?, hfeeds] at h
  | case4 a b rest hfeeds ih =>
    have hrest : blankLine? (b :: rest) = none := by
      simpa [blankLine?, hfeeds] using h
    intro l hl
    rw [feedLinesFrom] at hl
    split at hl
    next ha =>
      -- the line feed at `a` is not the first half of a blank line
      have hb : b ≠ 10 := fun hb => hfeeds (by simp [ha, hb, lineFeed])
      rcases List.mem_cons.mp hl with rfl | hl
      · exact hfirst.resolve_right (by simp [ha])
      · exact ih hrest (Or.inr (by simpa using hb)) l hl
    next => exact ih hrest (Or.inl (by simp)) l hl

/-- Where no blank line is, no line is empty but perhaps the first. -/
theorem lines_of_noBlankLine {x : List UInt8} (h : blankLine? x = none) :
    ∀ l ∈ (feedLinesFrom [] x).tail, l ≠ [] := by
  cases x with
  | nil => simp [feedLinesFrom]
  | cons a rest =>
    intro l hl
    by_cases ha : a = 10
    · rw [feedLinesFrom, if_pos ha, List.tail_cons] at hl
      cases rest with
      | nil => cases hl
      | cons b later =>
        have hb : ¬(a == lineFeed && b == lineFeed) = true := by
          intro hfeeds
          simp [blankLine?, hfeeds] at h
        have hrest : blankLine? (b :: later) = none := by
          simpa [blankLine?, hb] using h
        refine feedLinesFrom_ne_nil hrest (Or.inr ?_) l hl
        intro heq
        simp only [List.head?_cons, Option.some.injEq] at heq
        exact hb (by simp [ha, heq, lineFeed])
    · exact feedLinesFrom_ne_nil h (Or.inr (by simpa using ha)) l (List.mem_of_mem_tail hl)

/-- Before the leftmost blank line stands a block that no line feed ends. -/
theorem blankLine?_split {x : List UInt8} {at_ : Nat} (h : blankLine? x = some at_) :
    x = x.take at_ ++ 10 :: 10 :: x.drop (at_ + 2)
      ∧ blankLine? (x.take at_ ++ [10]) = none := by
  induction x using Decoder.blankLine?.induct generalizing at_ with
  | case1 => simp [blankLine?] at h
  | case2 => simp [blankLine?] at h
  | case3 a b rest hfeeds =>
    simp only [blankLine?, hfeeds, if_true, Option.some.injEq] at h
    subst h
    simp only [Bool.and_eq_true, beq_iff_eq, lineFeed] at hfeeds
    exact ⟨by simp [hfeeds], rfl⟩
  | case4 a b rest hfeeds ih =>
    simp only [blankLine?, hfeeds, Bool.false_eq_true, if_false, Option.map_eq_some_iff] at h
    obtain ⟨n, hn, rfl⟩ := h
    obtain ⟨hsplit, hnone⟩ := ih hn
    refine ⟨?_, ?_⟩
    · calc a :: b :: rest
        _ = a :: ((b :: rest).take n ++ 10 :: 10 :: (b :: rest).drop (n + 2)) :=
          congrArg (a :: ·) hsplit
        _ = _ := rfl
    · show blankLine? (a :: ((b :: rest).take n ++ [10])) = none
      -- the octet behind `a` is `b`, or the line feed at the end when the block is `a` alone
      cases n with
      | zero =>
        have hb : b = 10 := by simpa using congrArg List.head? hsplit
        have ha : a ≠ 10 := fun ha => hfeeds (by simp [ha, hb, lineFeed])
        simp [blankLine?, lineFeed, ha]
      | succ n =>
        simp only [List.take_succ_cons, List.cons_append] at hnone ⊢
        rw [blankLine?, if_neg hfeeds, hnone]
        rfl

/-- The first line feed of a blank line ends the last line before it, the second one an empty
line. -/
theorem feedLinesFrom_of_blankLine? {x : List UInt8} {at_ : Nat} (h : blankLine? x = some at_) :
    feedLinesFrom [] x
      = feedLinesFrom [] (x.take at_ ++ [10]) ++ [] :: feedLinesFrom [] (x.drop (at_ + 2)) := by
  calc feedLinesFrom [] x
    _ = feedLinesFrom [] (x.take at_ ++ 10 :: 10 :: x.drop (at_ + 2)) :=
      congrArg (feedLinesFrom []) (blankLine?_split h).1
    _ = _ := feedLinesFrom_append [] _ _

/-! ## Text of a block -/

/-- The lines of a decoded block are its lines, decoded one by one. -/
theorem lines_decode_append {line : List UInt8} (h : (10 : UInt8) ∉ line) (block : List UInt8) :
    Frame.lines (Text.Utf8.decode (line ++ block))
      = (feedLinesFrom line (block ++ [10])).map Text.Utf8.decode := by
  induction block generalizing line with
  | nil =>
    rw [List.append_nil, Frame.lines,
      Text.splitAt_of_not_mem (Text.Utf8.lineFeed_not_mem_decode h)]
    rfl
  | cons b rest ih =>
    rw [List.cons_append, feedLinesFrom]
    split
    next hb =>
      rw [hb, Text.Utf8.decode_lineFeed, Frame.lines,
        Text.splitAt_append (Text.Utf8.lineFeed_not_mem_decode h), List.map_cons]
      exact congrArg _ (@ih [] (by simp))
    next hb =>
      have hmore : (10 : UInt8) ∉ line ++ [b] := by
        simpa [h] using fun heq : 10 = b => hb heq.symm
      rw [← ih hmore, List.append_assoc]
      rfl

theorem lines_decode (block : List UInt8) :
    Frame.lines (Text.Utf8.decode block)
      = (feedLinesFrom [] (block ++ [10])).map Text.Utf8.decode :=
  @lines_decode_append [] (by simp) block

/-! ## What is pending -/

/-- What the lines of a block have said, as texts. -/
def Pending.ofFields (f : Frame.Fields) : Pending :=
  ⟨f.event.map String.ofList, f.data.map String.ofList, f.id.map String.ofList, f.retry⟩

theorem field_eq (line : List Char) :
    Frame.field line = (line.takeWhile (· ≠ ':'), Pending.fieldValue line) := by
  unfold Frame.field Pending.fieldValue
  rw [List.span_eq_takeWhile_dropWhile]
  rcases line.dropWhile (· ≠ ':') with _ | ⟨c, _ | ⟨d, value⟩⟩
  · rfl
  · rfl
  · by_cases hd : d = ' '
    · subst hd
      rfl
    · simp [hd]

theorem ofList_eq_iff (cs : List Char) (s : String) : String.ofList cs = s ↔ cs = s.toList := by
  rw [← String.toList_inj, String.toList_ofList]

/-- A line says the same to both readings. -/
theorem read_ofFields (f : Frame.Fields) (line : List Char) :
    (Pending.ofFields f).read line = Pending.ofFields (f.addLine line) := by
  cases line with
  | nil => rfl
  | cons c rest =>
    by_cases hc : c = ':'
    · subst hc
      rfl
    · have hcolon : ¬(c :: rest).head? = some ':' := by simpa using hc
      rw [Frame.Fields.addLine, Pending.read, if_neg hcolon, field_eq]
      · simp only [Pending.fieldName, ofList_eq_iff]
        split
        · rfl
        · split
          · simp [Pending.ofFields]
          · split
            · rfl
            · split <;> rfl
      · simp
      · simpa using hc

/-- An empty line makes the frame of the block that it ends. -/
theorem frame?_ofFields (f : Frame.Fields) : (Pending.ofFields f).frame? = f.frame? := by
  have hdata : String.intercalate "\n" (f.data.map String.ofList)
      = String.ofList (List.intercalate ['\n'] f.data) := by
    rw [← String.toList_inj, String.toList_intercalate, String.toList_ofList, List.map_map]
    simp
  unfold Pending.frame? Frame.Fields.frame? Pending.ofFields
  simp only [List.isEmpty_iff, List.map_eq_nil_iff, hdata]
  split
  · rfl
  · rcases f.event with _ | _ | ⟨c, cs⟩
    · rfl
    · rfl
    · simp

theorem frame?_empty : Pending.empty.frame? = none :=
  rfl

/-! ## Blocks and lines -/

/-- What the fields of a block say after some more of its lines. -/
def gather (f : Frame.Fields) (lines : List (List UInt8)) : Frame.Fields :=
  lines.foldl (fun f l => f.addLine (Text.Utf8.decode l)) f

/-- Lines none of which is empty make no frame until an empty one comes. -/
theorem interpretFrom_append (f : Frame.Fields) {lines : List (List UInt8)}
    (h : ∀ l ∈ lines, l ≠ []) (later : List (List UInt8)) :
    interpretFrom (.ofFields f) (lines ++ later)
      = interpretFrom (.ofFields (gather f lines)) later := by
  induction lines generalizing f with
  | nil => rfl
  | cons l rest ih =>
    rw [List.cons_append, interpretFrom, if_neg (h l (List.mem_cons_self ..)), read_ofFields,
      ih _ fun m hm => h m (List.mem_cons_of_mem _ hm)]
    rfl

/-- An empty line at a time when nothing is pending does nothing, to either reading. -/
theorem interpretFrom_empty_append {lines : List (List UInt8)} (h : ∀ l ∈ lines.tail, l ≠ [])
    (later : List (List UInt8)) :
    interpretFrom .empty (lines ++ later)
      = interpretFrom (.ofFields (gather .empty lines)) later := by
  cases lines with
  | nil => rfl
  | cons l rest =>
    by_cases hl : l = []
    · rw [List.cons_append, interpretFrom, if_pos hl, frame?_empty, hl]
      exact interpretFrom_append .empty h later
    · refine interpretFrom_append .empty (fun m hm => ?_) later
      rcases List.mem_cons.mp hm with rfl | hm
      · exact hl
      · exact h m hm

/-- The frame of a block, line by line. -/
theorem ofBlock?_decode (block : List UInt8) :
    Frame.ofBlock? (Text.Utf8.decode block)
      = (gather .empty (feedLinesFrom [] (block ++ [10]))).frame? := by
  rw [Frame.ofBlock?, lines_decode, List.foldl_map]
  rfl

/-- **Blocks and lines give the same frames**, from one blank line to the next. -/
theorem frames_cut (x : List UInt8) :
    Decoder.frames (cut 0 x).1 = interpretFrom .empty (feedLinesFrom [] x) := by
  induction x using Decoder.block_induction with
  | last x hfound =>
    have hquiet := interpretFrom_empty_append (lines_of_noBlankLine hfound) []
    rw [List.append_nil] at hquiet
    rw [Decoder.cut_zero_of_none hfound, hquiet]
    rfl
  | block x at_ hfound ih =>
    rw [Decoder.cut_zero_of_some hfound, feedLinesFrom_of_blankLine? hfound,
      interpretFrom_empty_append (lines_of_noBlankLine (blankLine?_split hfound).2), interpretFrom,
      if_pos rfl,
      frame?_ofFields, ← ofBlock?_decode, ← ih]
    unfold Decoder.frames
    rw [List.filterMap_cons]
    cases Frame.ofBlock? (Text.Utf8.decode (x.take at_)) <;> rfl

/-- A body with uniform line ends falls into blocks as the body itself falls into lines. -/
theorem frames_cut_normalize (octets : List UInt8) :
    Decoder.frames (cut 0 (Decoder.normalize false octets).1).1 = interpret octets := by
  rw [frames_cut, interpret, linesFrom_normalize]

/-- **The decoder reads lines.** Whatever octets a body consists of, well-formed UTF-8 or not, with
any mixture of line ends and of empty lines, the frames that a fresh decoder gives for them are
those of the reading by lines. -/
theorem frames_eq_interpret (octets : List UInt8) :
    (Decoder.fresh.push octets).1 = interpret octets := by
  rw [Decoder.push_of_settled Decoder.Reachable.fresh.settled]
  exact frames_cut_normalize octets

end ActivityFeed.EventStream
