import ActivityFeed.Proofs.Frame.Lines
import ActivityFeed.Proofs.Text.Utf8RoundTrip
import ActivityFeed.Sync.Scenario

/-!
# Frames that are read as they were written

A frame is written as one line for each thing it says: its type, its identifier and its delay if it
has them, and each line of its data. Comments may stand anywhere among these lines, an empty line
follows them, and all have the same end, which each frame chooses for itself (`Writes`).

Such octets are read back whatever the texts are like. Nothing in a text can be taken for the end of
its line (`isLine_of_mem_fieldLines`), so the octets fall into the lines that were written
(`feedLines_close`), with one end as with another (`normalize_close`). No line is empty but the
last one, which is why the octets make one block and nothing is left over (`cut_close`). The next
frame starts with no line feed that a carriage return before it could swallow
(`IsRun.head_close`), so that frames are read one after the other (`push_written`).

Main results: `frames_of_written`, and `frames_of_sent` for a frame as a server sends it.
-/

namespace ActivityFeed.EventStream

open Decoder (blankLine? cut)

/-! ## Writing -/

/-- A text without line ends. -/
def IsLine (s : String) : Prop :=
  '\n' ∉ s.toList ∧ '\r' ∉ s.toList

/-- A frame that can be written: it has a type, and its texts hold no line ends but the line feeds
between the lines of its data. -/
structure IsWritable (f : Frame) : Prop where
  event_ne : f.event ≠ ""
  event : IsLine f.event
  data : '\r' ∉ f.data.toList
  id : ∀ id ∈ f.id, IsLine id
  retry : ∀ n ∈ f.retry, n ≤ Text.maxWord

/-- The lines that say what a frame says. -/
def fieldLines (f : Frame) : List String :=
  ("event: " ++ f.event)
    :: (f.id.map fun id => "id: " ++ id).toList
    ++ (f.retry.map fun n => "retry: " ++ String.ofList (Text.decimal n)).toList
    ++ (Frame.lines f.data.toList).map fun line => "data: " ++ String.ofList line

/-- A way to end a line. -/
inductive LineEnd where
  | lineFeed
  | carriageReturn
  /-- A carriage return and a line feed. -/
  | both
deriving DecidableEq, Repr, Inhabited

/-- The octets that end a line. -/
def LineEnd.octets : LineEnd → List UInt8
  | .lineFeed => [10]
  | .carriageReturn => [13]
  | .both => [13, 10]

/-- Lines one after the other, each of them ended. -/
def LineEnd.close (e : LineEnd) (lines : List (List UInt8)) : List UInt8 :=
  lines.flatMap (· ++ e.octets)

/-- Octets that are not of a line end. -/
def IsQuiet (octets : List UInt8) : Prop :=
  ∀ b ∈ octets, b ≠ 10 ∧ b ≠ 13

/-- Lines, and the same lines with comments anywhere among them. A comment is a colon and any octets
after it, be they text or not. -/
inductive Commented : List (List UInt8) → List (List UInt8) → Prop
  | nil : Commented [] []
  | line (l : List UInt8) {ls ms : List (List UInt8)} (h : Commented ls ms) :
    Commented (l :: ls) (l :: ms)
  | comment {c : List UInt8} (hc : IsQuiet c) {ls ms : List (List UInt8)} (h : Commented ls ms) :
    Commented ls ((58 :: c) :: ms)

/-- The octets write the frame. -/
inductive Writes (f : Frame) : List UInt8 → Prop
  | intro (e : LineEnd) {lines : List (List UInt8)}
      (h : Commented ((fieldLines f).map Text.Utf8.ofString) lines) :
    Writes f (e.close (lines ++ [[]]))

variable {f : Frame}

theorem Commented.refl (ls : List (List UInt8)) : Commented ls ls := by
  induction ls with
  | nil => exact .nil
  | cons l ls ih => exact .line l ih

theorem Commented.concat {ls ms : List (List UInt8)} (h : Commented ls ms) {c : List UInt8}
    (hc : IsQuiet c) : Commented ls (ms ++ [58 :: c]) := by
  induction h with
  | nil => exact .comment hc .nil
  | line l _ ih => exact .line l ih
  | comment hfirst _ ih => exact .comment hfirst ih

/-! ## Lines -/

theorem isQuiet_ofString {s : String} (h : IsLine s) : IsQuiet (Text.Utf8.ofString s) := by
  intro b hb
  constructor
  · rintro rfl
    exact Text.Utf8.not_mem_encode (c := '\n') (by decide) h.1 hb
  · rintro rfl
    exact Text.Utf8.not_mem_encode (c := '\r') (by decide) h.2 hb

theorem IsLine.append {s t : String} (hs : IsLine s) (ht : IsLine t) : IsLine (s ++ t) := by
  obtain ⟨hsfeed, hsreturn⟩ := hs
  obtain ⟨htfeed, htreturn⟩ := ht
  simp only [IsLine, String.toList_append, List.mem_append]
  tauto

theorem isLine_decimal (n : Nat) : IsLine (String.ofList (Text.decimal n)) := by
  rw [IsLine, String.toList_ofList]
  constructor
  · intro hfeed
    exact absurd (Text.isDigit_of_mem_decimal hfeed) (by decide)
  · intro hreturn
    exact absurd (Text.isDigit_of_mem_decimal hreturn) (by decide)

/-- A line of the data holds what the data holds, and no line feed. -/
theorem isLine_of_mem_lines {data : List Char} (h : '\r' ∉ data) {line : List Char}
    (hline : line ∈ Frame.lines data) : IsLine (String.ofList line) := by
  rw [IsLine, String.toList_ofList]
  constructor
  · intro hfeed
    have hno := Text.forall_split (· == '\n') data line hline '\n' hfeed
    simp at hno
  · intro hreturn
    exact h (Text.mem_of_mem_split hline hreturn)

/-- What a frame says takes a line each. -/
theorem isLine_of_mem_fieldLines (h : IsWritable f) : ∀ l ∈ fieldLines f, IsLine l := by
  intro l hl
  simp only [fieldLines, List.mem_append, List.mem_cons, List.mem_map, Option.mem_toList,
    Option.map_eq_some_iff] at hl
  rcases hl with ((rfl | ⟨id, hid, rfl⟩) | ⟨n, -, rfl⟩) | ⟨line, hline, rfl⟩
  · exact IsLine.append ⟨by decide, by decide⟩ h.event
  · exact IsLine.append ⟨by decide, by decide⟩ (h.id id hid)
  · exact IsLine.append ⟨by decide, by decide⟩ (isLine_decimal n)
  · exact IsLine.append ⟨by decide, by decide⟩ (isLine_of_mem_lines h.data hline)

/-- Comments end no line either. -/
theorem Commented.isQuiet {ls ms : List (List UInt8)} (h : Commented ls ms)
    (hls : ∀ l ∈ ls, IsQuiet l) : ∀ m ∈ ms, IsQuiet m := by
  induction h with
  | nil => exact hls
  | line l _ ih =>
    rw [List.forall_mem_cons] at hls ⊢
    exact ⟨hls.1, ih hls.2⟩
  | comment hc _ ih =>
    rw [List.forall_mem_cons]
    exact ⟨List.forall_mem_cons.mpr ⟨⟨by decide, by decide⟩, hc⟩, ih hls⟩

/-- Comments are not empty lines. -/
theorem Commented.ne_nil {ls ms : List (List UInt8)} (h : Commented ls ms)
    (hls : ∀ l ∈ ls, l ≠ []) : ∀ m ∈ ms, m ≠ [] := by
  induction h with
  | nil => exact hls
  | line l _ ih =>
    rw [List.forall_mem_cons] at hls ⊢
    exact ⟨hls.1, ih hls.2⟩
  | comment _ _ ih =>
    rw [List.forall_mem_cons]
    exact ⟨List.cons_ne_nil _ _, ih hls⟩

/-! ## Line ends -/

@[simp] theorem close_nil (e : LineEnd) : e.close [] = [] :=
  rfl

theorem close_cons (e : LineEnd) (l : List UInt8) (ls : List (List UInt8)) :
    e.close (l :: ls) = l ++ (e.octets ++ e.close ls) := by
  rw [LineEnd.close, List.flatMap_cons, List.append_assoc]
  rfl

theorem close_append (e : LineEnd) (ls ms : List (List UInt8)) :
    e.close (ls ++ ms) = e.close ls ++ e.close ms :=
  List.flatMap_append

/-- Closed lines start with a line feed only where line feeds end them. -/
theorem head_close {e : LineEnd} (he : e ≠ .lineFeed) {ls : List (List UInt8)}
    (hls : ∀ l ∈ ls, IsQuiet l) (later : List UInt8) : e.close ls ≠ 10 :: later := by
  intro heq
  cases ls with
  | nil => cases heq
  | cons l ls =>
    rw [close_cons] at heq
    cases l with
    | nil => cases e <;> first | exact he rfl | cases heq
    | cons b l =>
      have hb : b = 10 := (List.cons.inj heq).1
      exact (hls (b :: l) (List.mem_cons_self ..) b (List.mem_cons_self ..)).1 hb

theorem normalize_quiet {l : List UInt8} (hl : IsQuiet l) (later : List UInt8) :
    (Decoder.normalize false (l ++ later)).1 = l ++ (Decoder.normalize false later).1 := by
  induction l with
  | nil => rfl
  | cons b l ih =>
    rw [IsQuiet, List.forall_mem_cons] at hl
    rw [List.cons_append, normalize_other hl.1.2, ih hl.2]
    rfl

/-- **One line end is as good as another.** -/
theorem normalize_close (e : LineEnd) {ls : List (List UInt8)} (hls : ∀ l ∈ ls, IsQuiet l) :
    (Decoder.normalize false (e.close ls)).1 = LineEnd.lineFeed.close ls := by
  induction ls with
  | nil => rfl
  | cons l ls ih =>
    rw [List.forall_mem_cons] at hls
    have hend : (Decoder.normalize false (e.octets ++ e.close ls)).1
        = 10 :: (Decoder.normalize false (e.close ls)).1 := by
      cases e with
      | lineFeed => exact normalize_other (by decide) _
      | carriageReturn => exact normalize_return (head_close (by decide) hls.2)
      | both => exact normalize_returnFeed _
    rw [close_cons, normalize_quiet hls.1, hend, ih hls.2, close_cons]
    rfl

theorem feedLinesFrom_quiet {l : List UInt8} (hl : IsQuiet l) (line later : List UInt8) :
    feedLinesFrom line (l ++ 10 :: later) = (line ++ l) :: feedLinesFrom [] later := by
  induction l generalizing line with
  | nil => rw [List.nil_append, feedLinesFrom, if_pos rfl, List.append_nil]
  | cons b l ih =>
    rw [IsQuiet, List.forall_mem_cons] at hl
    rw [List.cons_append, feedLinesFrom, if_neg hl.1.1, ih hl.2, List.append_assoc]
    rfl

/-- Lines are found as they were closed. -/
theorem feedLines_close {ls : List (List UInt8)} (hls : ∀ l ∈ ls, IsQuiet l) :
    feedLinesFrom [] (LineEnd.lineFeed.close ls) = ls := by
  induction ls with
  | nil => rfl
  | cons l ls ih =>
    rw [List.forall_mem_cons] at hls
    rw [close_cons]
    show feedLinesFrom [] (l ++ 10 :: LineEnd.lineFeed.close ls) = l :: ls
    rw [feedLinesFrom_quiet hls.1, ih hls.2, List.nil_append]

/-! ## One block -/

/-- Where no line is empty, no blank line is. -/
theorem blankLine?_of_lines {x : List UInt8} (h : ∀ l ∈ feedLinesFrom [] x, l ≠ []) :
    blankLine? x = none := by
  cases hfound : blankLine? x with
  | none => rfl
  | some at_ =>
    refine absurd rfl (h [] ?_)
    rw [feedLinesFrom_of_blankLine? hfound]
    exact List.mem_append_right _ (List.mem_cons_self ..)

/-- A second line feed makes the first blank line. -/
theorem blankLine?_concat {block : List UInt8} (h : blankLine? (block ++ [10]) = none) :
    blankLine? (block ++ [10] ++ [10]) = some block.length := by
  have hsearch := Decoder.blankLineFrom?_append h [10]
  rw [← hsearch, Decoder.blankLineFrom?, List.length_append, List.length_singleton,
    Nat.add_sub_cancel, List.append_assoc, List.drop_left]
  rfl

/-- Lines that are not empty, and an empty one after them, leave nothing over. -/
theorem cut_close {ls : List (List UInt8)} (hsome : ls ≠ []) (hquiet : ∀ l ∈ ls, IsQuiet l)
    (hne : ∀ l ∈ ls, l ≠ []) : (cut 0 (LineEnd.lineFeed.close (ls ++ [[]]))).2 = [] := by
  obtain ⟨init, last, rfl⟩ : ∃ init last, ls = init ++ [last] :=
    ⟨_, _, (List.dropLast_concat_getLast hsome).symm⟩
  have hblock : LineEnd.lineFeed.close (init ++ [last])
      = LineEnd.lineFeed.close init ++ last ++ [10] := by
    rw [close_append, close_cons, close_nil, List.append_nil, List.append_assoc]
    rfl
  have hnone : blankLine? (LineEnd.lineFeed.close init ++ last ++ [10]) = none := by
    rw [← hblock]
    apply blankLine?_of_lines
    rw [feedLines_close hquiet]
    exact hne
  have hend : LineEnd.lineFeed.close (init ++ [last] ++ [[]])
      = LineEnd.lineFeed.close init ++ last ++ [10] ++ [10] := by
    rw [close_append, hblock]
    rfl
  have hrest : (LineEnd.lineFeed.close init ++ last ++ [10] ++ [10]).drop
      ((LineEnd.lineFeed.close init ++ last).length + 2) = [] := by
    apply List.drop_eq_nil_of_le
    simp only [List.length_append, List.length_singleton]
    omega
  rw [hend, Decoder.cut_zero_of_some (blankLine?_concat hnone), hrest,
    Decoder.cut_zero_of_none rfl]

/-! ## What the lines say -/

/-- A comment says nothing. -/
theorem gather_commented (g : Frame.Fields) {ls ms : List (List UInt8)} (h : Commented ls ms) :
    gather g ms = gather g ls := by
  induction h generalizing g with
  | nil => rfl
  | line l _ ih => exact ih _
  | comment _ _ ih => exact ih g

theorem field_named {name : List Char} (hname : ':' ∉ name) (value : List Char) :
    Frame.field (name ++ ':' :: ' ' :: value) = (name, value) := by
  have hkept : ∀ c ∈ name, (c ≠ ':' : Bool) = true := by
    intro c hc
    simpa using fun heq : c = ':' => hname (heq ▸ hc)
  unfold Frame.field
  rw [List.span_eq_takeWhile_dropWhile, List.takeWhile_append_of_pos hkept,
    List.dropWhile_append_of_pos hkept, List.takeWhile_cons_of_neg (by simp),
    List.dropWhile_cons_of_neg (by simp), List.append_nil]
  rfl

/-- A line is the name of a field, a colon, a blank and the value. -/
theorem addLine_named (g : Frame.Fields) (name : List Char) (hname : ':' ∉ name) (hne : name ≠ [])
    (value : List Char) :
    g.addLine (name ++ ':' :: ' ' :: value)
      = if name = "event".toList then { g with event := some value }
        else if name = "data".toList then { g with data := g.data ++ [value] }
        else if name = "id".toList then { g with id := some value }
        else if name = "retry".toList then { g with retry := Text.word? (Text.trim value) }
        else g := by
  rw [Frame.Fields.addLine, field_named hname]
  · intro hnil
    simp [hne] at hnil
  · intro tail hcolon
    cases name with
    | nil => exact hne rfl
    | cons c cs =>
      have hc : c = ':' := (List.cons.inj hcolon).1
      exact hname (hc ▸ List.mem_cons_self ..)

theorem gather_append (g : Frame.Fields) (ls ms : List (List UInt8)) :
    gather g (ls ++ ms) = gather (gather g ls) ms :=
  List.foldl_append

theorem gather_ofString (g : Frame.Fields) (l : String) (ls : List (List UInt8)) :
    gather g (Text.Utf8.ofString l :: ls) = gather (g.addLine l.toList) ls := by
  rw [gather, List.foldl_cons, Text.Utf8.ofString, Text.Utf8.decode_encode]
  rfl

theorem toList_append_ofList (s : String) (cs : List Char) :
    (s ++ String.ofList cs).toList = s.toList ++ cs := by
  rw [String.toList_append, String.toList_ofList]

/-- The lines of data come after those before them. -/
theorem gather_data (g : Frame.Fields) (lines : List (List Char)) :
    gather g ((lines.map fun line => "data: " ++ String.ofList line).map Text.Utf8.ofString)
      = { g with data := g.data ++ lines } := by
  induction lines generalizing g with
  | nil => rw [List.append_nil]; rfl
  | cons line lines ih =>
    have hline : g.addLine ("data: " ++ String.ofList line).toList
        = { g with data := g.data ++ [line] } := by
      rw [toList_append_ofList]
      exact addLine_named g "data".toList (by decide) (by decide) line
    rw [List.map_cons, List.map_cons, gather_ofString, hline, ih, List.append_assoc]
    rfl

/-- **The lines of a frame say what the frame says.** -/
theorem gather_fieldLines (h : IsWritable f) :
    gather .empty ((fieldLines f).map Text.Utf8.ofString)
      = ⟨some f.event.toList, Frame.lines f.data.toList, f.id.map String.toList, f.retry⟩ := by
  -- one field after the other, in the order in which they are written
  have hevent : Frame.Fields.empty.addLine ("event: " ++ f.event).toList
      = ⟨some f.event.toList, [], none, none⟩ := by
    rw [String.toList_append]
    exact addLine_named .empty "event".toList (by decide) (by decide) f.event.toList
  have hid : gather ⟨some f.event.toList, [], none, none⟩
        ((f.id.map fun id => "id: " ++ id).toList.map Text.Utf8.ofString)
      = ⟨some f.event.toList, [], f.id.map String.toList, none⟩ := by
    cases f.id with
    | none => rfl
    | some id =>
      rw [Option.map_some, Option.toList_some, List.map_singleton, gather_ofString,
        String.toList_append]
      exact addLine_named _ "id".toList (by decide) (by decide) id.toList
  have hretry : gather ⟨some f.event.toList, [], f.id.map String.toList, none⟩
        ((f.retry.map fun n => "retry: " ++ String.ofList (Text.decimal n)).toList.map
          Text.Utf8.ofString)
      = ⟨some f.event.toList, [], f.id.map String.toList, f.retry⟩ := by
    cases hf : f.retry with
    | none => rfl
    | some n =>
      have hn : Text.word? (Text.trim (Text.decimal n)) = some n := by
        rw [Text.trim_eq_self fun c hc => Text.isSpace_of_isDigit (Text.isDigit_of_mem_decimal hc),
          Text.word?_decimal (h.retry n hf)]
      rw [Option.map_some, Option.toList_some, List.map_singleton, gather_ofString,
        toList_append_ofList]
      refine (addLine_named _ "retry".toList (by decide) (by decide)
        (Text.decimal n)).trans ?_
      rw [hn]
      rfl
  rw [fieldLines, List.map_append, List.map_append, List.map_cons, gather_append, gather_append,
    gather_ofString, hevent, hid, hretry, gather_data]
  rfl

/-- What is said makes the frame. -/
theorem frame?_fieldLines (h : IsWritable f) :
    (gather .empty ((fieldLines f).map Text.Utf8.ofString)).frame? = some f := by
  have hdata : (Frame.lines f.data.toList).isEmpty = false := by
    rw [List.isEmpty_eq_false_iff]
    exact Text.split_ne_nil _ _
  obtain ⟨c, cs, hevent⟩ : ∃ c cs, f.event.toList = c :: cs := by
    apply List.exists_cons_of_ne_nil
    intro hnil
    exact h.event_ne (String.toList_eq_nil_iff.mp hnil)
  rw [gather_fieldLines h, Frame.Fields.frame?]
  simp only [hdata, Bool.false_eq_true, if_false, hevent]
  rw [← hevent, Frame.lines, Text.intercalate_splitAt]
  simp

/-! ## Whole frames -/

/-- No line of a frame is empty: it starts with the name of its field. -/
theorem ne_nil_of_mem_fieldLines : ∀ l ∈ (fieldLines f).map Text.Utf8.ofString, l ≠ [] := by
  intro l hl hempty
  obtain ⟨s, hs, rfl⟩ := List.mem_map.mp hl
  have hnil : s.toList = [] := by
    rw [← Text.Utf8.decode_encode s.toList]
    exact congrArg Text.Utf8.decode hempty
  simp only [fieldLines, List.mem_append, List.mem_cons, List.mem_map, Option.mem_toList,
    Option.map_eq_some_iff] at hs
  rcases hs with ((rfl | ⟨id, -, rfl⟩) | ⟨n, -, rfl⟩) | ⟨line, -, rfl⟩ <;>
    simp at hnil

/-- The lines that write a frame, comments among them. -/
structure IsRun (f : Frame) (lines : List (List UInt8)) : Prop where
  quiet : ∀ l ∈ lines, IsQuiet l
  ne_nil : ∀ l ∈ lines, l ≠ []
  nonempty : lines ≠ []
  frame : (gather .empty lines).frame? = some f

theorem isRun_of_commented (h : IsWritable f) {lines : List (List UInt8)}
    (hlines : Commented ((fieldLines f).map Text.Utf8.ofString) lines) : IsRun f lines where
  quiet := by
    apply hlines.isQuiet
    intro l hl
    obtain ⟨s, hs, rfl⟩ := List.mem_map.mp hl
    exact isQuiet_ofString (isLine_of_mem_fieldLines h s hs)
  ne_nil := hlines.ne_nil ne_nil_of_mem_fieldLines
  nonempty := by
    rintro rfl
    cases hlines
  frame := by
    rw [gather_commented _ hlines, frame?_fieldLines h]

variable {lines : List (List UInt8)}

/-- The empty line ends no line before it. -/
theorem IsRun.quiet_concat (h : IsRun f lines) : ∀ l ∈ lines ++ [[]], IsQuiet l := by
  intro l hl
  rcases List.mem_append.mp hl with hl | hl
  · exact h.quiet l hl
  · rw [List.mem_singleton.mp hl]
    exact fun b hb => absurd hb List.not_mem_nil

/-- A frame starts with no line feed: its first line is not empty. -/
theorem IsRun.head_close (h : IsRun f lines) (e : LineEnd) (later : List UInt8) :
    e.close (lines ++ [[]]) ≠ 10 :: later := by
  intro heq
  obtain ⟨l, rest, rfl⟩ := List.exists_cons_of_ne_nil h.nonempty
  obtain ⟨b, l, rfl⟩ := List.exists_cons_of_ne_nil (h.ne_nil _ (List.mem_cons_self ..))
  rw [List.cons_append, close_cons] at heq
  have hb : b = 10 := (List.cons.inj heq).1
  exact (h.quiet _ (List.mem_cons_self ..) b (List.mem_cons_self ..)).1 hb

/-- What the decoder still has to do about the last line end does not matter to octets that do not
start with a line feed. -/
theorem normalize_of_head {octets : List UInt8} (h : ∀ later, octets ≠ 10 :: later)
    (afterReturn : Bool) :
    (Decoder.normalize afterReturn octets).1 = (Decoder.normalize false octets).1 := by
  cases octets with
  | nil => rfl
  | cons b rest =>
    have hb : (b == Decoder.lineFeed) = false := by
      rw [beq_eq_false_iff_ne]
      exact fun heq => h rest (heq ▸ rfl)
    rw [Decoder.normalize, Decoder.normalize, hb, Bool.and_false, Bool.and_false]

/-- **What is written is read**, and nothing of it stays with the decoder, which may have decoded
whole frames before. -/
theorem push_written (h : IsWritable f) {octets : List UInt8} (hwrites : Writes f octets)
    {d : Decoder} (hsettled : d.Settled) (hbuffer : d.buffer = []) :
    (d.push octets).1 = [f] ∧ (d.push octets).2.buffer = [] := by
  obtain ⟨e, hlines⟩ := hwrites
  have hrun := isRun_of_commented h hlines
  rw [Decoder.push_of_settled hsettled, hbuffer, List.nil_append,
    normalize_of_head (hrun.head_close e), normalize_close e hrun.quiet_concat]
  constructor
  · show Decoder.frames _ = [f]
    rw [frames_cut, feedLines_close hrun.quiet_concat]
    show interpretFrom (.ofFields .empty) _ = [f]
    rw [interpretFrom_append .empty hrun.ne_nil, interpretFrom, if_pos rfl, frame?_ofFields,
      hrun.frame]
    rfl
  · exact cut_close hrun.nonempty hrun.quiet hrun.ne_nil

/-- Frame after frame is read. -/
theorem push_flatten {frames : List Frame} {pieces : List (List UInt8)}
    (hframes : ∀ f ∈ frames, IsWritable f) (hpieces : List.Forall₂ Writes frames pieces)
    {d : Decoder} (hsettled : d.Settled) (hbuffer : d.buffer = []) :
    (d.push pieces.flatten).1 = frames ∧ (d.push pieces.flatten).2.buffer = [] := by
  induction hpieces generalizing d with
  | nil =>
    rw [List.flatten_nil, Decoder.push_nil hsettled]
    exact ⟨rfl, hbuffer⟩
  | cons hpiece _ ih =>
    rw [List.forall_mem_cons] at hframes
    -- the first frame leaves nothing behind but perhaps a line feed to be swallowed
    obtain ⟨hfirst, hnone⟩ := push_written hframes.1 hpiece hsettled hbuffer
    obtain ⟨hlater, hlast⟩ := ih hframes.2 (Decoder.settled_push hsettled _) hnone
    rw [List.flatten_cons, Decoder.push_push hsettled, hfirst, hlater]
    exact ⟨rfl, hlast⟩

/-- **Frames are read as they were written**: however many there are, whatever their texts,
whichever line ends each of them has and whatever comments stand among its lines, and in whatever
chunks the octets arrive. Nothing is left for a frame that would come after them. -/
theorem frames_of_written {frames : List Frame} {pieces chunks : List (List UInt8)}
    (hframes : ∀ f ∈ frames, IsWritable f) (hpieces : List.Forall₂ Writes frames pieces)
    (hchunks : chunks.flatten = pieces.flatten) :
    (Decoder.fresh.pushAll chunks).1 = frames ∧ (Decoder.fresh.pushAll chunks).2.buffer = [] := by
  rw [Decoder.pushAll_eq_push_flatten Decoder.Reachable.fresh.settled, hchunks]
  exact push_flatten hframes hpieces Decoder.Reachable.fresh.settled rfl

/-- A frame with texts that look like other lines, data between two line feeds, an identifier that
is there but empty, and the longest delay. -/
def odd : Frame := ⟨" data: é", "\n id: 😀\n", some "", some Text.maxWord⟩

/-- Comments stand before and after the lines of a frame, one of them is not text, and the carriage
returns of this frame come before the line ends of another one; the cuts are in a comment, in a
character, in a name and in a line end. -/
theorem frames_of_written_odd :
    let chunks :=
      [[58], [255, 13] ++ Text.Utf8.ofString "event:  data: é\rid: \rretry: ",
        Text.Utf8.ofString "18446744073709551615\rdata: \rdata:  id: " ++ [240, 159],
        [152, 128, 13] ++ Text.Utf8.ofString "data: \r:\r", [13],
        Text.Utf8.ofString "event: e\r\nda", Text.Utf8.ofString "ta: \r\n\r", [10]]
    (∀ f ∈ [odd, Frame.new "e" ""], IsWritable f)
      ∧ (Decoder.fresh.pushAll chunks).1 = [odd, Frame.new "e" ""]
      ∧ (Decoder.fresh.pushAll chunks).2.buffer = [] := by
  have hodd : IsWritable odd := by
    constructor <;> simp [odd, IsLine]
  have hplain : IsWritable (Frame.new "e" "") := by
    constructor <;> simp [Frame.new, IsLine]
  have hboth : ∀ f ∈ [odd, Frame.new "e" ""], IsWritable f := by
    simp [hodd, hplain]
  have hcommented : Commented ((fieldLines odd).map Text.Utf8.ofString)
      ([58, 255] :: ((fieldLines odd).map Text.Utf8.ofString ++ [[58]])) :=
    .comment (by simp [IsQuiet]) ((Commented.refl _).concat (by simp [IsQuiet]))
  exact ⟨hboth,
    frames_of_written hboth
      (.cons (.intro .carriageReturn hcommented) (.cons (.intro .both (.refl _)) .nil))
      (by decide +kernel)⟩

/-! ## Sending -/

/-- A server that sends a frame writes it. -/
theorem writes_frameOctets {event data : String} (hdata : IsLine data) :
    Writes (Frame.new event data) (Scenario.frameOctets event data) := by
  have hlines : (fieldLines (Frame.new event data)).map Text.Utf8.ofString
      = [Text.Utf8.ofString ("event: " ++ event), Text.Utf8.ofString ("data: " ++ data)] := by
    show (("event: " ++ event) :: (Frame.lines data.toList).map _).map Text.Utf8.ofString = _
    rw [Frame.lines, Text.splitAt_of_not_mem hdata.1, List.map_singleton, String.ofList_toList]
    rfl
  have hlast : Text.Utf8.ofString "\ndata: " = 10 :: Text.Utf8.ofString "data: " := by decide
  have hoctets : Scenario.frameOctets event data
      = LineEnd.lineFeed.close
        ([Text.Utf8.ofString ("event: " ++ event), Text.Utf8.ofString ("data: " ++ data)]
          ++ [[]]) := by
    simp only [Scenario.frameOctets, Text.Utf8.ofString_append, hlast, List.append_assoc,
      List.cons_append, List.nil_append, close_cons, close_nil]
    rfl
  rw [hoctets, ← hlines]
  exact .intro .lineFeed (.refl _)

/-- **What is sent is what arrives**, in whatever chunks. -/
theorem frames_of_sent {event data : String} (hne : event ≠ "") (hevent : IsLine event)
    (hdata : IsLine data) {chunks : List (List UInt8)}
    (h : chunks.flatten = Scenario.frameOctets event data) :
    (Decoder.fresh.pushAll chunks).1 = [Frame.new event data] := by
  have hsettled := Decoder.Reachable.fresh.settled
  have hwritable : IsWritable (Frame.new event data) :=
    { event_ne := hne
      event := hevent
      data := hdata.2
      id := fun id hid => nomatch hid
      retry := fun n hn => nomatch hn }
  rw [Decoder.pushAll_eq_push_flatten hsettled, h]
  exact (push_written hwritable (writes_frameOctets hdata) hsettled rfl).1

end ActivityFeed.EventStream
