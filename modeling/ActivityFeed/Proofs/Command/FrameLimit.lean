import ActivityFeed.Command.Outcome
import ActivityFeed.Proofs.Frame.Chunking
import Mathlib.Data.List.TakeDrop

/-!
# Which frames of a stream are printed

Frames are counted as they are printed, chunk by chunk, and a limit is looked at behind each frame.
So the count at the limit lies anywhere in a chunk, and what is printed is nevertheless the
beginning of the frames of the whole body: `room` is how many more frames there may be, and
`shown_of_room` and `run_of_room` say that as many are taken, from one chunk and from all of them.

Because the limit is looked at only behind a frame, the first frame is printed whatever the limit,
and a limit of zero is one of one (`room`). This is more than was asked for
(`output_of_limit_zero`).

Main result: `outcome_of_frames`.
-/

namespace ActivityFeed.Command

namespace Dump

/-- How many frames may be printed after `count` others; the first one may whatever the limit. -/
def room (limit : Option Nat) (count : Nat) : Option Nat :=
  limit.map fun n => max 1 n - count

/-- The frames for which there is room. -/
def fitting (room : Option Nat) (frames : List Frame) : List Frame :=
  match room with
  | none => frames
  | some n => frames.take n

/-- Whether frames take up all the room. -/
def isFilled (room : Option Nat) (frames : List Frame) : Bool :=
  room.any (· ≤ frames.length)

/-- Whether at least one more frame may be printed. -/
def HasRoom (limit : Option Nat) (count : Nat) : Prop :=
  ∀ n ∈ limit, count < max 1 n

theorem hasRoom_zero (limit : Option Nat) : HasRoom limit 0 :=
  fun _ _ => Nat.lt_of_lt_of_le Nat.zero_lt_one (Nat.le_max_left ..)

section Room

variable {limit : Option Nat} {count : Nat} {frames : List Frame}

theorem room_add (limit : Option Nat) (count more : Nat) :
    room limit (count + more) = (room limit count).map (· - more) := by
  cases limit with
  | none => rfl
  | some n => exact congrArg some (Nat.sub_add_eq ..)

theorem HasRoom.isFilled_nil (h : HasRoom limit count) :
    isFilled (room limit count) [] = false := by
  cases limit with
  | none => rfl
  | some n =>
    have hroom : count < max 1 n := h n rfl
    exact decide_eq_false (show ¬max 1 n - count ≤ 0 by omega)

theorem HasRoom.fitting_singleton (h : HasRoom limit count) (f : Frame) :
    fitting (room limit count) [f] = [f] := by
  cases limit with
  | none => rfl
  | some n =>
    have hroom : count < max 1 n := h n rfl
    exact List.take_of_length_le (show 1 ≤ max 1 n - count by omega)

/-- Where there is room, one more frame reaches the limit exactly if it takes up the room. -/
theorem HasRoom.isReached_eq (h : HasRoom limit count) (f : Frame) :
    isReached limit (count + 1) = isFilled (room limit count) [f] := by
  cases limit with
  | none => rfl
  | some n =>
    have hroom : count < max 1 n := h n rfl
    exact decide_eq_decide.mpr (show n ≤ count + 1 ↔ max 1 n - count ≤ 1 by omega)

theorem HasRoom.add (h : HasRoom limit count)
    (hfilled : isFilled (room limit count) frames = false) :
    HasRoom limit (count + frames.length) := by
  rintro n rfl
  have hroom : count < max 1 n := h n rfl
  have hmore : ¬max 1 n - count ≤ frames.length := of_decide_eq_false hfilled
  omega

/-- What takes up all the room leaves none for what follows. -/
theorem fitting_append_of_isFilled {space : Option Nat} (h : isFilled space frames = true)
    (later : List Frame) :
    fitting space (frames ++ later) = fitting space frames
      ∧ isFilled space (frames ++ later) = true := by
  cases space with
  | none => cases h
  | some n =>
    have hfilled : n ≤ frames.length := of_decide_eq_true h
    refine ⟨List.take_append_of_le_length hfilled, decide_eq_true ?_⟩
    rw [List.length_append]
    exact Nat.le_add_right_of_le hfilled

/-- What does not take up all the room fits, and leaves less room for what follows. -/
theorem fitting_append_of_not_isFilled {space : Option Nat} (h : isFilled space frames = false)
    (later : List Frame) :
    fitting space frames = frames
      ∧ fitting space (frames ++ later)
        = frames ++ fitting (space.map (· - frames.length)) later
      ∧ isFilled space (frames ++ later) = isFilled (space.map (· - frames.length)) later := by
  cases space with
  | none => exact ⟨rfl, rfl, rfl⟩
  | some n =>
    have hmore : ¬n ≤ frames.length := of_decide_eq_false h
    have htake : frames.take n = frames := List.take_of_length_le (Nat.le_of_not_le hmore)
    refine ⟨htake, ?_, decide_eq_decide.mpr ?_⟩
    · show (frames ++ later).take n = frames ++ later.take (n - frames.length)
      rw [List.take_append, htake]
    · show n ≤ (frames ++ later).length ↔ n - frames.length ≤ later.length
      rw [List.length_append]
      omega

end Room

/-- **Of the frames of one chunk** as many are printed as there is room for. -/
theorem shown_of_room {limit : Option Nat} {count : Nat} (h : HasRoom limit count)
    (frames : List Frame) :
    shown limit count frames
      = (fitting (room limit count) frames, isFilled (room limit count) frames) := by
  induction frames generalizing count with
  | nil =>
    have hnil : fitting (room limit count) [] = [] := by
      cases limit with
      | none => rfl
      | some n => exact List.take_nil
    rw [shown, hnil, h.isFilled_nil]
  | cons f rest ih =>
    rw [shown, h.isReached_eq f]
    show _ = (fitting (room limit count) ([f] ++ rest), isFilled (room limit count) ([f] ++ rest))
    cases hfilled : isFilled (room limit count) [f] with
    | true =>
      obtain ⟨hfits, hstops⟩ := fitting_append_of_isFilled hfilled rest
      rw [if_pos rfl, hfits, hstops, h.fitting_singleton]
    | false =>
      obtain ⟨-, hfits, hstops⟩ := fitting_append_of_not_isFilled hfilled rest
      have hnext : HasRoom limit (count + 1) := h.add hfilled
      rw [if_neg Bool.false_ne_true, ih hnext, room_add, hfits, hstops]
      rfl

/-- **Of the frames of all chunks** as many are printed as there is room for, wherever a chunk
ends. -/
theorem run_of_room {limit : Option Nat} {count : Nat} (h : HasRoom limit count) (d : Decoder)
    (chunks : List (List UInt8)) :
    run limit count d chunks
      = (fitting (room limit count) (d.pushAll chunks).1,
          isFilled (room limit count) (d.pushAll chunks).1) := by
  induction chunks generalizing count d with
  | nil =>
    rw [run, Decoder.pushAll]
    exact shown_of_room h []
  | cons chunk rest ih =>
    obtain ⟨frames, d', hpush⟩ : ∃ frames d', d.push chunk = (frames, d') := ⟨_, _, rfl⟩
    obtain ⟨later, d'', hlater⟩ : ∃ later d'', d'.pushAll rest = (later, d'') := ⟨_, _, rfl⟩
    simp only [run, Decoder.pushAll, hpush, hlater, shown_of_room h frames]
    cases hfilled : isFilled (room limit count) frames with
    | true =>
      obtain ⟨hfits, hstops⟩ := fitting_append_of_isFilled hfilled later
      rw [if_pos rfl, hfits, hstops]
    | false =>
      obtain ⟨hall, hfits, hstops⟩ := fitting_append_of_not_isFilled hfilled later
      rw [if_neg Bool.false_ne_true, hall, ih (h.add hfilled), hlater, room_add, hfits, hstops]

end Dump

/-! ## The command -/

/-- What a dump of a stream comes to, however the body of the stream ends. A failure at its end is
not noticed if the limit was reached before. -/
theorem runFrames_of_response {c : Config} {since : Option Instant} {server : Server}
    {request : Http.Request} {r : Http.Response}
    (hrequest : Http.Request.forStream c since = .ok request) (hreply : server.stream = .response r)
    (hsuccess : r.isSuccess = true) (format : Format) (limit : Option Nat) :
    runFrames c format since limit server
      = .ofLines
          ((Dump.fitting (Dump.room limit 0) (Decoder.fresh.push r.body).1).map (frameLine format))
          (if Dump.isFilled (Dump.room limit 0) (Decoder.fresh.push r.body).1 then none
            else r.ending.failure)
          [request] := by
  have hopen : (Http.openStream c since fun _ => server.stream) = some (.ok r) := by
    unfold Http.openStream Http.send
    rw [hrequest, hreply]
    exact if_pos hsuccess
  have hreaching : reaching (.ok request) (.response r) = [request] := rfl
  have hframes : Decoder.fresh.pushAll r.chunks = Decoder.fresh.push r.body :=
    Decoder.pushAll_eq_push_flatten Decoder.Reachable.fresh.settled r.chunks
  unfold runFrames
  rw [hopen, hrequest, hreply, hreaching]
  simp only [Dump.run_of_room (Dump.hasRoom_zero limit), hframes]

/-- **A dump prints a beginning of the stream.** If the body of a stream comes to its end, a dump
prints the frames of the whole body in their order, each once: all of them without a limit, with a
limit as many as it says if there are so many, but at least the first one. It ends well, and two
bodies of the same octets come to the same however they arrive in chunks. -/
theorem outcome_of_frames {c : Config} {since : Option Instant} {server : Server}
    {request : Http.Request} {r : Http.Response} (hcheck : c.check = .ok ())
    (hrequest : Http.Request.forStream c since = .ok request) (hreply : server.stream = .response r)
    (hsuccess : r.isSuccess = true) (hending : r.ending = .complete) (format : Format)
    (limit : Option Nat) :
    (∃ printed, Invocation.outcome ⟨c, format, .frames since limit⟩ server
          = ⟨0, Outcome.unlines (printed.map (frameLine format)), none, [request]⟩
        ∧ (limit = none → printed = (Decoder.fresh.push r.body).1)
        ∧ ∀ n, limit = some n → printed = (Decoder.fresh.push r.body).1.take (max 1 n))
      ∧ ∀ (other : Server) (r' : Http.Response), other.stream = .response r' →
          r'.isSuccess = true → r'.ending = .complete → r'.body = r.body →
          Invocation.outcome ⟨c, format, .frames since limit⟩ other
            = Invocation.outcome ⟨c, format, .frames since limit⟩ server := by
  have houtcome : ∀ {s : Server} {x : Http.Response}, s.stream = .response x →
      x.isSuccess = true → x.ending = .complete →
      Invocation.outcome ⟨c, format, .frames since limit⟩ s
        = .ofLines
            ((Dump.fitting (Dump.room limit 0) (Decoder.fresh.push x.body).1).map
              (frameLine format)) none [request] := by
    intro s x hstream hgood hend
    unfold Invocation.outcome
    simp only [hcheck, runFrames_of_response hrequest hstream hgood, hend, Http.Ending.failure,
      ite_self]
  constructor
  · refine ⟨_, houtcome hreply hsuccess hending, ?_, ?_⟩
    · rintro rfl
      rfl
    · rintro n rfl
      rfl
  · intro other r' hother hsuccess' hending' hbody
    rw [houtcome hother hsuccess' hending', houtcome hreply hsuccess hending, hbody]

/-- Three frames arrive in chunks that are cut within a field and within a blank line, and two of
them are asked for. -/
theorem outcome_of_frames_cut :
    let c := Config.new "http://h"
    let chunks := ["data: a\n", "\nid: 7\nda", "ta: b\n\ndata: c\n\n"].map Text.Utf8.ofString
    let server : Server := ⟨.unreachable, .response (.new 200 chunks .complete)⟩
    c.check = .ok () ∧ (Http.Request.forStream c none).toOption.isSome = true
      ∧ (Invocation.outcome ⟨c, .text, .frames none (some 2)⟩ server).output
        = "[message] a\n[message] id=7 b\n" := by
  intro c chunks server
  have hreply : server.stream = .response (.new 200 chunks .complete) := rfl
  have hcheck : c.check = .ok () := by decide +kernel
  have hsendable : (Http.Request.forStream c none).toOption.isSome = true := by decide +kernel
  cases hrequest : Http.Request.forStream c none with
  | error flaw =>
    rw [hrequest] at hsendable
    cases hsendable
  | ok request =>
    obtain ⟨⟨printed, houtcome, -, hprinted⟩, -⟩ :=
      outcome_of_frames hcheck hrequest hreply rfl rfl .text (some 2)
    refine ⟨hcheck, rfl, ?_⟩
    rw [houtcome, hprinted 2 rfl]
    dsimp only
    decide +kernel

/-- **A limit of zero prints a frame.** Of a stream with one frame the first zero frames are none,
but one line is printed. -/
theorem output_of_limit_zero :
    let c := Config.new "http://h"
    let body := Text.Utf8.ofString "data: a\n\n"
    let server : Server := ⟨.unreachable, .response (.new 200 [body] .complete)⟩
    let outcome := Invocation.outcome ⟨c, .text, .frames none (some 0)⟩ server
    outcome.failure = none ∧ outcome.output = "[message] a\n"
      ∧ Outcome.unlines (((Decoder.fresh.push body).1.take 0).map (frameLine .text)) = ""
      ∧ outcome.output
        ≠ Outcome.unlines (((Decoder.fresh.push body).1.take 0).map (frameLine .text)) := by
  decide +kernel

end ActivityFeed.Command
