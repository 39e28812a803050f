import ActivityFeed.Proofs.Store.Admission
import ActivityFeed.Proofs.Sync.Account
import ActivityFeed.Proofs.Sync.CatchUp
import ActivityFeed.Proofs.Sync.Retries

/-!
# The cursor never goes back

A request asks for the stream from the newest record on. Records come in any order, their times say
nothing about when they came, the capacity cuts them, and what was cut may come back under another
time. Still no request asks from further back than one before it: no call makes the newest record
an older one (`Store.latest_le_calls`), every action is calls (`exists_calls_perform`), and a
request takes the newest record of its time (`cursors_perform`).

A record that was held at any time counts (`EverHeld`), even if another frame of the same chunk has
cut it at once.

Main result: `cursors_of_play`.
-/

namespace ActivityFeed

namespace Session

variable {s : Session} {a : Action} {as : List Action} {r : Record} {config : Config}
  {loader : Loader} {link : Link}

/-! ## Every action is calls -/

/-- What is left of an action after some of its frames is calls. -/
theorem exists_calls_perform (h : Reached config s) {front back : List Frame}
    (hframes : s.frames a = front ++ back) :
    ∃ cs, (s.perform a).feed.store = (front.foldl Feed.applyFrame s.feed).store.calls cs := by
  rw [(sameAccount_perform h a).store, told]
  cases harrival : s.arrival? a with
  | none =>
    obtain ⟨cs, hcs⟩ :=
      Feed.exists_calls_foldl ((front.foldl Feed.applyFrame s.feed).count (s.octets a)) back
    refine ⟨cs, ?_⟩
    show ((s.frames a).foldl Feed.applyFrame (s.feed.count (s.octets a))).store = _
    rw [hframes, List.foldl_append, Feed.foldl_applyFrame_count, hcs]
    rfl
  | some result =>
    -- the answer for the snapshot comes without frames
    rw [frames_of_octets h (octets_of_arrival harrival)] at hframes
    obtain ⟨rfl, -⟩ := List.append_eq_nil_iff.mp hframes.symm
    cases result with
    | ok page => exact ⟨[.seed page.items], rfl⟩
    | error cause => exact ⟨[], rfl⟩

/-- The newest record is never replaced by an older one while frames are applied. -/
theorem latest_le_perform (h : Reached config s) (hcapacity : 0 < config.capacity)
    {front back : List Frame} (hframes : s.frames a = front ++ back) :
    (front.foldl Feed.applyFrame s.feed).store.WellFormed
      ∧ (front.foldl Feed.applyFrame s.feed).store.latest ≤ (s.perform a).feed.store.latest := by
  obtain ⟨hwell, hcap⟩ := h.wellFormed
  obtain ⟨cs, hfront⟩ := Feed.exists_calls_foldl s.feed front
  obtain ⟨cs', hback⟩ := exists_calls_perform h hframes
  obtain ⟨hwell', hcap'⟩ := hwell.calls cs
  rw [hback, hfront]
  exact ⟨hwell', Store.latest_le_calls hwell' (hcap'.symm ▸ hcap.symm ▸ hcapacity) cs'⟩

theorem latest_le_play (h : Reached config s) (hcapacity : 0 < config.capacity)
    (as : List Action) : s.feed.store.latest ≤ (s.play as).feed.store.latest := by
  induction as generalizing s with
  | nil => exact (Store.latest_le_calls h.wellFormed.1 (h.wellFormed.2.symm ▸ hcapacity) [])
  | cons a as ih =>
    have hfirst : s.feed.store.latest ≤ (s.perform a).feed.store.latest :=
      (latest_le_perform h hcapacity (List.nil_append (s.frames a)).symm).2
    exact Store.cursor_le_trans hfirst (ih (h.perform a))

/-! ## Records that were held -/

/-- A record is held at some time of a run, if only between two frames of one chunk. -/
inductive EverHeld (r : Record) : Session → List Action → Prop
  | now {s : Session} {as : List Action} (h : r ∈ s.feed.store.entries) : EverHeld r s as
  | between {s : Session} {a : Action} {as : List Action} {front back : List Frame}
      (hframes : s.frames a = front ++ back)
      (h : r ∈ (front.foldl Feed.applyFrame s.feed).store.entries) : EverHeld r s (a :: as)
  | later {s : Session} {a : Action} {as : List Action} (h : EverHeld r (s.perform a) as) :
    EverHeld r s (a :: as)

/-- What is held later in a run is held at some time of it. -/
theorem EverHeld.after (as : List Action) {bs : List Action} (h : EverHeld r (s.play as) bs) :
    EverHeld r s (as ++ bs) := by
  induction as generalizing s with
  | nil => exact h
  | cons a as ih => exact .later (ih h)

/-- **What was ever held is not newer than the newest record.** -/
theorem EverHeld.le_latest (hheld : EverHeld r s as) (h : Reached config s)
    (hcapacity : 0 < config.capacity) : some r.createdAt ≤ (s.play as).feed.store.latest := by
  induction hheld with
  | now hr =>
    exact Store.cursor_le_trans (Store.createdAt_le_latest h.wellFormed.1 hr)
      (latest_le_play h hcapacity _)
  | between hframes hr =>
    obtain ⟨hwell, hle⟩ := latest_le_perform h hcapacity hframes
    exact Store.cursor_le_trans (Store.cursor_le_trans (Store.createdAt_le_latest hwell hr) hle)
      (latest_le_play (h.perform _) hcapacity _)
  | later _ ih => exact ih (h.perform _)

/-! ## Requests -/

/-- From where the stream was requested, request by request. -/
def cursors (s : Session) : List (Option Instant) :=
  s.script.attempts.map Attempt.since

theorem since_cancelNewest (t : Script) :
    t.cancelNewest.attempts.map Attempt.since = t.attempts.map Attempt.since := by
  rw [Script.map_cancelNewest (g := id) (fun _ => rfl), List.modify_id]

theorem cursors_endAttempt (s : Session) (loader : Loader) (ending : Ending) :
    (s.endAttempt loader ending).cursors = s.cursors := by
  rw [cursors, attempts_endAttempt]
  exact since_cancelNewest s.script

/-- A request asks from the newest record on, whether it fails at once or not. -/
theorem cursors_openStream (s : Session) (loader : Loader) :
    (s.openStream loader).cursors = s.cursors ++ [s.feed.store.latest] := by
  unfold openStream
  dsimp only
  split
  next =>
    rw [cursors_endAttempt, cursors, List.map_append, Feed.store_enter]
    rfl
  next =>
    rw [cursors, List.map_append, Feed.store_enter]
    rfl

/-- An action makes no request, or one from the newest record on. -/
theorem cursors_perform (s : Session) (a : Action) :
    (s.perform a).cursors = s.cursors
      ∨ (s.perform a).cursors = s.cursors ++ [s.feed.store.latest] := by
  rcases s.perform_cases a with ⟨p, rfl⟩ | rfl | ⟨haside, -⟩
  · rcases s.perform_link_cases p with hsame | ⟨loader, link, -, hwork⟩
    · exact Or.inl (by rw [hsame])
    · generalize s.perform (.link p) = t at hwork
      cases hwork with
      | connect => exact Or.inr (cursors_openStream s loader)
      | reject | breakOff | close => exact Or.inl (cursors_endAttempt _ loader _)
      | read =>
        unfold applyChunk
        split <;> exact Or.inl rfl
      | release =>
        refine Or.inl ?_
        show s.dropConnection.script.cancelNewest.attempts.map Attempt.since = s.cursors
        rw [since_cancelNewest, attempts_dropConnection]
        rfl
      | accept | wake | rearm => exact Or.inl rfl
  · refine Or.inl ?_
    show (s.dropConnection.script.attempts.map _).map Attempt.since = s.cursors
    rw [List.map_map, attempts_dropConnection]
    rfl
  · exact Or.inl (congrArg (List.map Attempt.since) haside.attempts)

/-- The cursors have never gone back, and the next one will not either. -/
structure Forward (s : Session) : Prop where
  sorted : s.cursors.Pairwise (· ≤ ·)
  bounded : ∀ c ∈ s.cursors, c ≤ s.feed.store.latest

theorem Forward.perform (hforward : Forward s) (h : Reached config s)
    (hcapacity : 0 < config.capacity) (a : Action) : Forward (s.perform a) := by
  have hstep : s.feed.store.latest ≤ (s.perform a).feed.store.latest :=
    latest_le_play h hcapacity [a]
  rcases s.cursors_perform a with hsame | hrequest
  · constructor
    · rw [hsame]
      exact hforward.sorted
    · rw [hsame]
      exact fun c hc => Store.cursor_le_trans (hforward.bounded c hc) hstep
  · constructor
    · rw [hrequest]
      refine List.pairwise_append.mpr ⟨hforward.sorted, List.pairwise_singleton _ _, ?_⟩
      intro c hc newest hnewest
      rw [List.mem_singleton.mp hnewest]
      exact hforward.bounded c hc
    · intro c hc
      rw [hrequest, List.mem_append, List.mem_singleton] at hc
      rcases hc with hc | rfl
      · exact Store.cursor_le_trans (hforward.bounded c hc) hstep
      · exact hstep

theorem Forward.play (hforward : Forward s) (h : Reached config s)
    (hcapacity : 0 < config.capacity) (as : List Action) : Forward (s.play as) := by
  induction as generalizing s with
  | nil => exact hforward
  | cons a as ih => exact ih (hforward.perform h hcapacity a) (h.perform a)

/-- **The catch-up cursor never goes back.** After any run with any records (out of order, of equal
or repeated times, of identifiers that come back under other times), an action makes no request, or
one that asks from the largest creation time among the records then held on, which is absent exactly
if no record is held. No record that was held at any time of the run is newer than that, whether it
is still held or has been cut. And the cursors of all requests never go back: one that is absent
comes before all that are present. -/
theorem cursors_of_play {visibility : Visibility} (hnew : new config visibility = .ok s)
    (as : List Action) :
    let t := s.play as
    let newest := (t.feed.store.entries.map Record.createdAt).max?
    (∀ a, (t.perform a).cursors = t.cursors ∨ (t.perform a).cursors = t.cursors ++ [newest])
      ∧ (newest = none ↔ t.feed.store.entries = [])
      ∧ (∀ r, EverHeld r s as → some r.createdAt ≤ newest)
      ∧ t.cursors.Pairwise (· ≤ ·) := by
  intro t newest
  have hreached : Reached config s := reached_of_new hnew
  obtain ⟨hcheck, hinitial⟩ := new_eq_ok_iff.mp hnew
  have hcapacity : 0 < config.capacity := World.capacity_pos_of_check hcheck
  have hlatest : t.feed.store.latest = newest := (hreached.play as).wellFormed.1.latest_eq_max
  have hforward : Forward s := by
    rw [hinitial]
    exact ⟨List.Pairwise.nil, fun _ hc => by cases hc⟩
  refine ⟨fun a => ?_, ?_, fun r hheld => ?_, (hforward.play hreached hcapacity as).sorted⟩
  · rw [← hlatest]
    exact t.cursors_perform a
  · rw [← hlatest, Store.latest, Option.map_eq_none_iff, List.head?_eq_none_iff]
  · rw [← hlatest]
    exact hheld.le_latest hreached hcapacity

/-- Each record cuts the one before, and what was cut first comes back under a later time. -/
def narrowRecords : List Record :=
  [.new "a" ⟨100, 0⟩, .new "b" ⟨200, 0⟩, .new "a" ⟨300, 0⟩]

/-- Some records in one chunk. -/
def sendNarrow (records : List Record) : Action :=
  sendSmall (records.flatMap fun r => Scenario.frameOctets narrowConfig.recordEvent r.text)

/-- A record is cut in the middle of the first chunk, which is about to be read. -/
def narrowFirst : List Action :=
  smallOpening ++ [sendNarrow (narrowRecords.take 2)]

/-- It comes back before the second request. -/
def narrowRest : List Action :=
  [.link .signals, sendNarrow (narrowRecords.drop 2), .link .signals, .serve (.close 0),
    .link .signals, .pass 1000, .link .signals]

theorem everHeld_narrowRecords :
    EverHeld (.new "a" ⟨100, 0⟩) (initial narrowConfig .always) (narrowFirst ++ narrowRest) := by
  refine EverHeld.after narrowFirst (.between (List.take_append_drop 1 _).symm ?_)
  have hempty : ((initial narrowConfig .always).play narrowFirst).feed.store = .empty 1 := by
    decide +kernel
  have hrecords : ((((initial narrowConfig .always).play narrowFirst).frames
      (.link .signals)).take 1).filterMap
        ((initial narrowConfig .always).play narrowFirst).feed.config.recordOf?
      = narrowRecords.take 1 := by
    decide +kernel
  rw [(Feed.foldl_applyFrame_spec _ _).2, hrecords, hempty,
    Store.entries_mergeAll (Store.empty_wellFormed 1)]
  decide

theorem entries_narrowRecords :
    ((initial narrowConfig .always).play (narrowFirst ++ narrowRest)).feed.store.entries
      = [.new "a" ⟨300, 0⟩] := by
  have hcalls : (narrowConfig.effects
      ((initial narrowConfig .always).history (narrowFirst ++ narrowRest))).map Effect.call
      = narrowRecords.map .merge := by
    decide +kernel
  have hreplays := (replays_initial narrowConfig .always).play
    (reached_of_new new_narrowConfig).wired (narrowFirst ++ narrowRest)
  rw [hreplays.store, List.nil_append, hcalls]
  exact Store.entries_mergeAll (Store.empty_wellFormed 1) narrowRecords

/-- Of three records, each of which cuts the one before, the third has the identifier of the first
and a later time. The request after them asks from it on. -/
theorem cursors_of_narrowConfig :
    EverHeld (.new "a" ⟨100, 0⟩) (initial narrowConfig .always) (narrowFirst ++ narrowRest)
      ∧ ((initial narrowConfig .always).play (narrowFirst ++ narrowRest)).feed.store.entries
        = [.new "a" ⟨300, 0⟩]
      ∧ some (Record.new "a" ⟨100, 0⟩).createdAt
        ≤ ([Record.new "a" ⟨300, 0⟩].map Record.createdAt).max?
      ∧ (((initial narrowConfig .always).play (narrowFirst ++ narrowRest)).perform
        (.link .signals)).cursors = [none, some ⟨300, 0⟩] := by
  obtain ⟨hrequests, -, hnewest, -⟩ := cursors_of_play new_narrowConfig (narrowFirst ++ narrowRest)
  have hbefore : ((initial narrowConfig .always).play (narrowFirst ++ narrowRest)).cursors
      = [none] := by
    decide +kernel
  have hasks : (((initial narrowConfig .always).play (narrowFirst ++ narrowRest)).perform
      (.link .signals)).cursors.length = 2 := by
    decide +kernel
  rw [entries_narrowRecords, hbefore] at hrequests
  rw [entries_narrowRecords] at hnewest
  refine ⟨everHeld_narrowRecords, entries_narrowRecords, hnewest _ everHeld_narrowRecords, ?_⟩
  rcases hrequests (.link .signals) with hsame | hrequest
  · rw [hsame] at hasks
    cases hasks
  · exact hrequest

end Session

end ActivityFeed
