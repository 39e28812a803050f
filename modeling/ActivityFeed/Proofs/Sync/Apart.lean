import ActivityFeed.Proofs.Sync.Loaderward
import ActivityFeed.Proofs.Sync.Phases

/-!
# Connection and snapshot keep apart

The two activities of a synchronizer share its records and its counters, and a request for the
stream is made from the records that the snapshot may have brought. That is all they have to do with
each other. A `Side` of a session is a way to look at it for which every action is either settled by
what is seen or not seen at all; the connection is one (`streamSide`) and the snapshot is another
(`loaderSide`). What is told of a run from one side depends on the actions of that side only
(`Side.Tells.log_eq_of_filter`), however many of the other side are done in between or left out.

Main result: `apart_of_play`.
-/

namespace ActivityFeed

namespace Feed

variable {f g : Feed}

theorem phase_enter_congr (h : f.phase = g.phase) (phase : Phase) :
    (f.enter phase).phase = (g.enter phase).phase := by
  unfold enter
  rw [h]
  split
  next => exact h
  next => rfl

/-- What is told of feeds is told of their phases. -/
theorem news_congr (h : f.phase = g.phase) {fs gs : List Feed}
    (hs : fs.map Feed.phase = gs.map Feed.phase) : f.news fs = g.news gs := by
  induction fs generalizing f g gs with
  | nil =>
    rw [List.map_eq_nil_iff.mp hs.symm]
    rfl
  | cons f' fs ih =>
    cases gs with
    | nil => cases hs
    | cons g' gs =>
      obtain ⟨hfirst, hrest⟩ := List.cons.inj hs
      rw [news, news, h, hfirst, ih hfirst hrest]

end Feed

namespace Session

variable {α β : Type} {s t : Session} {a : Action} {as bs : List Action}

/-! ## Sides -/

/-- A way to look at sessions, and the actions that concern what is seen. What these make of it is
settled by what is seen before, and the others cannot be seen. -/
structure Side (α : Type) where
  view : Session → α
  isOwn : Action → Bool
  perform_congr : ∀ {s t : Session} {a : Action}, view s = view t → isOwn a = true →
    view (s.perform a) = view (t.perform a)
  perform_of_not : ∀ {a : Action} (s : Session), isOwn a = false → view (s.perform a) = view s

/-- What is told of a run, action by action. -/
def log (tell : Session → Action → List β) (s : Session) : List Action → List β
  | [] => []
  | a :: as => tell s a ++ (s.perform a).log tell as

namespace Side

variable {side : Side α} {tell : Session → Action → List β}

/-- What is told of an action can be told from a side. -/
structure Tells (side : Side α) (tell : Session → Action → List β) : Prop where
  congr : ∀ {s t : Session} {a : Action}, side.view s = side.view t → side.isOwn a = true →
    tell s a = tell t a
  nothing : ∀ {a : Action} (s : Session), side.isOwn a = false → tell s a = []

/-- The other actions of a run may be left out. -/
theorem view_play_filter (h : side.view s = side.view t) (as : List Action) :
    side.view (s.play as) = side.view (t.play (as.filter side.isOwn)) := by
  -- an action that is left out moves one session and leaves the other, so both are general
  induction as generalizing s t with
  | nil => exact h
  | cons a as ih =>
    cases hown : side.isOwn a with
    | true =>
      rw [List.filter_cons_of_pos hown]
      exact ih (side.perform_congr h hown)
    | false =>
      rw [List.filter_cons_of_neg (Bool.eq_false_iff.mp hown)]
      exact ih ((side.perform_of_not s hown).trans h)

theorem Tells.log_filter (htells : side.Tells tell) (h : side.view s = side.view t)
    (as : List Action) : s.log tell as = t.log tell (as.filter side.isOwn) := by
  induction as generalizing s t with
  | nil => rfl
  | cons a as ih =>
    cases hown : side.isOwn a with
    | true =>
      rw [List.filter_cons_of_pos hown, log, log, htells.congr h hown,
        ih (side.perform_congr h hown)]
    | false =>
      rw [List.filter_cons_of_neg (Bool.eq_false_iff.mp hown), log, htells.nothing s hown]
      exact ih ((side.perform_of_not s hown).trans h)

/-- **Runs with the same actions of a side look the same from there**, at the end and all along. -/
theorem view_eq_of_filter (side : Side α) (s : Session)
    (h : as.filter side.isOwn = bs.filter side.isOwn) :
    side.view (s.play as) = side.view (s.play bs) := by
  rw [side.view_play_filter rfl as, side.view_play_filter rfl bs, h]

theorem Tells.log_eq_of_filter (htells : side.Tells tell) (s : Session)
    (h : as.filter side.isOwn = bs.filter side.isOwn) : s.log tell as = s.log tell bs := by
  rw [htells.log_filter rfl as, htells.log_filter rfl bs, h]

end Side

/-- When something changes, and what it is afterwards. -/
def changes [DecidableEq β] (f : Session → β) (s : Session) (a : Action) : List (Nat × β) :=
  if f (s.perform a) = f s then [] else [(s.clock, f (s.perform a))]

/-- What can be read off a side, and the time with it. -/
theorem Side.tells_changes [DecidableEq β] {side : Side α} {f : Session → β}
    (hclock : ∀ {s t}, side.view s = side.view t → s.clock = t.clock)
    (hf : ∀ {s t}, side.view s = side.view t → f s = f t) : side.Tells (changes f) where
  congr h hown := by
    rw [changes, changes, hclock h, hf h, hf (side.perform_congr h hown)]
  nothing s hown := if_pos (hf (side.perform_of_not s hown))

/-! ## The connection -/

/-- The connection. -/
def streamSide : Side Session where
  view := streamward
  isOwn := Action.isOfStream
  perform_congr := streamward_perform
  perform_of_not s := streamward_perform_of_not s

/-- What there is to know of the connection besides its phase. -/
structure Wire where
  /-- Which of the requests so far have been cancelled. -/
  cancelled : List Bool
  /-- When the delay is over, if there is one. -/
  due : Option Nat
  /-- What settles the next delay. -/
  backoff : Backoff
  connectionsOpened : Nat
  reconnectsScheduled : Nat
  octetsReceived : Nat
  framesDropped : Nat
deriving DecidableEq

/-- The connection of a session. -/
def wire (s : Session) : Wire where
  cancelled := s.script.attempts.map Attempt.isCancelled
  due := s.task.resting?
  backoff := s.backoff
  connectionsOpened := s.feed.stats.connectionsOpened
  reconnectsScheduled := s.feed.stats.reconnectsScheduled
  octetsReceived := s.feed.stats.octetsReceived
  framesDropped := s.feed.stats.framesDropped

/-- The phases that views are told of, and when. -/
def publications (s : Session) (a : Action) : List (Nat × Phase) :=
  (s.feed.news (s.sights a)).map (s.clock, ·)

/-- The requests for the stream: when they are made, and for which board. -/
def requests (s : Session) (a : Action) : List (Nat × Option BoardId) :=
  List.replicate ((s.perform a).script.attempts.length - s.script.attempts.length)
    (s.clock, s.feed.config.board)

theorem clock_of_streamward (h : s.streamward = t.streamward) : s.clock = t.clock :=
  eq_of_streamward clock (fun _ => rfl) h

theorem phase_of_streamward (h : s.streamward = t.streamward) : s.feed.phase = t.feed.phase :=
  eq_of_streamward (·.feed.phase) (fun _ => rfl) h

theorem wire_of_streamward (h : s.streamward = t.streamward) : s.wire = t.wire := by
  refine eq_of_streamward wire (fun u => ?_) h
  have hcancelled : u.script.attempts.map Attempt.isCancelled
      = u.streamward.script.attempts.map Attempt.isCancelled := by
    show _ = (u.script.attempts.map Attempt.streamward).map Attempt.isCancelled
    rw [List.map_map]
    rfl
  have hdue : u.task.resting? = u.task.streamward.resting? := by
    cases u.task with
    | running loader link => cases link <;> rfl
    | unstarted | ended => rfl
  unfold wire
  rw [hcancelled, hdue]
  rfl

theorem tells_wire : streamSide.Tells (changes wire) :=
  Side.tells_changes clock_of_streamward wire_of_streamward

theorem length_attempts_of_streamward (h : s.streamward = t.streamward) :
    s.script.attempts.length = t.script.attempts.length :=
  eq_of_streamward (·.script.attempts.length) (fun _ => (List.length_map _).symm) h

theorem tells_requests : streamSide.Tells requests where
  congr {s t a} h hown := by
    have hboard : s.feed.config.board = t.feed.config.board :=
      eq_of_streamward (·.feed.config.board) (fun _ => rfl) h
    rw [requests, requests, hboard, clock_of_streamward h, length_attempts_of_streamward h,
      length_attempts_of_streamward (streamward_perform h hown)]
  nothing s hown := by
    rw [requests, length_attempts_of_streamward (streamward_perform_of_not s hown), Nat.sub_self]
    rfl

/-- What views see in the middle of an action. -/
theorem phases_announced (h : s.streamward = t.streamward) (a : Action) :
    (s.announced a).map Feed.phase = (t.announced a).map Feed.phase := by
  have heligible : s.isEligible = t.isEligible := eq_of_streamward isEligible (fun _ => rfl) h
  cases a with
  | link p =>
    rcases Task.streamward_cases (congrArg Session.task h) with
      ⟨loader, loader', link, hs, ht⟩ | ⟨hsame, hidle⟩
    · cases link with
      | parked =>
        simp only [announced, hs, ht, heligible]
        split
        next => exact congrArg ([·]) (Feed.phase_enter_congr (phase_of_streamward h) _)
        next => rfl
      | opening | reading | resting | released => simp only [announced, hs, ht]
    · have hnothing : ∀ u : Session, (∀ loader link, u.task ≠ .running loader link) →
          u.announced (.link p) = [] := by
        intro u hu
        cases htask : u.task with
        | running loader link => exact absurd htask (hu loader link)
        | unstarted | ended => simp only [announced, htask]
      rw [hnothing s hidle, hnothing t (hsame ▸ hidle)]
  | _ => rfl

theorem tells_publications : streamSide.Tells publications where
  congr {s t a} h hown := by
    have hnews : s.feed.news (s.sights a) = t.feed.news (t.sights a) := by
      apply Feed.news_congr (phase_of_streamward h)
      rw [sights, sights, List.map_append, List.map_append, phases_announced h]
      exact congrArg (_ ++ [·]) (phase_of_streamward (streamward_perform h hown))
    rw [publications, publications, hnews, clock_of_streamward h]
  nothing {a} s hown := by
    -- only a turn of the link announces a request
    have hsame : (s.perform a).feed.phase = s.feed.phase :=
      phase_of_streamward (streamward_perform_of_not s hown)
    have hnone : s.announced a = [] := by
      apply announced_of_ne_link
      rintro p rfl
      cases hown
    rw [publications, sights, hnone]
    simp [Feed.news, hsame, Watched.changedSince]

/-! ## The snapshot -/

/-- The snapshot. -/
def loaderSide : Side Session where
  view := loaderward
  isOwn := Action.isOfLoader
  perform_congr := loaderward_perform
  perform_of_not s := loaderward_perform_of_not s

theorem clock_of_loaderward (h : s.loaderward = t.loaderward) : s.clock = t.clock :=
  eq_of_loaderward clock (fun _ => rfl) h

theorem tells_snapshot : loaderSide.Tells (changes fun s => s.feed.snapshot) :=
  Side.tells_changes clock_of_loaderward (eq_of_loaderward (·.feed.snapshot) fun _ => rfl)

theorem tells_snapshotRequests : loaderSide.Tells (changes fun s => s.script.snapshotRequests) :=
  Side.tells_changes clock_of_loaderward (eq_of_loaderward (·.script.snapshotRequests) fun _ => rfl)

/-! ## Runs -/

/-- **Connection and snapshot keep apart.** Take two runs of which one has what the other has, but
for what is laid out for the snapshot, how long that takes, and when the loader is given its turns;
what chance draws for the retry delays is the same in both. Views are told of the same phases at the
same times; as many requests for the stream are made, at the same times and for the same board; they
are cancelled at the same times, the delays after them end at the same times, and connections,
delays, octets and frames that were dropped are counted alike all along. At the end the two sessions
differ only in what `streamward` leaves out: the records, what is counted of them, the cursors that
were made of them, and what the snapshot itself leaves behind.

And take two runs that have the turns of the loader, what is laid out for the snapshot, the time
that passes, the start and the end in common, and nothing else: the snapshot is asked for at the
same times, and comes out the same way at the same time. -/
theorem apart_of_play (s : Session) (as bs : List Action) :
    (as.filter Action.isOfStream = bs.filter Action.isOfStream →
        s.log publications as = s.log publications bs
          ∧ s.log requests as = s.log requests bs
          ∧ s.log (changes wire) as = s.log (changes wire) bs
          ∧ (s.play as).streamward = (s.play bs).streamward)
      ∧ (as.filter Action.isOfLoader = bs.filter Action.isOfLoader →
        s.log (changes fun t => t.script.snapshotRequests) as
            = s.log (changes fun t => t.script.snapshotRequests) bs
          ∧ s.log (changes fun t => t.feed.snapshot) as
            = s.log (changes fun t => t.feed.snapshot) bs
          ∧ (s.play as).loaderward = (s.play bs).loaderward) := by
  refine ⟨fun h => ⟨?_, ?_, ?_, ?_⟩, fun h => ⟨?_, ?_, ?_⟩⟩
  · exact tells_publications.log_eq_of_filter s h
  · exact tells_requests.log_eq_of_filter s h
  · exact tells_wire.log_eq_of_filter s h
  · exact streamSide.view_eq_of_filter s h
  · exact tells_snapshotRequests.log_eq_of_filter s h
  · exact tells_snapshot.log_eq_of_filter s h
  · exact loaderSide.view_eq_of_filter s h

/-- The snapshot is refused while the first request for the stream is out. -/
def refusedRun : List Action :=
  [.start, .serve (.snapshot (.error (.snapshot "busy" (some 503)))), .link .signals, .load,
    .serve .connect, .link .signals, .pass 40, .serve (.close 0), .draw (.ofMillis 1150),
    .link .signals, .pass 1150, .link .signals, .link .signals]

/-- The snapshot takes its time, and comes while the delay after the first connection lasts. -/
def slowRun : List Action :=
  [.start, .serve (.delaySnapshot 50), .serve (.snapshot (.ok (.ofRecords [.new "a" ⟨7, 0⟩]))),
    .load, .link .signals, .serve .connect, .link .signals, .pass 40, .serve (.close 0),
    .draw (.ofMillis 1150), .link .signals, .pass 1150, .load, .link .signals, .link .signals]

/-- The connection fares alike, with the same delay of 1150 milliseconds where the policy asks for a
second; only its second request tells the two runs apart; and where there is no connection at all,
the slow snapshot comes no earlier and no later. -/
theorem apart_of_slowRun :
    (initial smallConfig .always).log publications slowRun
        = (initial smallConfig .always).log publications refusedRun
      ∧ (initial smallConfig .always).log publications refusedRun
        = [(0, .connecting), (0, .streaming), (40, .backingOff), (1190, .connecting)]
      ∧ (initial smallConfig .always).log requests slowRun = [(0, none), (1190, none)]
      ∧ ((initial smallConfig .always).play refusedRun).script.attempts.map Attempt.since
        = [none, none]
      ∧ ((initial smallConfig .always).play slowRun).script.attempts.map Attempt.since
        = [none, some ⟨7, 0⟩]
      ∧ (initial smallConfig .always).log (changes fun t => t.feed.snapshot) slowRun
        = (initial smallConfig .always).log (changes fun t => t.feed.snapshot)
          (slowRun.filter Action.isOfLoader)
      ∧ (initial smallConfig .always).log (changes fun t => t.feed.snapshot) slowRun
        = [(1190, .loaded 1)] := by
  have hstream : slowRun.filter Action.isOfStream = refusedRun.filter Action.isOfStream := rfl
  have hloader : slowRun.filter Action.isOfLoader
      = (slowRun.filter Action.isOfLoader).filter Action.isOfLoader := rfl
  obtain ⟨hpublications, hrequests, -, -⟩ :=
    (apart_of_play (initial smallConfig .always) slowRun refusedRun).1 hstream
  obtain ⟨-, hsnapshot, -⟩ :=
    (apart_of_play (initial smallConfig .always) slowRun (slowRun.filter Action.isOfLoader)).2
      hloader
  have hvalue : (initial smallConfig .always).log (changes fun t => t.feed.snapshot)
      (slowRun.filter Action.isOfLoader) = [(1190, .loaded 1)] := by
    decide +kernel
  refine ⟨hpublications, ?_, hrequests.trans ?_, ?_, ?_, hsnapshot, hsnapshot.trans hvalue⟩
  all_goals decide +kernel

end Session

end ActivityFeed
