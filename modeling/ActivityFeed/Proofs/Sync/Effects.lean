import ActivityFeed.Proofs.Frame.Records
import ActivityFeed.Proofs.Store.Window
import ActivityFeed.Proofs.Sync.Run

/-!
# What moves do to the records

Of all that a synchronizer does, two things touch its records: the page of a snapshot is seeded, and
the frames of a chunk are merged one after the other. Everything else `Keeps` them, whatever it does
to phases, counters, timers and attempts. This module says so move by move, together with the two
things that matter for catching up: from where a stream is requested, and whether an attempt is
under way afterwards.
-/

namespace ActivityFeed

namespace Feed

variable {f : Feed}

@[simp] theorem config_enter (f : Feed) (phase : Phase) : (f.enter phase).config = f.config := by
  unfold enter
  split <;> rfl

@[simp] theorem store_enter (f : Feed) (phase : Phase) : (f.enter phase).store = f.store := by
  unfold enter
  split <;> rfl

@[simp] theorem stats_enter (f : Feed) (phase : Phase) : (f.enter phase).stats = f.stats := by
  unfold enter
  split <;> rfl

/-- A frame of another type does nothing. -/
theorem applyFrame_of_other {frame : Frame} (hevent : frame.event ≠ f.config.recordEvent) :
    f.applyFrame frame = f :=
  if_pos hevent

/-- A frame that should carry a record and carries none. -/
theorem applyFrame_of_error {frame : Frame} {error : PayloadError}
    (hevent : frame.event = f.config.recordEvent)
    (hrecord : Record.ofPayload frame.data f.config.envelope = .error error) :
    f.applyFrame frame
      = { f with stats := { f.stats with framesDropped := f.stats.framesDropped + 1 } } := by
  unfold applyFrame
  rw [if_neg (not_not_intro hevent), hrecord]

/-- A frame that carries a record. -/
theorem applyFrame_of_record {frame : Frame} {record : Record}
    (hevent : frame.event = f.config.recordEvent)
    (hrecord : Record.ofPayload frame.data f.config.envelope = .ok record) :
    f.applyFrame frame
      = if f.store.contains record.id then
          { f with stats := { f.stats with duplicatesRejected := f.stats.duplicatesRejected + 1 } }
        else if (f.store.merge record).1 then
          { f with
            store := (f.store.merge record).2
            revision := f.revision.put (f.revision.value + 1)
            stats := { f.stats with recordsMerged := f.stats.recordsMerged + 1 } }
        else { f with store := (f.store.merge record).2 } := by
  unfold applyFrame
  rw [if_neg (not_not_intro hevent), hrecord]
  rfl

/-- A frame merges the record that it carries, if it carries one; a record that is held would be
merged without effect, and is left out. -/
theorem applyFrame_spec (f : Feed) (frame : Frame) :
    (f.applyFrame frame).config = f.config
      ∧ (f.applyFrame frame).store = f.store.mergeAll (f.config.recordOf? frame).toList := by
  unfold applyFrame Config.recordOf?
  by_cases hevent : frame.event = f.config.recordEvent
  · rw [if_neg (not_not_intro hevent), if_pos hevent]
    cases Record.ofPayload frame.data f.config.envelope with
    | error error => exact ⟨rfl, rfl⟩
    | ok record =>
      show _ ∧ _ = (f.store.merge record).2
      by_cases hheld : f.store.contains record.id = true
      · have hsame : (f.store.merge record).2 = f.store := by
          rw [Store.merge, if_pos hheld]
        simp only [hheld, if_true, hsame, and_self]
      · simp only [hheld, Bool.false_eq_true, if_false]
        split <;> exact ⟨rfl, rfl⟩
  · rw [if_pos hevent, if_neg hevent]
    exact ⟨rfl, rfl⟩

theorem foldl_applyFrame_spec (f : Feed) (frames : List Frame) :
    (frames.foldl applyFrame f).config = f.config
      ∧ (frames.foldl applyFrame f).store
        = f.store.mergeAll (frames.filterMap f.config.recordOf?) := by
  induction frames generalizing f with
  | nil => exact ⟨rfl, rfl⟩
  | cons frame frames ih =>
    obtain ⟨hconfig, hstore⟩ := applyFrame_spec f frame
    obtain ⟨hrestConfig, hrestStore⟩ := ih (f.applyFrame frame)
    refine ⟨hrestConfig.trans hconfig, ?_⟩
    rw [List.foldl_cons, hrestStore, hconfig, hstore, List.filterMap_cons]
    cases f.config.recordOf? frame <;> rfl

/-- A chunk merges the records of its frames. -/
theorem applyChunk_spec (f : Feed) (octets : List UInt8) (frames : List Frame) :
    (f.applyChunk octets frames).config = f.config
      ∧ (f.applyChunk octets frames).store
        = f.store.mergeAll (frames.filterMap f.config.recordOf?) :=
  foldl_applyFrame_spec _ frames

/-- What records do to a feed does not concern its connection. -/
structure SameConnection (f g : Feed) : Prop where
  phase : g.phase = f.phase
  opened : g.stats.connectionsOpened = f.stats.connectionsOpened
  retries : g.stats.reconnectsScheduled = f.stats.reconnectsScheduled

theorem sameConnection_applyFrame (f : Feed) (frame : Frame) :
    SameConnection f (f.applyFrame frame) := by
  unfold applyFrame
  split
  next => exact ⟨rfl, rfl, rfl⟩
  next =>
    split
    next => exact ⟨rfl, rfl, rfl⟩
    next =>
      split
      next => exact ⟨rfl, rfl, rfl⟩
      next =>
        dsimp only
        split <;> exact ⟨rfl, rfl, rfl⟩

theorem SameConnection.trans {f g h : Feed} (hfg : SameConnection f g) (hgh : SameConnection g h) :
    SameConnection f h :=
  ⟨hgh.phase.trans hfg.phase, hgh.opened.trans hfg.opened, hgh.retries.trans hfg.retries⟩

theorem sameConnection_applyChunk (f : Feed) (octets : List UInt8) (frames : List Frame) :
    SameConnection f (f.applyChunk octets frames) := by
  have hframes : ∀ g : Feed, SameConnection g (frames.foldl applyFrame g) := by
    induction frames with
    | nil => exact fun _ => ⟨rfl, rfl, rfl⟩
    | cons frame frames ih => exact fun g => (sameConnection_applyFrame g frame).trans (ih _)
  obtain ⟨hphase, hopened, hretries⟩ := hframes
    { f with stats := { f.stats with octetsReceived := f.stats.octetsReceived + octets.length } }
  exact ⟨hphase, hopened, hretries⟩

theorem sameConnection_loadSnapshot (f : Feed) (result : Except Failure Page) :
    SameConnection f (f.loadSnapshot result) := by
  cases result <;> exact ⟨rfl, rfl, rfl⟩

end Feed

namespace Session

variable {s s' : Session} {loader : Loader} {link : Link}

/-- The records and the settings are those of before. -/
structure Keeps (s s' : Session) : Prop where
  config : s'.feed.config = s.feed.config
  store : s'.feed.store = s.feed.store

/-- The records are those of before, and no attempt is under way. -/
structure Rests (s s' : Session) : Prop extends Keeps s s' where
  idle : ∀ loader link, s'.task = .running loader link → link.isActive = false

/-- From where the stream was requested last. -/
def since (s : Session) : Option Instant :=
  s.script.attempts.getLast?.bind Attempt.since

/-- The chunk that comes next on the connection that is being read; nothing where none does. -/
def nextChunk (s : Session) : List UInt8 :=
  match s.task with
  | .running _ (.reading connection _) =>
    match s.script.connections[connection]?.map Connection.unread with
    | some (.chunk octets :: _) => octets
    | _ => []
  | _ => []

theorem nextChunk_of_chunk {connection : Nat} {decoder : Decoder} {c : Connection}
    {octets : List UInt8} {unread : List Delivery}
    (htask : s.task = .running loader (.reading connection decoder))
    (hc : s.script.connections[connection]? = some c) (h : c.unread = .chunk octets :: unread) :
    s.nextChunk = octets := by
  simp only [nextChunk, htask, hc, Option.map_some, h]

@[simp] theorem feed_dropConnection (s : Session) : s.dropConnection.feed = s.feed := by
  unfold dropConnection
  split <;> rfl

theorem backoff_dropConnection (s : Session) : s.dropConnection.backoff = s.backoff := by
  unfold dropConnection
  split <;> rfl

theorem drawn_dropConnection (s : Session) : s.dropConnection.drawn = s.drawn := by
  unfold dropConnection
  split <;> rfl

/-! ## The link -/

theorem rests_parked (s : Session) (loader : Loader) :
    Rests s { s with task := .running loader .parked } where
  config := rfl
  store := rfl
  idle _ _ h := by
    cases h
    rfl

theorem rests_release (s : Session) (loader : Loader) : Rests s (s.release loader) where
  config := by simp [release]
  store := by simp [release]
  idle _ _ h := by
    cases h
    rfl

theorem rests_rest {t : Session} (hconfig : t.feed.config = s.feed.config)
    (hstore : t.feed.store = s.feed.store) (loader : Loader) : Rests s (t.rest loader) where
  config := (Feed.config_enter _ _).trans hconfig
  store := (Feed.store_enter _ _).trans hstore
  idle _ _ h := by
    cases h
    rfl

/-- An attempt that ends keeps the records, however it ends and whatever has happened to the script
before. -/
theorem rests_endAttempt {t : Session} (hconfig : t.feed.config = s.feed.config)
    (hstore : t.feed.store = s.feed.store) (loader : Loader) (ending : Ending) :
    Rests s (t.endAttempt loader ending) := by
  cases ending with
  | aborted =>
    refine ⟨⟨?_, ?_⟩, fun _ _ h => ?_⟩
    · simp [endAttempt, hconfig]
    · simp [endAttempt, hstore]
    · cases h
      rfl
  | closed => exact rests_rest (by simpa using hconfig) (by simpa using hstore) loader
  | failed cause =>
    exact rests_rest (by simpa [Feed.noteError] using hconfig)
      (by simpa [Feed.noteError] using hstore) loader

/-- A request asks for the stream from the newest record on, unless it fails at once. -/
theorem openStream_spec (s : Session) (loader : Loader) :
    Rests s (s.openStream loader)
      ∨ Keeps s (s.openStream loader) ∧ (s.openStream loader).task = .running loader .opening
        ∧ (s.openStream loader).since = s.feed.store.latest := by
  unfold openStream
  dsimp only
  split
  next => exact Or.inl (rests_endAttempt (Feed.config_enter _ _) (Feed.store_enter _ _) loader _)
  next =>
    refine Or.inr ⟨⟨Feed.config_enter _ _, Feed.store_enter _ _⟩, rfl, ?_⟩
    simp [since]

/-- An accepted request starts a decoder and keeps the records. -/
theorem accept_spec (s : Session) (loader : Loader) (connection : Nat) (answers : List Answer) :
    Keeps s
      { s with
        script := { s.script with answers }
        feed := s.feed.noteOpened
        task := .running loader (.reading connection .fresh) } :=
  ⟨Feed.config_enter _ _, Feed.store_enter _ _⟩

/-- A chunk moves the decoder on and merges the records of the frames that it completes. The
hypothesis is for the empty chunk, with which the decoder is not even called. -/
theorem applyChunk_spec (s : Session) (loader : Loader) {connection : Nat} {decoder : Decoder}
    (hd : decoder.Settled) (htask : s.task = .running loader (.reading connection decoder))
    (octets : List UInt8) :
    let t := s.applyChunk loader connection decoder octets
    t.feed.config = s.feed.config
      ∧ t.feed.store
        = s.feed.store.mergeAll ((decoder.push octets).1.filterMap s.feed.config.recordOf?)
      ∧ t.task = .running loader (.reading connection (decoder.push octets).2)
      ∧ t.script = s.script := by
  intro t
  cases octets with
  | nil =>
    rw [Decoder.push_nil hd]
    exact ⟨rfl, rfl, htask, rfl⟩
  | cons b rest =>
    obtain ⟨hconfig, hstore⟩ := Feed.applyChunk_spec s.feed (b :: rest) (decoder.push (b :: rest)).1
    exact ⟨hconfig, hstore, rfl, rfl⟩

/-! ## The loader -/

/-- The answer to the request for the snapshot adds the records of its page, if it has one. -/
theorem completeSnapshot_spec (s : Session) (link : Link) :
    (s.completeSnapshot link).feed.config = s.feed.config
      ∧ match s.script.snapshot with
        | .ok page => (s.completeSnapshot link).feed.store = (s.feed.store.seed page.items).2
        | .error _ => (s.completeSnapshot link).feed.store = s.feed.store := by
  unfold completeSnapshot Feed.loadSnapshot
  cases s.script.snapshot <;> exact ⟨rfl, rfl⟩

/-! ## Moves from outside -/

/-- Nothing from outside changes the records, and an attempt that is under way afterwards was under
way before. -/
theorem Outside.spec (h : Outside s s') :
    Rests s s' ∨ (Keeps s s' ∧ s'.task = s.task ∧ s'.since = s.since) := by
  cases h with
  | start h =>
    unfold Session.start at h
    split at h
    next => cases h
    next =>
      split at h
      next =>
        cases h
        refine Or.inl ⟨⟨rfl, rfl⟩, fun _ _ htask => ?_⟩
        cases htask
        rfl
      next =>
        cases h
        exact Or.inr ⟨⟨rfl, rfl⟩, rfl, rfl⟩
  | stop =>
    refine Or.inl ⟨⟨?_, ?_⟩, fun _ _ htask => by cases htask⟩
    · simp [Session.stop]
    · simp [Session.stop]
  | signal signal =>
    unfold Session.signal
    split <;> exact Or.inr ⟨⟨rfl, rfl⟩, rfl, rfl⟩
  | dropHost | draw => exact Or.inr ⟨⟨rfl, rfl⟩, rfl, rfl⟩
  | serve script h => exact Or.inr ⟨⟨rfl, rfl⟩, rfl, by simp only [since, h]⟩
  | pass | schedule => exact Or.inr ⟨⟨rfl, rfl⟩, rfl, rfl⟩

end Session

end ActivityFeed
