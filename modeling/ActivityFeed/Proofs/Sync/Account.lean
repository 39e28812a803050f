import ActivityFeed.Proofs.Sync.Recut

/-!
# What a feed is told

An action tells a feed of one thing at most: of the answer for the snapshot, or of octets with the
frames that they complete. `told` is what the feed makes of it, and apart from the connection
nothing else happens to a feed (`sameAccount_perform`): the records, the revision, the outcome of
the snapshot and the counters of records, frames and octets are those that it was told.
-/

namespace ActivityFeed

/-- The octets that come with something that is taken in. -/
def Intake.octets : Intake → List UInt8
  | .page _ => []
  | .chunk _ octets => octets

namespace Feed

/-- The same records, and the same account of where they are from. -/
structure SameAccount (f g : Feed) : Prop where
  config : g.config = f.config
  store : g.store = f.store
  revision : g.revision = f.revision
  snapshot : g.snapshot = f.snapshot
  merged : g.stats.recordsMerged = f.stats.recordsMerged
  rejected : g.stats.duplicatesRejected = f.stats.duplicatesRejected
  dropped : g.stats.framesDropped = f.stats.framesDropped
  octets : g.stats.octetsReceived = f.stats.octetsReceived

variable {f g : Feed}

theorem SameAccount.refl (f : Feed) : SameAccount f f :=
  ⟨rfl, rfl, rfl, rfl, rfl, rfl, rfl, rfl⟩

/-- The account does not say how the connection fares. -/
theorem SameAccount.enter (h : SameAccount f g) (phase : Phase) :
    SameAccount f (g.enter phase) := by
  unfold Feed.enter
  split
  · exact h
  · exact ⟨h.config, h.store, h.revision, h.snapshot, h.merged, h.rejected, h.dropped, h.octets⟩

theorem SameAccount.noteRetry (h : SameAccount f g) : SameAccount f g.noteRetry := by
  apply enter
  exact ⟨h.config, h.store, h.revision, h.snapshot, h.merged, h.rejected, h.dropped, h.octets⟩

theorem SameAccount.noteOpened (h : SameAccount f g) : SameAccount f g.noteOpened := by
  apply enter
  exact ⟨h.config, h.store, h.revision, h.snapshot, h.merged, h.rejected, h.dropped, h.octets⟩

theorem SameAccount.noteError (h : SameAccount f g) (cause : Failure) :
    SameAccount f (g.noteError cause) :=
  ⟨h.config, h.store, h.revision, h.snapshot, h.merged, h.rejected, h.dropped, h.octets⟩

/-- Frames call the store. -/
theorem exists_calls_foldl (f : Feed) (frames : List Frame) :
    ∃ cs, (frames.foldl applyFrame f).store = f.store.calls cs :=
  ⟨_, (f.foldl_applyFrame_spec frames).2.trans (Store.calls_merges f.store 0 _).symm⟩

end Feed

namespace Session

variable {s s' t : Session} {p : Precedence} {a : Action} {n : Nat} {config : Config}
  {loader : Loader} {link : Link}

open Feed (SameAccount)

theorem Reached.wellFormed (h : Reached config s) :
    s.feed.store.WellFormed ∧ s.feed.store.capacity = config.capacity := by
  obtain ⟨history, hr⟩ := h.replays
  rw [hr.store]
  exact (Store.empty_wellFormed config.capacity).calls _

/-! ## What an action tells -/

/-- The octets that an action reads. -/
def octets (s : Session) (a : Action) : List UInt8 :=
  (s.intake a).flatMap Intake.octets

/-- The frames that an action completes. -/
def frames (s : Session) (a : Action) : List Frame :=
  match s.task with
  | .running _ (.reading _ decoder) => (decoder.push (s.octets a)).1
  | _ => []

/-- The answer for the snapshot that an action gets. -/
def arrival? (s : Session) : Action → Option (Except Failure Page)
  | .load => s.answer?
  | _ => none

/-- The feed after what an action tells it. -/
def told (s : Session) (a : Action) : Feed :=
  match s.arrival? a with
  | some result => s.feed.loadSnapshot result
  | none => s.feed.applyChunk (s.octets a) (s.frames a)

theorem octets_of_chunk? {octets : List UInt8} (h : s.chunk? p = some (n, octets)) :
    s.octets (.link p) = octets := by
  rw [Session.octets, intake, h]
  exact List.append_nil octets

theorem frames_of_octets (h : Reached config s) (hnone : s.octets a = []) : s.frames a = [] := by
  unfold frames
  split
  next loader n decoder htask =>
    rw [hnone, Decoder.push_nil (h.settled loader n decoder htask)]
  next => rfl

/-- The answer for the snapshot comes without octets, and there was none before. -/
theorem octets_of_arrival {result : Except Failure Page} (h : s.arrival? a = some result) :
    s.octets a = [] := by
  cases a with
  | load =>
    rw [octets, intake, show s.answer? = some result from h]
    cases result <;> rfl
  | _ => cases h

theorem pending_of_arrival (h : Reached config s) {result : Except Failure Page}
    (harrival : s.arrival? a = some result) : s.feed.snapshot = .pending := by
  cases a with
  | load =>
    obtain ⟨history, hr⟩ := h.replays
    rcases s.perform_load_spec with ⟨hnone, -⟩ | ⟨_, -, hloads⟩
    · cases hnone.symm.trans harrival
    · exact hr.pending hloads.awaited
  | _ => cases harrival

/-- Without octets and without an answer a feed is told nothing. -/
theorem told_of_nothing (h : Reached config s) (harrival : s.arrival? a = none)
    (hnone : s.octets a = []) : s.told a = s.feed := by
  unfold told
  rw [harrival, frames_of_octets h hnone, hnone]
  rfl

/-! ## Nothing else happens -/

/-- However an attempt ends, its end is not in the account. -/
theorem sameAccount_endAttempt {f : Feed} (h : SameAccount f t.feed) (loader : Loader)
    (ending : Ending) : SameAccount f (t.endAttempt loader ending).feed := by
  rw [← feed_dropConnection] at h
  cases ending with
  | aborted => exact h.enter .idle
  | closed => exact h.noteRetry
  | failed cause => exact (h.noteError cause).noteRetry

theorem sameAccount_release (s : Session) (loader : Loader) :
    SameAccount s.feed (s.release loader).feed := by
  show SameAccount s.feed (s.dropConnection.feed.enter .idle)
  rw [feed_dropConnection]
  exact (SameAccount.refl s.feed).enter .idle

theorem sameAccount_openStream (s : Session) (loader : Loader) :
    SameAccount s.feed (s.openStream loader).feed := by
  have hentered : SameAccount s.feed (s.feed.enter .connecting) := (SameAccount.refl _).enter _
  unfold openStream
  dsimp only
  split
  next =>
    apply sameAccount_endAttempt
    exact hentered
  next => exact hentered

/-- A turn of the link that takes no chunk is not in the account. -/
theorem sameAccount_of_chunk?_eq_none (h : s.chunk? p = none) :
    SameAccount s.feed (s.perform (.link p)).feed := by
  cases hreads : s.task.reading? with
  | none =>
    rcases s.perform_link_cases p with hsame | ⟨loader, link, htask, hwork⟩
    · rw [hsame]
      exact .refl _
    · generalize s.perform (.link p) = s' at hwork
      rw [htask] at hreads
      cases hwork with
      | connect => exact sameAccount_openStream s loader
      | accept => exact (SameAccount.refl _).noteOpened
      | reject =>
        apply sameAccount_endAttempt
        exact .refl _
      | release => exact sameAccount_release s loader
      | wake | rearm => exact .refl _
      | read | breakOff | close => cases hreads
  | some n =>
    obtain ⟨loader, decoder, htask⟩ := Task.exists_of_reading? hreads
    rcases perform_link_of_chunk?_eq_none htask h with
      hsame | hreleased | hclosed | ⟨unread, cause, hbroken⟩
    · rw [hsame]
      exact .refl _
    · rw [hreleased]
      exact sameAccount_release s loader
    · rw [hclosed]
      exact sameAccount_endAttempt (.refl _) loader .closed
    · rw [hbroken]
      apply sameAccount_endAttempt
      exact .refl _

/-- A turn of the link tells what it has read. -/
theorem sameAccount_link (h : Reached config s) (p : Precedence) :
    SameAccount (s.told (.link p)) (s.perform (.link p)).feed := by
  cases hchunk : s.chunk? p with
  | none =>
    have hnone : s.octets (.link p) = [] := by rw [octets, intake, hchunk]; rfl
    rw [told_of_nothing h rfl hnone]
    exact sameAccount_of_chunk?_eq_none hchunk
  | some chunk =>
    obtain ⟨n, octets⟩ := chunk
    obtain ⟨loader, decoder, unread, htask, -, hperform⟩ := perform_link_of_chunk? hchunk
    have hoctets := octets_of_chunk? hchunk
    rw [hperform]
    by_cases hnone : octets = []
    · -- an empty chunk is left alone
      rw [told_of_nothing h rfl (hoctets.trans hnone), hnone]
      exact .refl _
    · have hframes : s.frames (.link p) = (decoder.push octets).1 := by
        simp only [frames, htask, hoctets]
      have htold : s.told (.link p) = s.feed.applyChunk octets (decoder.push octets).1 := by
        rw [← hframes, ← hoctets]
        rfl
      rw [applyChunk_of_ne_nil hnone, htold]
      exact .refl _

/-- A turn of the loader tells the answer, if there is one. -/
theorem feed_load (s : Session) :
    (s.perform .load).feed
      = match s.answer? with
        | some result => s.feed.loadSnapshot result
        | none => s.feed := by
  cases htask : s.task with
  | unstarted | ended => simp only [perform, answer?, htask]
  | running loader link =>
    rw [perform_load htask]
    cases loader with
    | ready =>
      simp only [answer?, htask, loaderStep?, requestSnapshot]
      split <;> rfl
    | pending due =>
      simp only [answer?, htask, loaderStep?]
      split <;> rfl
    | done => simp only [answer?, htask, loaderStep?, Option.getD_none]

/-- **Nothing else happens to the records, or to what is counted of them.** -/
theorem sameAccount_perform (h : Reached config s) (a : Action) :
    SameAccount (s.told a) (s.perform a).feed := by
  -- the loader and the link are told something; nothing else reaches the account
  cases a with
  | load =>
    rw [feed_load]
    cases hanswer : s.answer? with
    | none =>
      have hnone : s.octets .load = [] := by rw [octets, intake, hanswer]; rfl
      rw [told_of_nothing h (show s.arrival? .load = none from hanswer) hnone]
      exact .refl _
    | some result =>
      rw [told, arrival?, hanswer]
      exact .refl _
  | link p => exact sameAccount_link h p
  | start =>
    rw [told_of_nothing h rfl rfl]
    rcases s.perform_start_cases with hsame | ⟨-, hstarted⟩
    · rw [hsame]
      exact .refl _
    · rw [hstarted]
      exact .refl _
  | stop =>
    rw [told_of_nothing h rfl rfl]
    show SameAccount s.feed (s.dropConnection.feed.enter .stopped)
    rw [feed_dropConnection]
    exact (SameAccount.refl s.feed).enter .stopped
  | signal signal =>
    rw [told_of_nothing h rfl rfl]
    show SameAccount s.feed (s.signal signal).feed
    unfold Session.signal
    split <;> exact .refl _
  | dropHost | draw | serve | pass | schedule =>
    rw [told_of_nothing h rfl rfl]
    exact .refl _

end Session

end ActivityFeed
