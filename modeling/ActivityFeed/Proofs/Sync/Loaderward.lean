import ActivityFeed.Proofs.Sync.History
import ActivityFeed.Proofs.Sync.Streamward

/-!
# A session as the loader sees it

`loaderward` is a session without the connection: without the view and its host, without what the
server has laid out for the stream and what it was asked, without the records, the counters and the
phases, of which it is only left whether the synchronizer has stopped. What is left is the snapshot:
what the server gives and when, how far the loader has come, and the outcome.

It is to the snapshot what `streamward` is to the connection. What the link, the host and the rest
of the server do cannot be seen in it (`loaderward_perform_of_not`), and what all else makes of the
snapshot is settled by the snapshot (`loaderward_perform`).
-/

namespace ActivityFeed

/-- A server without what it has laid out for the stream. -/
def Script.loaderward (t : Script) : Script :=
  { Script.empty with
    snapshot := t.snapshot
    snapshotDelay := t.snapshotDelay
    snapshotRequests := t.snapshotRequests }

/-- A feed of which it is known how the snapshot came out, and whether all is over. -/
def Feed.loaderward (f : Feed) : Feed :=
  { Feed.new f.config with
    phase := .new (if f.phase.value = .stopped then .stopped else .idle)
    snapshot := f.snapshot }

/-- A task without its link. -/
def Task.loaderward : Task → Task
  | .running loader _ => .running loader .parked
  | task => task

/-- A session as the loader sees it. -/
def Session.loaderward (s : Session) : Session :=
  { s with
    visibility := .always
    hasHost := false
    script := s.script.loaderward
    feed := s.feed.loaderward
    backoff := default
    drawn := default
    task := s.task.loaderward
    linkFirst := false
    isStirred := false }

@[simp] theorem Task.loaderward_loaderward (task : Task) :
    task.loaderward.loaderward = task.loaderward := by
  cases task <;> rfl

namespace Feed

variable {f g : Feed}

/-- Part by part. -/
theorem loaderward_eq (hconfig : f.config = g.config) (hsnapshot : f.snapshot = g.snapshot)
    (hstopped : f.phase.value = .stopped ↔ g.phase.value = .stopped) :
    f.loaderward = g.loaderward := by
  simp only [loaderward, hconfig, hsnapshot, hstopped]

theorem stopped_loaderward (f : Feed) :
    f.loaderward.phase.value = .stopped ↔ f.phase.value = .stopped := by
  unfold loaderward
  split <;> simp_all [Watched.new]

@[simp] theorem loaderward_loaderward (f : Feed) : f.loaderward.loaderward = f.loaderward :=
  loaderward_eq rfl rfl f.stopped_loaderward

/-- The loader does not see which phase is entered, unless it is the last. -/
theorem loaderward_enter (f : Feed) {phase : Phase} (h : phase ≠ .stopped) :
    (f.enter phase).loaderward = f.loaderward := by
  refine loaderward_eq (config_enter f phase) (snapshot_enter f phase) ?_
  unfold enter
  split
  next => rfl
  next hrunning => simp only [Watched.value_set, h, hrunning]

theorem loaderward_enter_stopped (f : Feed) :
    (f.enter .stopped).loaderward = { f.loaderward with phase := .new .stopped } := by
  have hstopped : (f.enter .stopped).phase.value = .stopped := by
    unfold enter
    split
    next h => exact h
    next => exact Watched.value_set _ _
  rw [loaderward, config_enter, snapshot_enter, if_pos hstopped]
  rfl

theorem loaderward_noteRetry (f : Feed) : f.noteRetry.loaderward = f.loaderward :=
  loaderward_enter _ nofun

theorem loaderward_noteOpened (f : Feed) : f.noteOpened.loaderward = f.loaderward :=
  loaderward_enter _ nofun

theorem loaderward_applyChunk (f : Feed) (octets : List UInt8) (frames : List Frame) :
    (f.applyChunk octets frames).loaderward = f.loaderward := by
  refine loaderward_eq (applyChunk_spec f octets frames).1 (snapshot_applyChunk f octets frames) ?_
  rw [(sameConnection_applyChunk f octets frames).phase]

/-- What the outcome is does not depend on what is held. -/
theorem loaderward_loadSnapshot (f : Feed) (result : Except Failure Page) :
    (f.loadSnapshot result).loaderward = (f.loaderward.loadSnapshot result).loaderward := by
  cases result <;> exact loaderward_eq rfl rfl f.stopped_loaderward.symm

end Feed

namespace Session

variable {s t : Session} {p : Precedence} {loader : Loader} {link : Link} {a : Action}

/-- Part by part. -/
theorem loaderward_eq (hclock : s.clock = t.clock)
    (hscript : s.script.loaderward = t.script.loaderward)
    (hfeed : s.feed.loaderward = t.feed.loaderward)
    (htask : s.task.loaderward = t.task.loaderward) : s.loaderward = t.loaderward := by
  simp only [loaderward, hclock, hscript, hfeed, htask]

@[simp] theorem loaderward_loaderward (s : Session) : s.loaderward.loaderward = s.loaderward :=
  loaderward_eq rfl rfl s.feed.loaderward_loaderward s.task.loaderward_loaderward

/-- What can be read off the snapshot. -/
theorem eq_of_loaderward {β : Type} (f : Session → β) (hf : ∀ u, f u = f u.loaderward)
    (h : s.loaderward = t.loaderward) : f s = f t := by
  rw [hf s, hf t, h]

theorem isStopped_loaderward (s : Session) : s.loaderward.isStopped = s.isStopped := by
  exact decide_eq_decide.mpr s.feed.stopped_loaderward

/-! ## The link -/

theorem loaderward_dropConnection (s : Session) : s.dropConnection.loaderward = s.loaderward := by
  unfold dropConnection
  split <;> rfl

/-- The link goes on to something else, and at most another phase is entered. -/
theorem loaderward_of_link (h : t.loaderward = s.loaderward) (hs : s.task = .running loader link)
    {feed : Feed} (hfeed : feed.loaderward = t.feed.loaderward) (backoff : Backoff) (link' : Link) :
    { t with feed, backoff, task := .running loader link' }.loaderward = s.loaderward := by
  rw [← h]
  refine loaderward_eq rfl rfl hfeed ?_
  have htask : t.task.loaderward = s.task.loaderward := congrArg Session.task h
  rw [htask, hs]
  rfl

theorem loaderward_giveUp (s : Session) : s.giveUp.loaderward = s.loaderward :=
  loaderward_dropConnection s

theorem loaderward_release (hs : s.task = .running loader link) :
    (s.release loader).loaderward = s.loaderward := by
  refine loaderward_of_link (loaderward_giveUp s) hs ?_ s.giveUp.backoff .parked
  exact Feed.loaderward_enter _ nofun

theorem loaderward_endAttempt (h : t.loaderward = s.loaderward) (hs : s.task = .running loader link)
    (ending : Ending) : (t.endAttempt loader ending).loaderward = s.loaderward := by
  have hover : t.giveUp.loaderward = s.loaderward := (loaderward_giveUp t).trans h
  cases ending with
  | aborted =>
    refine loaderward_of_link hover hs ?_ t.giveUp.backoff .released
    exact Feed.loaderward_enter _ nofun
  | closed =>
    refine loaderward_of_link hover hs ?_ _ _
    exact Feed.loaderward_noteRetry _
  | failed cause =>
    refine loaderward_of_link hover hs ?_ _ _
    exact Feed.loaderward_noteRetry _

theorem loaderward_openStream (hs : s.task = .running loader link) :
    (s.openStream loader).loaderward = s.loaderward := by
  have hentered : (s.feed.enter .connecting).loaderward = s.feed.loaderward :=
    Feed.loaderward_enter _ nofun
  unfold openStream
  dsimp only
  split
  next =>
    apply loaderward_endAttempt _ hs
    exact loaderward_eq rfl rfl hentered rfl
  next =>
    refine loaderward_eq rfl rfl hentered ?_
    rw [hs]
    rfl

/-- Nothing of what the link does. -/
theorem LinkWork.loaderward_eq (hwork : LinkWork s loader link t)
    (hs : s.task = .running loader link) : t.loaderward = s.loaderward := by
  cases hwork with
  | connect => exact loaderward_openStream hs
  | accept =>
    refine loaderward_of_link rfl hs ?_ s.backoff _
    exact Feed.loaderward_noteOpened _
  | read =>
    unfold applyChunk
    split
    next => rfl
    next =>
      refine loaderward_of_link rfl hs ?_ s.backoff.reset _
      exact Feed.loaderward_applyChunk _ _ _
  | reject | breakOff | close =>
    apply loaderward_endAttempt _ hs
    rfl
  | release => exact loaderward_release hs
  | wake | rearm => exact loaderward_of_link rfl hs rfl s.backoff .parked

/-! ## Actions -/

/-- Whether an action is the snapshot's affair. Time is, and so are the beginning and the end. -/
def Action.isOfLoader : Action → Bool
  | .load => true
  | .start => true
  | .stop => true
  | .pass _ => true
  | .serve (.snapshot _) => true
  | .serve (.delaySnapshot _) => true
  | _ => false

theorem loaderward_start (s : Session) :
    (s.perform .start).loaderward = (s.loaderward.perform .start).loaderward := by
  have hunstarted : s.loaderward.task = .unstarted ↔ s.task = .unstarted := by
    unfold loaderward Task.loaderward
    cases s.task <;> simp
  simp only [perform_start_eq, isStopped_loaderward, hunstarted]
  split
  next => exact loaderward_eq rfl rfl s.feed.loaderward_loaderward.symm rfl
  next => exact s.loaderward_loaderward.symm

/-- The answer, whatever the link is doing. -/
theorem loaderward_completeSnapshot (s : Session) (link : Link) :
    (s.completeSnapshot link).loaderward = (s.loaderward.completeSnapshot .parked).loaderward :=
  loaderward_eq rfl rfl (Feed.loaderward_loadSnapshot _ _) rfl

theorem requestSnapshot_eq (s : Session) (link : Link) :
    s.requestSnapshot link
      = if s.script.snapshotDelay = 0 then s.noteRequest.completeSnapshot link
        else
          { s.noteRequest with
            task := .running (.pending (s.clock + s.script.snapshotDelay)) link } :=
  rfl

theorem loaderward_load (s : Session) :
    (s.perform .load).loaderward = (s.loaderward.perform .load).loaderward := by
  cases htask : s.task with
  | unstarted | ended =>
    have hseen : s.loaderward.task = s.task := by
      rw [loaderward, htask]
      rfl
    simp only [perform, hseen, htask]
    exact s.loaderward_loaderward.symm
  | running loader link =>
    have hseen : s.loaderward.task = .running loader .parked := by
      rw [loaderward, htask]
      rfl
    rw [perform_load htask, perform_load hseen]
    cases loader with
    | ready =>
      show (s.requestSnapshot link).loaderward = (s.loaderward.requestSnapshot .parked).loaderward
      rw [requestSnapshot_eq, requestSnapshot_eq]
      show (if s.script.snapshotDelay = 0 then _ else _ : Session).loaderward
        = (if s.script.snapshotDelay = 0 then _ else _ : Session).loaderward
      split
      next => exact loaderward_completeSnapshot s.noteRequest link
      next => exact loaderward_eq rfl rfl s.feed.loaderward_loaderward.symm rfl
    | pending due =>
      show ((if due ≤ s.clock then some (s.completeSnapshot link) else none).getD s).loaderward
        = ((if due ≤ s.clock then some (s.loaderward.completeSnapshot .parked) else none).getD
          s.loaderward).loaderward
      split
      next => exact loaderward_completeSnapshot s link
      next => exact s.loaderward_loaderward.symm
    | done => exact s.loaderward_loaderward.symm

theorem loaderward_stop (s : Session) :
    s.stop.loaderward
      = { s.loaderward with
          feed := { s.loaderward.feed with phase := .new .stopped }
          task := .ended } := by
  rw [← loaderward_dropConnection s]
  show { s.dropConnection.loaderward with
    feed := (s.dropConnection.feed.enter .stopped).loaderward, task := .ended } = _
  rw [Feed.loaderward_enter_stopped]
  rfl

/-- **What is done to the snapshot is settled by the snapshot.** -/
theorem loaderward_perform (h : s.loaderward = t.loaderward) (ha : a.isOfLoader = true) :
    (s.perform a).loaderward = (t.perform a).loaderward := by
  -- to do it and then look is to look and then do it, on each of the two sessions
  suffices hcommutes : ∀ u : Session,
      (u.perform a).loaderward = (u.loaderward.perform a).loaderward by
    rw [hcommutes s, hcommutes t, h]
  intro u
  cases a with
  | load => exact loaderward_load u
  | start => exact loaderward_start u
  | stop =>
    show u.stop.loaderward = u.loaderward.stop.loaderward
    rw [loaderward_stop, loaderward_stop, loaderward_loaderward]
  | pass millis =>
    exact congrArg (fun v : Session => { v with clock := v.clock + millis })
      u.loaderward_loaderward.symm
  | serve order =>
    cases order with
    | snapshot | delaySnapshot =>
      refine loaderward_eq rfl rfl u.feed.loaderward_loaderward.symm ?_
      exact u.task.loaderward_loaderward.symm
    | connect | reject | prepare | deliver | close => cases ha
  | link | signal | dropHost | draw | schedule => cases ha

/-- **What is done on the connection cannot be seen on the snapshot.** -/
theorem loaderward_perform_of_not (s : Session) (ha : a.isOfLoader = false) :
    (s.perform a).loaderward = s.loaderward := by
  cases a with
  | link p =>
    rcases s.perform_link_cases p with hsame | ⟨loader, link, htask, hwork⟩
    · rw [hsame]
    · exact hwork.loaderward_eq htask
  | signal signal =>
    show (s.signal signal).loaderward = s.loaderward
    unfold Session.signal
    split <;> rfl
  | serve order =>
    cases order with
    | deliver n d =>
      simp only [perform, Script.obey, Script.deliver_eq]
      rfl
    | connect | reject | prepare | close => rfl
    | snapshot | delaySnapshot => cases ha
  | dropHost | draw | schedule => rfl
  | load | start | stop | pass => cases ha

end Session

end ActivityFeed
