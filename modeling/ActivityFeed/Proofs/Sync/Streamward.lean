import ActivityFeed.Proofs.Sync.Effects
import ActivityFeed.Proofs.Sync.Outward

/-!
# A session as the stream sees it

`streamward` is a session without what comes of the snapshot: without the records and what is
counted of them, the revision, the outcome of the snapshot and the last failure, which may be that
of the snapshot; without what the server has laid out for the snapshot and where the loader stands;
and without the cursors that were sent, which are made of the records. What is left is the
connection.

The loader's work, and what the server lays out for it, cannot be seen in it
(`streamward_perform_of_not`). And what all else makes of the connection is settled by the
connection (`streamward_perform`): to do something and then look at the connection is to look at
the connection first and do it then.
-/

namespace ActivityFeed

/-- An attempt without its cursor. -/
def Attempt.streamward (a : Attempt) : Attempt :=
  { a with since := none }

/-- A server without what it has laid out for the snapshot. -/
def Script.streamward (t : Script) : Script :=
  { t with
    snapshot := .ok .empty
    snapshotDelay := 0
    snapshotRequests := []
    attempts := t.attempts.map Attempt.streamward }

/-- A feed without records and what is told of them. -/
def Feed.streamward (f : Feed) : Feed :=
  { f with
    store := .empty 0
    revision := .new 0
    snapshot := .pending
    stats := { f.stats with recordsMerged := 0, duplicatesRejected := 0, lastError := none } }

/-- A task without its loader. -/
def Task.streamward : Task → Task
  | .running _ link => .running .done link
  | task => task

/-- A session as the stream sees it. -/
def Session.streamward (s : Session) : Session :=
  { s with
    script := s.script.streamward
    feed := s.feed.streamward
    task := s.task.streamward
    linkFirst := false
    isStirred := false }

/-! ## Attempts -/

namespace Script

variable (t : Script)

theorem streamward_cancelNewest : t.cancelNewest.streamward = t.streamward.cancelNewest := by
  have hattempts : t.cancelNewest.attempts.map Attempt.streamward
      = t.streamward.cancelNewest.attempts := by
    rw [map_cancelNewest (f := Attempt.streamward) (g := fun a => { a with isCancelled := true })
      (fun _ => rfl), cancelNewest, streamward, List.length_map]
  show { t.streamward with attempts := t.cancelNewest.attempts.map Attempt.streamward } = _
  rw [hattempts]
  rfl

theorem streamward_cancelAttempts :
    t.cancelAttempts.streamward = t.streamward.cancelAttempts := by
  simp only [streamward, cancelAttempts, List.map_map]
  rfl

end Script

/-! ## Feeds -/

namespace Feed

variable (f : Feed)

theorem streamward_enter (phase : Phase) :
    (f.enter phase).streamward = f.streamward.enter phase := by
  unfold enter
  split
  next h => exact (if_pos h).symm
  next h => exact (if_neg h).symm

theorem streamward_noteRetry : f.noteRetry.streamward = f.streamward.noteRetry := by
  rw [noteRetry, streamward_enter]
  rfl

theorem streamward_noteOpened : f.noteOpened.streamward = f.streamward.noteOpened := by
  rw [noteOpened, streamward_enter]
  rfl

/-- The answer for the snapshot cannot be seen. -/
theorem streamward_loadSnapshot (result : Except Failure Page) :
    (f.loadSnapshot result).streamward = f.streamward := by
  cases result <;> rfl

/-- Whatever becomes of a record. -/
theorem streamward_applyFrame_of_record {f : Feed} {frame : Frame} {record : Record}
    (hevent : frame.event = f.config.recordEvent)
    (hrecord : Record.ofPayload frame.data f.config.envelope = .ok record) :
    (f.applyFrame frame).streamward = f.streamward := by
  rw [applyFrame_of_record hevent hrecord]
  split
  next => rfl
  next => split <;> rfl

/-- Of a frame the stream sees whether it should have been a record and was none. -/
theorem streamward_applyFrame (frame : Frame) :
    (f.applyFrame frame).streamward = (f.streamward.applyFrame frame).streamward := by
  by_cases hevent : frame.event = f.config.recordEvent
  · cases hrecord : Record.ofPayload frame.data f.config.envelope with
    | error error =>
      have hdropped : f.streamward.applyFrame frame
          = (f.applyFrame frame).streamward := by
        rw [applyFrame_of_error hevent hrecord]
        exact applyFrame_of_error hevent hrecord
      rw [hdropped]
      rfl
    | ok record =>
      -- whether it is held or kept may differ, and neither can be seen
      rw [streamward_applyFrame_of_record hevent hrecord]
      symm
      apply streamward_applyFrame_of_record
      · exact hevent
      · exact hrecord
  · have hsame : f.streamward.applyFrame frame = f.streamward := by
      apply applyFrame_of_other
      exact hevent
    rw [applyFrame_of_other hevent, hsame]
    rfl

theorem streamward_foldl_applyFrame {f g : Feed} (h : f.streamward = g.streamward)
    (frames : List Frame) :
    (frames.foldl applyFrame f).streamward = (frames.foldl applyFrame g).streamward := by
  induction frames generalizing f g with
  | nil => exact h
  | cons frame frames ih =>
    apply ih
    rw [streamward_applyFrame f, h, ← streamward_applyFrame g]

theorem streamward_applyChunk (octets : List UInt8) (frames : List Frame) :
    (f.applyChunk octets frames).streamward
      = (f.streamward.applyChunk octets frames).streamward := by
  apply streamward_foldl_applyFrame
  rfl

end Feed

/-- Tasks that look the same to the stream are at the same stage. -/
theorem Task.streamward_cases {u v : Task} (h : u.streamward = v.streamward) :
    (∃ loader loader' link, u = .running loader link ∧ v = .running loader' link)
      ∨ u = v ∧ ∀ loader link, u ≠ .running loader link := by
  cases u <;> cases v <;> cases h
  case running.running loader link loader' => exact Or.inl ⟨loader, loader', link, rfl, rfl⟩
  all_goals exact Or.inr ⟨rfl, nofun⟩

/-! ## Pieces of work -/

namespace Session

variable {s t : Session} {p : Precedence} {loader loader' : Loader} {link : Link} {a : Action}

/-- Part by part. -/
theorem streamward_eq (hclock : s.clock = t.clock) (hvisibility : s.visibility = t.visibility)
    (hhost : s.hasHost = t.hasHost) (hscript : s.script.streamward = t.script)
    (hfeed : s.feed.streamward = t.feed) (hbackoff : s.backoff = t.backoff)
    (hdrawn : s.drawn = t.drawn) (htask : s.task.streamward = t.task) (hfirst : t.linkFirst = false)
    (hstirred : t.isStirred = false) : s.streamward = t := by
  cases t
  simp_all [streamward]

/-- What can be read off the connection. -/
theorem eq_of_streamward {β : Type} (f : Session → β) (hf : ∀ u, f u = f u.streamward)
    (h : s.streamward = t.streamward) : f s = f t := by
  rw [hf s, hf t, h]

theorem streamward_dropConnection (s : Session) :
    s.dropConnection.streamward = s.streamward.dropConnection := by
  obtain ⟨clock, visibility, hasHost, script, feed, backoff, drawn, task, linkFirst, isStirred⟩ := s
  cases task with
  | running loader link => cases link <;> rfl
  | unstarted | ended => rfl

theorem streamward_stop (s : Session) : s.stop.streamward = s.streamward.stop := by
  unfold stop
  rw [← streamward_dropConnection]
  refine streamward_eq rfl rfl rfl ?_ ?_ rfl rfl rfl rfl rfl
  · exact Script.streamward_cancelAttempts _
  · exact Feed.streamward_enter _ _

/-- The session when its attempt is over. -/
def giveUp (s : Session) : Session :=
  { s.dropConnection with script := s.dropConnection.script.cancelNewest }

theorem streamward_giveUp (s : Session) : s.giveUp.streamward = s.streamward.giveUp := by
  unfold giveUp
  rw [← streamward_dropConnection]
  refine streamward_eq rfl rfl rfl ?_ rfl rfl rfl rfl rfl rfl
  exact Script.streamward_cancelNewest _

/-- The link goes on to something else, and views see another phase. -/
theorem streamward_enter (s : Session) (phase : Phase) (loader : Loader) (link : Link) :
    { s with feed := s.feed.enter phase, task := .running loader link }.streamward
      = { s.streamward with
          feed := s.streamward.feed.enter phase
          task := .running .done link } := by
  refine streamward_eq rfl rfl rfl rfl ?_ rfl rfl rfl rfl rfl
  exact Feed.streamward_enter _ _

theorem streamward_rest (s : Session) (loader : Loader) :
    (s.rest loader).streamward = s.streamward.rest .done := by
  refine streamward_eq rfl rfl rfl rfl ?_ rfl rfl rfl rfl rfl
  exact Feed.streamward_noteRetry _

theorem streamward_release (h : s.streamward = t.streamward) (loader loader' : Loader) :
    (s.release loader).streamward = (t.release loader').streamward := by
  show { s.giveUp with
      feed := s.giveUp.feed.enter .idle, task := .running loader .parked }.streamward
    = { t.giveUp with
      feed := t.giveUp.feed.enter .idle, task := .running loader' .parked }.streamward
  rw [streamward_enter, streamward_enter, streamward_giveUp, streamward_giveUp, h]

/-- However an attempt ends; why it did is the last failure at most. -/
theorem streamward_endAttempt (h : s.streamward = t.streamward) (loader loader' : Loader)
    (ending : Ending) :
    (s.endAttempt loader ending).streamward = (t.endAttempt loader' ending).streamward := by
  have hover : s.giveUp.streamward = t.giveUp.streamward := by
    rw [streamward_giveUp, streamward_giveUp, h]
  cases ending with
  | aborted =>
    show { s.giveUp with
        feed := s.giveUp.feed.enter .idle, task := .running loader .released }.streamward
      = { t.giveUp with
        feed := t.giveUp.feed.enter .idle, task := .running loader' .released }.streamward
    rw [streamward_enter, streamward_enter, hover]
  | closed =>
    show (s.giveUp.rest loader).streamward = (t.giveUp.rest loader').streamward
    rw [streamward_rest, streamward_rest, hover]
  | failed cause =>
    show (rest { s.giveUp with feed := s.giveUp.feed.noteError cause } loader).streamward
      = (rest { t.giveUp with feed := t.giveUp.feed.noteError cause } loader').streamward
    rw [streamward_rest, streamward_rest]
    exact congrArg (rest · .done) hover

/-- A request, of which the stream does not see the cursor. -/
theorem streamward_request (s : Session) (attempt : Attempt) (prepared : List Failure) :
    { s with
      feed := s.feed.enter .connecting
      script := { s.script with prepared, attempts := s.script.attempts ++ [attempt] } }.streamward
      = { s.streamward with
          feed := s.streamward.feed.enter .connecting
          script := { s.streamward.script with
            prepared
            attempts := s.streamward.script.attempts ++ [attempt.streamward] } } := by
  refine streamward_eq rfl rfl rfl ?_ ?_ rfl rfl rfl rfl rfl
  · simp only [Script.streamward, List.map_append]
    rfl
  · exact Feed.streamward_enter _ _

theorem streamward_openStream (h : s.streamward = t.streamward) (loader loader' : Loader) :
    (s.openStream loader).streamward = (t.openStream loader').streamward := by
  have hprepared : s.script.prepared = t.script.prepared :=
    eq_of_streamward (·.script.prepared) (fun _ => rfl) h
  -- the cursors of the two requests are made of other records
  have hrequest : ∀ (since since' : Option Instant) (isScripted : Bool) (prepared : List Failure),
      { s with
        feed := s.feed.enter .connecting
        script := { s.script with
          prepared
          attempts := s.script.attempts ++ [Attempt.mk since false isScripted] } }.streamward
        = { t with
          feed := t.feed.enter .connecting
          script := { t.script with
            prepared
            attempts :=
              t.script.attempts ++ [Attempt.mk since' false isScripted] } }.streamward := by
    intro since since' isScripted prepared
    rw [streamward_request, streamward_request, h]
    rfl
  unfold openStream
  dsimp only
  rw [hprepared]
  split
  next cause prepared _ =>
    apply streamward_endAttempt
    exact hrequest _ _ false prepared
  next =>
    exact congrArg (fun u : Session => { u with task := .running .done .opening })
      (hrequest _ _ true t.script.prepared)

theorem streamward_takeAnswer? (h : s.streamward = t.streamward) (loader loader' : Loader) :
    (s.takeAnswer? loader).map streamward = (t.takeAnswer? loader').map streamward := by
  have hanswers : s.script.answers = t.script.answers :=
    eq_of_streamward (·.script.answers) (fun _ => rfl) h
  unfold takeAnswer?
  rw [hanswers]
  split
  next => rfl
  next connection answers _ =>
    have haccepted : ∀ (u : Session) (loader : Loader), { u with
          script := { u.script with answers }
          feed := u.feed.noteOpened
          task := .running loader (.reading connection .fresh) }.streamward
        = { u.streamward with
          script := { u.streamward.script with answers }
          feed := u.streamward.feed.noteOpened
          task := .running .done (.reading connection .fresh) } := by
      intro u loader
      refine streamward_eq rfl rfl rfl rfl ?_ rfl rfl rfl rfl rfl
      exact Feed.streamward_noteOpened _
    rw [Option.map_some, Option.map_some, haccepted, haccepted, h]
  next message status answers _ =>
    refine congrArg some (streamward_endAttempt ?_ loader loader' _)
    exact congrArg (fun u : Session => { u with script := { u.script with answers } }) h

theorem streamward_applyChunk (h : s.streamward = t.streamward) (loader loader' : Loader)
    (n : Nat) (decoder : Decoder) (octets : List UInt8) :
    (s.applyChunk loader n decoder octets).streamward
      = (t.applyChunk loader' n decoder octets).streamward := by
  unfold applyChunk
  split
  next => exact h
  next =>
    have hfeed : (s.feed.applyChunk octets (decoder.push octets).1).streamward
        = (t.feed.applyChunk octets (decoder.push octets).1).streamward := by
      have hbefore : s.feed.streamward = t.feed.streamward := congrArg Session.feed h
      rw [Feed.streamward_applyChunk, hbefore, ← Feed.streamward_applyChunk]
    have hbackoff : s.backoff = t.backoff := eq_of_streamward backoff (fun _ => rfl) h
    show { s.streamward with
        feed := (s.feed.applyChunk octets (decoder.push octets).1).streamward
        backoff := s.backoff.reset
        task := .running .done (.reading n (decoder.push octets).2) }
      = { t.streamward with
        feed := (t.feed.applyChunk octets (decoder.push octets).1).streamward
        backoff := t.backoff.reset
        task := .running .done (.reading n (decoder.push octets).2) }
    rw [h, hfeed, hbackoff]

theorem streamward_readNext? (h : s.streamward = t.streamward) (loader loader' : Loader) (n : Nat)
    (decoder : Decoder) :
    (s.readNext? loader n decoder).map streamward
      = (t.readNext? loader' n decoder).map streamward := by
  have hconnections : s.script.connections = t.script.connections :=
    eq_of_streamward (·.script.connections) (fun _ => rfl) h
  unfold readNext?
  rw [hconnections]
  split
  next => rfl
  next c _ =>
    split
    next =>
      split
      next => rfl
      next => exact congrArg some (streamward_endAttempt h loader loader' .closed)
    next delivery unread _ =>
      have hconsumed : (s.consume n unread).streamward = (t.consume n unread).streamward :=
        congrArg (fun u : Session => u.consume n unread) h
      cases delivery with
      | chunk octets => exact congrArg some (streamward_applyChunk hconsumed loader loader' n
          decoder octets)
      | failure cause => exact congrArg some (streamward_endAttempt hconsumed loader loader' _)

/-- A turn of the link finds the same work and does the same. -/
theorem streamward_linkStep? (h : s.streamward = t.streamward) (p : Precedence)
    (loader loader' : Loader) (link : Link) :
    (s.linkStep? p loader link).map streamward = (t.linkStep? p loader' link).map streamward := by
  have heligible : s.isEligible = t.isEligible := eq_of_streamward isEligible (fun _ => rfl) h
  have hclock : s.clock = t.clock := eq_of_streamward clock (fun _ => rfl) h
  -- giving up comes into it in the two places where an attempt is under way
  have hlost : (if t.isEligible then none else some (s.release loader)).map streamward
      = (if t.isEligible then none else some (t.release loader')).map streamward := by
    split
    next => rfl
    next => exact congrArg some (streamward_release h loader loader')
  have hmoved : ∀ link', { s with task := .running loader link' }.streamward
      = { t with task := .running loader' link' }.streamward :=
    fun link' => congrArg (fun u : Session => { u with task := .running .done link' }) h
  unfold linkStep?
  rw [heligible]
  cases link with
  | parked =>
    dsimp only
    split
    next => exact congrArg some (streamward_openStream h loader loader')
    next => rfl
  | opening =>
    dsimp only
    rw [map_pick, map_pick, hlost, streamward_takeAnswer? h loader loader']
  | reading n decoder =>
    dsimp only
    rw [map_pick, map_pick, hlost, streamward_readNext? h loader loader' n decoder]
  | resting due =>
    dsimp only
    by_cases hdue : due ≤ t.clock
    · rw [if_pos (hclock ▸ hdue), if_pos hdue]
      exact congrArg some (hmoved .parked)
    · rw [if_neg (hclock ▸ hdue), if_neg hdue]
  | released =>
    dsimp only
    split
    next => rfl
    next => exact congrArg some (hmoved .parked)

/-! ## Actions -/

/-- Whether an action is not the snapshot's affair. -/
def Action.isOfStream : Action → Bool
  | .load => false
  | .serve (.snapshot _) => false
  | .serve (.delaySnapshot _) => false
  | .schedule .. => false
  | _ => true

theorem streamward_obey (t : Script) {order : Order} (h : (Action.serve order).isOfStream = true) :
    (t.obey order).streamward = t.streamward.obey order := by
  cases order with
  | deliver n d =>
    rw [Script.obey, Script.obey, Script.deliver_eq, Script.deliver_eq]
    rfl
  | connect | reject | prepare | close => rfl
  | snapshot | delaySnapshot => cases h

theorem streamward_start (h : s.streamward = t.streamward) :
    (s.perform .start).streamward = (t.perform .start).streamward := by
  have hstopped : s.isStopped = t.isStopped := eq_of_streamward isStopped (fun _ => rfl) h
  have hunstarted : s.task = .unstarted ↔ t.task = .unstarted := by
    rcases Task.streamward_cases (congrArg Session.task h) with
      ⟨loader, loader', link, hs, ht⟩ | ⟨hsame, -⟩
    · simp [hs, ht]
    · rw [hsame]
  simp only [perform_start_eq, hstopped, hunstarted]
  split
  next => exact congrArg (fun u : Session => { u with task := .running .done .parked }) h
  next => exact h

theorem streamward_link (h : s.streamward = t.streamward) (p : Precedence) :
    (s.perform (.link p)).streamward = (t.perform (.link p)).streamward := by
  rcases Task.streamward_cases (congrArg Session.task h) with
    ⟨loader, loader', link, hs, ht⟩ | ⟨hsame, hidle⟩
  · rw [perform_link hs, perform_link ht, ← Option.getD_map streamward,
      ← Option.getD_map streamward, streamward_linkStep? h p loader loader' link, h]
  · have hnothing : ∀ u : Session, (∀ loader link, u.task ≠ .running loader link) →
        u.perform (.link p) = u := by
      intro u hu
      rcases u.perform_link_cases p with hsame | ⟨loader, link, htask, -⟩
      · exact hsame
      · exact absurd htask (hu loader link)
    rw [hnothing s hidle, hnothing t (hsame ▸ hidle)]
    exact h

theorem streamward_signal (s : Session) (signal : Signal) :
    (s.signal signal).streamward
      = if s.streamward.hasHost then
          { s.streamward with visibility := s.streamward.visibility.receive signal }
        else s.streamward := by
  unfold Session.signal
  by_cases hhost : s.hasHost = true
  · rw [if_pos hhost]
    exact (if_pos hhost).symm
  · rw [if_neg hhost]
    exact (if_neg hhost).symm

theorem streamward_completeSnapshot (s : Session) (loader : Loader) {link : Link}
    (htask : s.task = .running loader link) :
    (s.completeSnapshot link).streamward = s.streamward := by
  refine streamward_eq rfl rfl rfl rfl ?_ rfl rfl ?_ rfl rfl
  · exact Feed.streamward_loadSnapshot _ _
  · rw [streamward, htask]
    rfl

/-- **What is done to the connection is settled by the connection.** -/
theorem streamward_perform (h : s.streamward = t.streamward) (ha : a.isOfStream = true) :
    (s.perform a).streamward = (t.perform a).streamward := by
  cases a with
  | load | schedule => cases ha
  | link p => exact streamward_link h p
  | start => exact streamward_start h
  | stop =>
    show s.stop.streamward = t.stop.streamward
    rw [streamward_stop, streamward_stop, h]
  | signal signal =>
    show (s.signal signal).streamward = (t.signal signal).streamward
    rw [streamward_signal, streamward_signal, h]
  | dropHost => exact congrArg (fun u : Session => { u with hasHost := false }) h
  | draw drawn => exact congrArg (draw · drawn) h
  | serve order =>
    show { s.streamward with script := (s.script.obey order).streamward }
      = { t.streamward with script := (t.script.obey order).streamward }
    rw [streamward_obey _ ha, streamward_obey _ ha]
    exact congrArg (fun u : Session => { u with script := u.script.obey order }) h
  | pass millis => exact congrArg (fun u : Session => { u with clock := u.clock + millis }) h

/-- **What is done for the snapshot cannot be seen on the connection.** -/
theorem streamward_perform_of_not (s : Session) (ha : a.isOfStream = false) :
    (s.perform a).streamward = s.streamward := by
  cases a with
  | load =>
    rcases s.perform_load_cases with hsame | ⟨loader, link, htask, hwork⟩
    · rw [hsame]
    · generalize s.perform .load = u at hwork
      cases hwork with
      | request due =>
        refine streamward_eq rfl rfl rfl rfl rfl rfl rfl ?_ rfl rfl
        rw [streamward, htask]
        rfl
      | load =>
        rw [streamward_completeSnapshot s.noteRequest .ready htask]
        rfl
      | answer => exact streamward_completeSnapshot s _ htask
  | serve order =>
    cases order with
    | snapshot | delaySnapshot => rfl
    | connect | reject | prepare | deliver | close => cases ha
  | schedule => rfl
  | link | start | stop | signal | dropHost | draw | pass => cases ha

end Session

end ActivityFeed
