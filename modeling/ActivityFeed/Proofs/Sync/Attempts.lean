import ActivityFeed.Proofs.Sync.Cancelled
import ActivityFeed.Proofs.Sync.Effects

/-!
# One attempt at a time

An attempt is cancelled by whatever ends it: a loss of eligibility, its own end or the end of the
synchronizer. The first two cancel the newest attempt and leave the others to have been cancelled
before, which is why it has to be shown that none was forgotten.

What a view sees of this is the phase. In each place of its work the synchronizer shows one of few
phases (`Task.phases`), and whether an attempt is under way can be told from them
(`Task.isActive_of_mem_phases`). What one action does to the attempts is one of three things
(`Attempt.Progress`): nothing, the end of the newest one, or a new one when all have ended.

Main result: `live_attempt_of_play`.
-/

namespace ActivityFeed

/-! ## Phases -/

/-- The phases that a view may see while the link stands somewhere. -/
def Link.phases : Link → List Phase
  | .parked => [.idle, .backingOff]
  | .opening => [.connecting]
  | .reading .. => [.streaming]
  | .resting _ => [.backingOff]
  | .released => [.idle]

/-- The phases that a view may see. -/
def Task.phases : Task → List Phase
  | .unstarted => [.idle]
  | .running _ link => link.phases
  | .ended => [.stopped]

/-- Whether an attempt is under way can be seen from the phase. -/
theorem Task.isActive_of_mem_phases {task : Task} {phase : Phase} (h : phase ∈ task.phases) :
    phase.isActive = task.isActive := by
  cases task with
  | unstarted =>
    rw [List.mem_singleton.mp h]
    rfl
  | ended =>
    rw [List.mem_singleton.mp h]
    rfl
  | running loader link =>
    cases link with
    | parked =>
      have hphase : phase = .idle ∨ phase = .backingOff := by simpa [phases, Link.phases] using h
      rcases hphase with rfl | rfl <;> rfl
    | opening | reading | resting | released =>
      rw [List.mem_singleton.mp h]
      rfl

/-- A synchronizer that works has not stopped. -/
theorem Link.ne_stopped_of_mem_phases {link : Link} {phase : Phase} (h : phase ∈ link.phases) :
    phase ≠ .stopped := by
  rintro rfl
  cases link <;> simp [phases] at h

theorem Phase.isActive_eq_false_iff {phase : Phase} :
    phase.isActive = false ↔ phase = .idle ∨ phase = .backingOff ∨ phase = .stopped := by
  cases phase <;> simp [isActive]

namespace Feed

theorem phase_enter {f : Feed} (h : f.phase.value ≠ .stopped) (phase : Phase) :
    (f.enter phase).phase.value = phase := by
  rw [enter, if_neg h]
  exact Watched.value_set _ _

/-- What has stopped has stopped for good. -/
theorem phase_enter_stopped (f : Feed) : (f.enter .stopped).phase.value = .stopped := by
  by_cases h : f.phase.value = .stopped
  · rw [enter, if_pos h]
    exact h
  · exact phase_enter h .stopped

theorem phase_noteOpened {f : Feed} (h : f.phase.value ≠ .stopped) :
    f.noteOpened.phase.value = .streaming := by
  apply phase_enter
  exact h

theorem phase_noteRetry {f : Feed} (h : f.phase.value ≠ .stopped) :
    f.noteRetry.phase.value = .backingOff := by
  apply phase_enter
  exact h

end Feed

namespace Session

variable {s s' : Session} {p : Precedence} {loader : Loader} {link : Link}

/-- What a view sees fits what the synchronizer does. -/
def Shown (s : Session) : Prop :=
  s.feed.phase.value ∈ s.task.phases

theorem shown_rest (h : s.feed.phase.value ≠ .stopped) (loader : Loader) :
    Shown (s.rest loader) :=
  List.mem_singleton.mpr (Feed.phase_noteRetry h)

/-- However an attempt ends, the end is shown. -/
theorem shown_endAttempt (h : s.feed.phase.value ≠ .stopped) (loader : Loader) (ending : Ending) :
    Shown (s.endAttempt loader ending) := by
  rw [← feed_dropConnection] at h
  cases ending with
  | aborted => exact List.mem_singleton.mpr (Feed.phase_enter h .idle)
  | closed =>
    apply shown_rest
    exact h
  | failed cause =>
    apply shown_rest
    exact h

theorem shown_openStream (h : s.feed.phase.value ≠ .stopped) (loader : Loader) :
    Shown (s.openStream loader) := by
  have hentered := Feed.phase_enter h .connecting
  unfold openStream
  dsimp only
  split
  next =>
    refine shown_endAttempt ?_ loader _
    rw [hentered]
    decide
  next => exact List.mem_singleton.mpr hentered

theorem LinkWork.shown (hwork : LinkWork s loader link s') (htask : s.task = .running loader link)
    (h : Shown s) : Shown s' := by
  have hphase : s.feed.phase.value ∈ link.phases := by
    rw [Shown, htask] at h
    exact h
  -- a phase is entered as long as the synchronizer has not stopped, and while it works it has not
  have hgoes := Link.ne_stopped_of_mem_phases hphase
  cases hwork with
  | connect => exact shown_openStream hgoes loader
  | accept => exact List.mem_singleton.mpr (Feed.phase_noteOpened hgoes)
  | @read connection decoder c octets unread =>
    unfold applyChunk
    split
    next => exact h
    next =>
      show (s.feed.applyChunk octets _).phase.value ∈ [Phase.streaming]
      rw [(s.feed.sameConnection_applyChunk _ _).phase]
      exact hphase
  | reject | breakOff | close =>
    apply shown_endAttempt
    exact hgoes
  | release =>
    rw [← feed_dropConnection] at hgoes
    exact List.mem_cons.mpr (Or.inl (Feed.phase_enter hgoes .idle))
  | wake => exact List.mem_cons_of_mem _ hphase
  | rearm => exact List.mem_cons.mpr (Or.inl (List.mem_singleton.mp hphase))

theorem LoaderWork.shown (hwork : LoaderWork s link loader s')
    (htask : s.task = .running loader link) (h : Shown s) : Shown s' := by
  rw [Shown, htask] at h
  cases hwork with
  | request => exact h
  | load | answer =>
    show (s.feed.loadSnapshot s.script.snapshot).phase.value ∈ link.phases
    rw [(s.feed.sameConnection_loadSnapshot _).phase]
    exact h

theorem perform_shown (h : Shown s) (a : Action) : Shown (s.perform a) := by
  cases a with
  | load =>
    rcases s.perform_load_cases with hsame | ⟨loader, link, htask, hwork⟩
    · exact hsame.symm ▸ h
    · exact hwork.shown htask h
  | link p =>
    rcases s.perform_link_cases p with hsame | ⟨loader, link, htask, hwork⟩
    · exact hsame.symm ▸ h
    · exact hwork.shown htask h
  | start =>
    rcases s.perform_start_cases with hsame | ⟨htask, hstarted⟩
    · exact hsame.symm ▸ h
    · rw [Shown, htask] at h
      rw [hstarted]
      exact List.mem_cons.mpr (Or.inl (List.mem_singleton.mp h))
  | stop => exact List.mem_singleton.mpr (Feed.phase_enter_stopped _)
  | signal signal =>
    show Shown (s.signal signal)
    unfold Session.signal
    split <;> exact h
  | dropHost | draw | serve | pass | schedule => exact h

theorem play_shown (h : Shown s) (as : List Action) : Shown (s.play as) := by
  induction as generalizing s with
  | nil => exact h
  | cons a as ih => exact ih (perform_shown h a)

theorem shown_of_new {config : Config} {visibility : Visibility}
    (h : new config visibility = .ok s) : Shown s := by
  obtain ⟨-, rfl⟩ := new_eq_ok_iff.mp h
  exact List.mem_singleton.mpr rfl

end Session

/-! ## Attempts -/

/-- What one action can do to the attempts. -/
inductive Attempt.Progress (attempts : List Attempt) : List Attempt → Prop
  | stay : Progress attempts attempts
  /-- The newest one has ended. -/
  | cancel {before : List Attempt} {newest : Attempt} (h : attempts = before ++ [newest]) :
    Progress attempts (before ++ [{ newest with isCancelled := true }])
  /-- One more has been made when all had ended. -/
  | request (newest : Attempt) (h : ∀ a ∈ attempts, a.isCancelled = true) :
    Progress attempts (attempts ++ [newest])

open Attempt (Progress)

theorem Script.progress_cancelNewest (t : Script) :
    Progress t.attempts t.cancelNewest.attempts := by
  rcases List.eq_nil_or_concat t.attempts with hnone | ⟨before, newest, hnewest⟩
  · rw [cancelNewest, hnone]
    exact .stay
  · rw [List.concat_eq_append] at hnewest
    rw [attempts_cancelNewest hnewest]
    exact .cancel hnewest

/-- Where all attempts but the newest have been cancelled, cancelling all is cancelling that one. -/
theorem Script.attempts_cancelAttempts {t : Script}
    (h : ∀ a ∈ t.attempts.dropLast, a.isCancelled = true) :
    t.cancelAttempts.attempts = t.cancelNewest.attempts := by
  rcases List.eq_nil_or_concat t.attempts with hnone | ⟨before, newest, hnewest⟩
  · rw [cancelAttempts, cancelNewest, hnone]
    rfl
  · rw [List.concat_eq_append] at hnewest
    rw [hnewest, List.dropLast_concat] at h
    have hbefore : before.map (fun a => { a with isCancelled := true }) = before := by
      refine (List.map_congr_left fun a ha => ?_).trans (List.map_id before)
      rw [← h a ha]
      rfl
    rw [attempts_cancelNewest hnewest, cancelAttempts, hnewest, List.map_append, hbefore]
    rfl

namespace Session

variable {s s' : Session} {loader : Loader} {link : Link}

theorem attempts_endAttempt (s : Session) (loader : Loader) (ending : Ending) :
    (s.endAttempt loader ending).script.attempts = s.script.cancelNewest.attempts := by
  have hnewest : s.dropConnection.script.cancelNewest.attempts
      = s.script.cancelNewest.attempts := by
    unfold Script.cancelNewest
    dsimp only
    rw [attempts_dropConnection]
  cases ending <;> exact hnewest

theorem length_attempts_endAttempt (s : Session) (loader : Loader) (ending : Ending) :
    (s.endAttempt loader ending).script.attempts.length = s.script.attempts.length := by
  rw [attempts_endAttempt]
  exact List.length_modify _ _ _

/-- Nothing is asked for at the end. -/
theorem length_attempts_stop (s : Session) :
    s.stop.script.attempts.length = s.script.attempts.length := by
  show (s.dropConnection.script.attempts.map _).length = _
  rw [List.length_map, attempts_dropConnection]

/-- A request is one more attempt, which has been cancelled already if it failed at once. -/
theorem exists_attempts_openStream (s : Session) (loader : Loader) :
    ∃ newest, (s.openStream loader).script.attempts = s.script.attempts ++ [newest] := by
  unfold openStream
  dsimp only
  split
  next =>
    rw [attempts_endAttempt]
    exact ⟨_, Script.attempts_cancelNewest rfl⟩
  next => exact ⟨_, rfl⟩

theorem LinkWork.progress (hwork : LinkWork s loader link s') (hwired : Wired s)
    (htask : s.task = .running loader link) : Progress s.script.attempts s'.script.attempts := by
  -- what is taken from the script before an attempt ends is not of the attempts
  have hends : ∀ (t : Session) (ending : Ending), t.script.attempts = s.script.attempts →
      Progress s.script.attempts (t.endAttempt loader ending).script.attempts := by
    intro t ending ht
    rw [attempts_endAttempt, ← ht]
    exact t.script.progress_cancelNewest
  cases hwork with
  | connect =>
    obtain ⟨newest, hattempts⟩ := exists_attempts_openStream s loader
    rw [hattempts]
    refine .request newest (hwired.cancelled ?_)
    rw [htask]
    rfl
  | reject => exact hends _ _ rfl
  | breakOff => exact hends _ _ rfl
  | close => exact hends _ _ rfl
  | release =>
    have hnewest := s.dropConnection.script.progress_cancelNewest
    rw [attempts_dropConnection] at hnewest
    exact hnewest
  | read =>
    unfold applyChunk
    split <;> exact .stay
  | accept | wake | rearm => exact .stay

theorem perform_progress (hwired : Wired s) (a : Action) :
    Progress s.script.attempts (s.perform a).script.attempts := by
  cases a with
  | link p =>
    rcases s.perform_link_cases p with hsame | ⟨loader, link, htask, hwork⟩
    · rw [hsame]
      exact .stay
    · exact hwork.progress hwired htask
  | stop =>
    have hstop : s.stop.script.attempts = s.script.cancelNewest.attempts := by
      rw [← Script.attempts_cancelAttempts hwired.cancelled_dropLast]
      show s.dropConnection.script.attempts.map _ = _
      rw [attempts_dropConnection]
      rfl
    show Progress s.script.attempts s.stop.script.attempts
    rw [hstop]
    exact s.script.progress_cancelNewest
  | load | start | signal | dropHost | draw | serve | pass | schedule =>
    rw [attempts_perform]
    · exact .stay
    · exact fun _ => nofun
    · exact nofun

/-- **At most one attempt is live**, whatever views, host, server and scheduler do. Of all attempts
that were ever made, those before the newest have been cancelled; the newest has been too just
where the phase is one without an attempt; and a new one is made only after all before it have
been cancelled. No attempt is forgotten and none comes back. -/
theorem live_attempt_of_play {config : Config} {visibility : Visibility}
    (hnew : new config visibility = .ok s) (as : List Action) :
    (∀ a ∈ (s.play as).script.attempts.dropLast, a.isCancelled = true)
      ∧ ((∀ a ∈ (s.play as).script.attempts, a.isCancelled = true)
        ↔ (s.play as).feed.phase.value ∈ [.idle, .backingOff, .stopped])
      ∧ ∀ action, Progress (s.play as).script.attempts
          ((s.play as).perform action).script.attempts := by
  have hwired := play_wired (wired_of_new hnew) as
  have hphase := Task.isActive_of_mem_phases (play_shown (shown_of_new hnew) as)
  have hinactive : (s.play as).feed.phase.value ∈ [.idle, .backingOff, .stopped]
      ↔ (s.play as).task.isActive = false := by
    rw [← hphase, Phase.isActive_eq_false_iff]
    simp
  refine ⟨hwired.cancelled_dropLast, ?_, perform_progress hwired⟩
  rw [hinactive]
  constructor
  · intro hcancelled
    by_contra hactive
    obtain ⟨before, newest, hattempts, hlive, -⟩ := hwired.live (by simpa using hactive)
    have hnewest := hcancelled newest (by simp [hattempts])
    rw [hlive] at hnewest
    cases hnewest
  · exact hwired.cancelled

/-- The first of two connections is given up while it is read; the synchronizer stops while it reads
the second one. -/
theorem live_attempt_of_smallReturn :
    let t := (initial smallConfig .always).play
      (smallOpening ++ [.signal .blur, .link .stream, .signal .focus, .serve .connect,
        .link .signals, .link .signals])
    (∀ a ∈ t.script.attempts.dropLast, a.isCancelled = true)
      ∧ ((∀ a ∈ t.script.attempts, a.isCancelled = true)
        ↔ t.feed.phase.value ∈ [.idle, .backingOff, .stopped])
      ∧ t.feed.phase.value = .streaming
      ∧ t.script.attempts = [⟨none, true, true⟩, ⟨none, false, true⟩]
      ∧ Progress t.script.attempts (t.perform .stop).script.attempts
      ∧ (t.perform .stop).script.attempts = [⟨none, true, true⟩, ⟨none, true, true⟩] := by
  obtain ⟨hbefore, hphase, hprogress⟩ := live_attempt_of_play new_smallConfig
    (smallOpening ++ [.signal .blur, .link .stream, .signal .focus, .serve .connect,
      .link .signals, .link .signals])
  exact ⟨hbefore, hphase, by decide +kernel, by decide +kernel, hprogress .stop, by decide +kernel⟩

end Session

end ActivityFeed
