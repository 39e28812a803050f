import ActivityFeed.Proofs.Sync.Attempts

/-!
# After the end

A synchronizer is torn down by being stopped or given away, at whatever point of its work that
happens. The end cancels every attempt and leaves no work behind (`tornDown_stop`), and a
synchronizer without work is one to which nothing happens any more: views, host and server may go on
as they like, but no action moves what it shows or makes it ask for anything (`TornDown.perform`).

Main result: `stop_is_final`.
-/

namespace ActivityFeed

/-- Entering a phase is all that happens to a feed that enters one. -/
theorem Feed.enter_eq (f : Feed) (phase : Phase) :
    f.enter phase = { f with phase := (f.enter phase).phase } := by
  unfold Feed.enter
  split <;> rfl

theorem Feed.enter_of_stopped {f : Feed} (h : f.phase.value = .stopped) (phase : Phase) :
    f.enter phase = f :=
  if_pos h

namespace Session

variable {s s' : Session}

/-- The end has come: no work is left, views see it, and every attempt has been cancelled. -/
structure TornDown (s : Session) : Prop where
  ended : s.task = .ended
  stopped : s.feed.phase.value = .stopped
  cancelled : ∀ a ∈ s.script.attempts, a.isCancelled = true

/-- Nothing that a view sees has changed, and nothing has been asked of the server. -/
structure Undisturbed (s s' : Session) : Prop where
  feed : s'.feed = s.feed
  task : s'.task = s.task
  attempts : s'.script.attempts = s.script.attempts
  snapshotRequests : s'.script.snapshotRequests = s.script.snapshotRequests

theorem Undisturbed.refl (s : Session) : Undisturbed s s :=
  ⟨rfl, rfl, rfl, rfl⟩

theorem Undisturbed.trans {t : Session} (h : Undisturbed s s') (h' : Undisturbed s' t) :
    Undisturbed s t where
  feed := h'.feed.trans h.feed
  task := h'.task.trans h.task
  attempts := h'.attempts.trans h.attempts
  snapshotRequests := h'.snapshotRequests.trans h.snapshotRequests

/-- A connection that is given up is all that the end does to the script besides cancelling. -/
theorem snapshotRequests_dropConnection (s : Session) :
    s.dropConnection.script.snapshotRequests = s.script.snapshotRequests := by
  unfold dropConnection
  split <;> rfl

/-- **The end can come at any point**, and it comes at once. -/
theorem tornDown_stop (s : Session) : TornDown s.stop where
  ended := rfl
  stopped := Feed.phase_enter_stopped _
  cancelled := by
    intro a ha
    obtain ⟨b, -, rfl⟩ := List.mem_map.mp ha
    rfl

/-- What the end itself does to what views see is to show it. -/
theorem feed_stop (s : Session) : s.stop.feed = s.feed.enter .stopped := by
  show s.dropConnection.feed.enter .stopped = _
  rw [feed_dropConnection]

theorem snapshotRequests_stop (s : Session) :
    s.stop.script.snapshotRequests = s.script.snapshotRequests :=
  snapshotRequests_dropConnection s

namespace TornDown

theorem isStopped (h : TornDown s) : s.isStopped = true :=
  decide_eq_true h.stopped

/-- What has ended does not start. -/
theorem start (h : TornDown s) : s.start = .error .stopped :=
  if_pos h.isStopped

/-- The end comes once: a second one finds nothing to give up, to cancel or to show. -/
theorem stop (h : TornDown s) : s.stop = s := by
  have hdropped : s.dropConnection = s := by
    unfold dropConnection
    rw [h.ended]
  have hcancelled : s.script.attempts.map (fun a => { a with isCancelled := true })
      = s.script.attempts := by
    refine (List.map_congr_left fun a ha => ?_).trans (List.map_id _)
    rw [← h.cancelled a ha]
    rfl
  have hended : { s with task := .ended } = s := by
    rw [← h.ended]
  unfold Session.stop
  rw [hdropped]
  dsimp only
  rw [Feed.enter_of_stopped h.stopped, Script.cancelAttempts, hcancelled]
  exact hended

/-- **No action disturbs what has ended.** Neither of its activities has work, and what views, host
and server do is not answered. -/
theorem perform (h : TornDown s) (a : Action) : Undisturbed s (s.perform a) := by
  cases a with
  | load =>
    rcases s.perform_load_cases with hsame | ⟨loader, link, htask, -⟩
    · rw [hsame]
      exact .refl s
    · cases h.ended.symm.trans htask
  | link p =>
    rcases s.perform_link_cases p with hsame | ⟨loader, link, htask, -⟩
    · rw [hsame]
      exact .refl s
    · cases h.ended.symm.trans htask
  | start =>
    rcases s.perform_start_cases with hsame | ⟨htask, -⟩
    · rw [hsame]
      exact .refl s
    · cases h.ended.symm.trans htask
  | stop =>
    show Undisturbed s s.stop
    rw [h.stop]
    exact .refl s
  | signal signal =>
    show Undisturbed s (s.signal signal)
    unfold Session.signal
    split <;> exact ⟨rfl, rfl, rfl, rfl⟩
  | serve order =>
    -- the server may lay out what it likes, requests are not its to make
    cases order with
    | deliver n d =>
      refine ⟨rfl, rfl, Scenario.attempts_deliver s.script n d, ?_⟩
      show (s.script.deliver n d).2.snapshotRequests = _
      rw [Script.deliver_eq]
      rfl
    | connect | reject | prepare | close | snapshot | delaySnapshot => exact ⟨rfl, rfl, rfl, rfl⟩
  | dropHost | draw | pass | schedule => exact ⟨rfl, rfl, rfl, rfl⟩

theorem of_undisturbed (h : TornDown s) (hsame : Undisturbed s s') : TornDown s' where
  ended := hsame.task.trans h.ended
  stopped := hsame.feed ▸ h.stopped
  cancelled := hsame.attempts ▸ h.cancelled

theorem play (h : TornDown s) (as : List Action) : Undisturbed s (s.play as) := by
  induction as generalizing s with
  | nil => exact .refl s
  | cons a as ih =>
    have hfirst := h.perform a
    exact hfirst.trans (ih (h.of_undisturbed hfirst))

end TornDown

/-- **The end is final, total and comes once.** Let a session be at any point of its work when it is
stopped, and let anything happen afterwards. Then the phase is `stopped`, all attempts that were
ever made are cancelled, and records, outcome of the snapshot, revision and counters are what they
were. Neither the snapshot nor the stream has been asked for again, starting is refused and does
nothing, and stopping once more changes nothing at all. -/
theorem stop_is_final (s : Session) (as : List Action) :
    let t := s.stop.play as
    (t.feed.phase.value = .stopped ∧ t.feed.phase = s.stop.feed.phase)
      ∧ (∀ a ∈ t.script.attempts, a.isCancelled = true)
      ∧ (t.feed.store = s.feed.store ∧ t.feed.snapshot = s.feed.snapshot
        ∧ t.feed.revision = s.feed.revision ∧ t.feed.stats = s.feed.stats)
      ∧ (t.script.snapshotRequests = s.script.snapshotRequests
        ∧ t.script.attempts.length = s.script.attempts.length)
      ∧ (t.start = .error .stopped ∧ t.perform .start = t)
      ∧ t.stop = t := by
  intro t
  have hsame : Undisturbed s.stop t := (tornDown_stop s).play as
  have hend : TornDown t := (tornDown_stop s).of_undisturbed hsame
  have hfeed : t.feed = { s.feed with phase := (s.feed.enter .stopped).phase } := by
    rw [hsame.feed, feed_stop]
    exact Feed.enter_eq _ _
  refine ⟨⟨hend.stopped, by rw [hsame.feed]⟩, hend.cancelled, ?_, ⟨?_, ?_⟩, ⟨hend.start, ?_⟩,
    hend.stop⟩
  · rw [hfeed]
    exact ⟨rfl, rfl, rfl, rfl⟩
  · exact hsame.snapshotRequests.trans (snapshotRequests_stop s)
  · rw [hsame.attempts]
    exact length_attempts_stop s
  · rcases t.perform_start_cases with hnone | ⟨htask, -⟩
    · exact hnone
    · cases hend.ended.symm.trans htask

end Session

end ActivityFeed
