import ActivityFeed.Proofs.Sync.Retries
import ActivityFeed.Proofs.Sync.Teardown
import ActivityFeed.Proofs.Visibility.Latest
import Mathlib.Data.List.Chain

/-!
# The path of the phases

Views are told of every phase that a synchronizer enters. What they are told of is the path that it
takes through its phases, and few steps of such a path are possible (`Phase.successors`). An action
is shown as one or two feeds one after the other (`sights`), each of which `Advances` the one before
by at most one phase; the counters count the phases entered (`Tally`). The version of the phase is
the length of the path, so that nothing of the path is hidden from views.

An attempt is begun while a connection may be held, and at no other time. When that is over there is
work to do until none is under way, and after that all is quiet until it begins again
(`Quiet.perform`).

Main result: `path_of_play`.
-/

namespace ActivityFeed

/-- The phases that may come after a phase. -/
def Phase.successors : Phase → List Phase
  | .idle => [.connecting, .stopped]
  | .connecting => [.streaming, .backingOff, .idle, .stopped]
  | .streaming => [.backingOff, .idle, .stopped]
  | .backingOff => [.connecting, .stopped]
  | .stopped => []

namespace Phase

variable {phase : Phase}

theorem ne_of_mem_successors {next : Phase} (h : next ∈ phase.successors) : phase ≠ next := by
  rintro rfl
  cases phase <;> simp [successors] at h

theorem ne_stopped_of_mem_successors {next : Phase} (h : next ∈ phase.successors) :
    phase ≠ .stopped := by
  rintro rfl
  cases h

theorem stopped_mem_successors (h : phase ≠ .stopped) : .stopped ∈ phase.successors := by
  cases phase <;> simp [successors] at h ⊢

/-- An attempt may end with a delay or without one. -/
theorem mem_successors_of_isActive (h : phase.isActive = true) :
    .idle ∈ phase.successors ∧ .backingOff ∈ phase.successors := by
  cases phase <;> simp [isActive, successors] at h ⊢

end Phase

/-! ## What views see next -/

namespace Feed

/-- The same connection, or one phase later; two of the phases are counted. -/
inductive Advances (f g : Feed) : Prop
  | same (h : SameConnection f g)
  | enter {phase : Phase} (h : phase ∈ f.phase.value.successors)
    (hphase : g.phase = f.phase.put phase)
    (hopened : g.stats.connectionsOpened
      = f.stats.connectionsOpened + if phase = .streaming then 1 else 0)
    (hretries : g.stats.reconnectsScheduled
      = f.stats.reconnectsScheduled + if phase = .backingOff then 1 else 0)

variable {f g : Feed} {phase : Phase}

theorem phase_enter_of_mem (h : phase ∈ f.phase.value.successors) :
    (f.enter phase).phase = f.phase.put phase := by
  rw [enter, if_neg (Phase.ne_stopped_of_mem_successors h)]
  exact if_neg (Phase.ne_of_mem_successors h)

/-- A phase that is not counted is entered and nothing more. -/
theorem advances_enter (hg : SameConnection f g) (h : phase ∈ f.phase.value.successors)
    (hstreaming : phase ≠ .streaming) (hbackingOff : phase ≠ .backingOff) :
    Advances f (g.enter phase) := by
  rw [← hg.phase] at h
  refine .enter (hg.phase ▸ h) (hg.phase ▸ phase_enter_of_mem h) ?_ ?_
  · rw [stats_enter, hg.opened, if_neg hstreaming]
    rfl
  · rw [stats_enter, hg.retries, if_neg hbackingOff]
    rfl

theorem advances_noteOpened (h : .streaming ∈ f.phase.value.successors) :
    Advances f f.noteOpened := by
  apply Advances.enter h
  · exact phase_enter_of_mem h
  · rw [noteOpened, stats_enter, if_pos rfl]
  · rw [noteOpened, stats_enter]
    rfl

theorem advances_noteRetry (hg : SameConnection f g) (h : .backingOff ∈ f.phase.value.successors) :
    Advances f g.noteRetry := by
  rw [← hg.phase] at h
  apply Advances.enter (hg.phase ▸ h)
  · rw [← hg.phase]
    exact phase_enter_of_mem h
  · rw [noteRetry, stats_enter]
    exact hg.opened
  · rw [noteRetry, stats_enter, if_pos rfl, ← hg.retries]

end Feed

namespace Session

variable {s s' t : Session} {p : Precedence} {loader : Loader} {link : Link}

open Feed (Advances SameConnection)

/-! ## One action -/

/-- What views are shown in the middle of an action: that a request is made. -/
def announced (s : Session) : Action → List Feed
  | .link _ =>
    match s.task with
    | .running _ .parked => if s.isEligible then [s.feed.enter .connecting] else []
    | _ => []
  | _ => []

/-- The feeds that views are shown during an action, the last of which stays. -/
def sights (s : Session) (a : Action) : List Feed :=
  s.announced a ++ [(s.perform a).feed]

/-- However an attempt ends, its end is one phase. -/
theorem advances_endAttempt {f : Feed} (hactive : f.phase.value.isActive = true)
    (ht : SameConnection f t.feed) (loader : Loader) (ending : Ending) :
    Advances f (t.endAttempt loader ending).feed := by
  obtain ⟨hidle, hbackingOff⟩ := Phase.mem_successors_of_isActive hactive
  rw [← feed_dropConnection] at ht
  cases ending with
  | aborted => exact Feed.advances_enter ht hidle nofun nofun
  | closed => exact Feed.advances_noteRetry ht hbackingOff
  | failed cause => exact Feed.advances_noteRetry ⟨ht.phase, ht.opened, ht.retries⟩ hbackingOff

/-- A turn that is not to make a request shows views one thing at most. -/
theorem LinkWork.advances (hwork : LinkWork s loader link s') (hlink : link ≠ .parked)
    (hphase : s.feed.phase.value ∈ link.phases) : Advances s.feed s'.feed := by
  have hactive : link.isActive = true → s.feed.phase.value.isActive = true := by
    intro h
    have hrunning : s.feed.phase.value ∈ (Task.running loader link).phases := hphase
    exact (Task.isActive_of_mem_phases hrunning).trans h
  cases hwork with
  | connect => exact absurd rfl hlink
  | accept =>
    apply Feed.advances_noteOpened
    rw [List.mem_singleton.mp hphase]
    decide
  | read =>
    unfold applyChunk
    split
    next => exact .same ⟨rfl, rfl, rfl⟩
    next => exact .same (Feed.sameConnection_applyChunk _ _ _)
  | reject | breakOff | close =>
    apply advances_endAttempt (hactive rfl)
    exact ⟨rfl, rfl, rfl⟩
  | release h hlinkActive =>
    show Advances s.feed (s.dropConnection.feed.enter .idle)
    rw [feed_dropConnection]
    apply Feed.advances_enter ⟨rfl, rfl, rfl⟩
    · exact (Phase.mem_successors_of_isActive (hactive hlinkActive)).1
    · nofun
    · nofun
  | wake | rearm => exact .same ⟨rfl, rfl, rfl⟩

/-- A request shows views first that it is made, and then its failure if it fails at once. -/
theorem advances_openStream (hphase : s.feed.phase.value ∈ Link.parked.phases) (loader : Loader) :
    Advances s.feed (s.feed.enter .connecting)
      ∧ Advances (s.feed.enter .connecting) (s.openStream loader).feed := by
  have hconnecting : .connecting ∈ s.feed.phase.value.successors := by
    have hparked : s.feed.phase.value = .idle ∨ s.feed.phase.value = .backingOff := by
      simpa [Link.phases] using hphase
    rcases hparked with h | h <;> rw [h] <;> decide
  refine ⟨Feed.advances_enter ⟨rfl, rfl, rfl⟩ hconnecting (by decide) (by decide), ?_⟩
  unfold openStream
  dsimp only
  split
  next =>
    apply advances_endAttempt
    · rw [Feed.phase_enter_of_mem hconnecting]
      rfl
    · exact ⟨rfl, rfl, rfl⟩
  next => exact .same ⟨rfl, rfl, rfl⟩

theorem isChain_sights_link (h : Shown s) (p : Precedence) :
    (s.feed :: s.sights (.link p)).IsChain Advances := by
  have hsame : Advances s.feed s.feed := .same ⟨rfl, rfl, rfl⟩
  cases htask : s.task with
  | unstarted | ended =>
    simp only [sights, announced, perform, htask]
    exact .cons_cons hsame (.singleton _)
  | running loader link =>
    have hphase : s.feed.phase.value ∈ link.phases := by
      rw [Shown, htask] at h
      exact h
    by_cases hlink : link = .parked
    · subst hlink
      rw [sights, announced, htask, perform_link htask, linkStep?]
      dsimp only
      by_cases heligible : s.isEligible = true
      · obtain ⟨hmade, hanswered⟩ := advances_openStream hphase loader
        rw [if_pos heligible, if_pos heligible]
        exact .cons_cons hmade (.cons_cons hanswered (.singleton _))
      · rw [if_neg heligible, if_neg heligible]
        exact .cons_cons hsame (.singleton _)
    · have hnothing : s.announced (.link p) = [] := by
        cases link <;> simp [announced, htask] at hlink ⊢
      rw [sights, hnothing]
      refine .cons_cons ?_ (.singleton _)
      rcases s.perform_link_cases p with hnone | ⟨loader', link', htask', hwork⟩
      · rw [hnone]
        exact hsame
      · cases htask.symm.trans htask'
        exact hwork.advances hlink hphase

theorem announced_of_ne_link {a : Action} (h : ∀ p, a ≠ .link p) : s.announced a = [] := by
  unfold announced
  split
  next p => exact absurd rfl (h p)
  next => rfl

/-- **One action takes at most two steps on the path of the phases**, one after the other. -/
theorem isChain_sights (h : Shown s) (a : Action) : (s.feed :: s.sights a).IsChain Advances := by
  by_cases hlink : ∃ p, a = .link p
  · obtain ⟨p, rfl⟩ := hlink
    exact isChain_sights_link h p
  · rw [sights, announced_of_ne_link fun p hp => hlink ⟨p, hp⟩]
    apply List.isChain_pair.mpr
    rcases (s.perform_cases a).resolve_left hlink with rfl | ⟨haside, -⟩
    · show Advances s.feed s.stop.feed
      rw [feed_stop]
      by_cases hstopped : s.feed.phase.value = .stopped
      · rw [Feed.enter_of_stopped hstopped]
        exact .same ⟨rfl, rfl, rfl⟩
      · apply Feed.advances_enter ⟨rfl, rfl, rfl⟩ (Phase.stopped_mem_successors hstopped)
        · nofun
        · nofun
    · exact .same haside.connection

end Session

/-! ## The path -/

namespace Feed

/-- The phases that a watcher of a feed is told of while others take its place. -/
def news (f : Feed) : List Feed → List Phase
  | [] => []
  | g :: gs =>
    if g.phase.changedSince f.phase.version then g.phase.value :: g.news gs else g.news gs

/-- A feed tells of the path that has led to it. -/
structure Tally (f : Feed) (path : List Phase) : Prop where
  legal : (.idle :: path).IsChain fun phase next => next ∈ phase.successors
  phase : f.phase = ⟨path.getLastD .idle, path.length⟩
  opened : f.stats.connectionsOpened = path.count .streaming
  retries : f.stats.reconnectsScheduled = path.count .backingOff

variable {f g : Feed} {gs : List Feed} {path : List Phase}

theorem tally_new (config : Config) : Tally (new config) [] where
  legal := .singleton _
  phase := rfl
  opened := rfl
  retries := rfl

/-- One more phase on the path. -/
theorem Tally.concat {phase : Phase} (h : Tally f path) (hnext : phase ∈ f.phase.value.successors)
    (hphase : g.phase = f.phase.put phase)
    (hopened : g.stats.connectionsOpened
      = f.stats.connectionsOpened + if phase = .streaming then 1 else 0)
    (hretries : g.stats.reconnectsScheduled
      = f.stats.reconnectsScheduled + if phase = .backingOff then 1 else 0) :
    Tally g (path ++ [phase]) where
  legal := by
    rw [← List.cons_append]
    refine List.isChain_append.mpr ⟨h.legal, .singleton _, ?_⟩
    intro last hlast next hnext'
    -- where the path has come to is what the feed shows
    have hshown : last = f.phase.value := by
      rw [h.phase]
      simpa [List.getLast?_cons, eq_comm] using hlast
    rw [hshown, ← Option.some.inj hnext']
    exact hnext
  phase := by
    rw [hphase, h.phase]
    simp [Watched.put]
  opened := by
    rw [hopened, h.opened, List.count_append, List.count_singleton]
    simp
  retries := by
    rw [hretries, h.retries, List.count_append, List.count_singleton]
    simp

theorem Tally.same (h : Tally f path) (hsame : SameConnection f g) : Tally g path :=
  ⟨h.legal, hsame.phase.trans h.phase, hsame.opened.trans h.opened, hsame.retries.trans h.retries⟩

/-- The path goes on over all that is shown, up to the last. -/
theorem Tally.news (h : Tally f path) (hchain : (f :: (gs ++ [g])).IsChain Advances) :
    Tally g (path ++ f.news (gs ++ [g])) := by
  have hstep : ∀ {f g : Feed} {path : List Phase} (gs : List Feed), Tally f path → Advances f g →
      ∃ phases, Tally g (path ++ phases) ∧ f.news (g :: gs) = phases ++ g.news gs := by
    intro f g path gs h hadvances
    cases hadvances with
    | same hsame =>
      refine ⟨[], ?_, ?_⟩
      · rw [List.append_nil]
        exact h.same hsame
      · simp [Feed.news, hsame.phase, Watched.changedSince]
    | @enter phase hnext hphase hopened hretries =>
      refine ⟨[phase], h.concat hnext hphase hopened hretries, ?_⟩
      simp [Feed.news, hphase, Watched.changedSince, Watched.put]
  induction gs generalizing f path with
  | nil =>
    obtain ⟨phases, htally, hnews⟩ := hstep [] h (List.isChain_pair.mp hchain)
    rw [List.nil_append, hnews]
    simpa [Feed.news] using htally
  | cons next gs ih =>
    rw [List.cons_append] at hchain ⊢
    obtain ⟨hadvances, hrest⟩ := List.isChain_cons_cons.mp hchain
    obtain ⟨phases, htally, hnews⟩ := hstep (gs ++ [g]) h hadvances
    rw [hnews, ← List.append_assoc]
    exact ih htally hrest

end Feed

namespace Session

variable {s t : Session} {p : Precedence} {loader : Loader} {link : Link}

/-- All phases that views are told of during a run, in order. -/
def published (s : Session) : List Action → List Phase
  | [] => []
  | a :: as => s.feed.news (s.sights a) ++ (s.perform a).published as

theorem tally_play {path : List Phase} (hshown : Shown s) (h : s.feed.Tally path)
    (as : List Action) : (s.play as).feed.Tally (path ++ s.published as) := by
  induction as generalizing s path with
  | nil =>
    rw [published, List.append_nil]
    exact h
  | cons a as ih =>
    have hfirst : (s.perform a).feed.Tally (path ++ s.feed.news (s.sights a)) :=
      h.news (isChain_sights hshown a)
    rw [published, ← List.append_assoc]
    exact ih (perform_shown hshown a) hfirst

/-! ## Eligibility in runs -/

theorem visibility_dropConnection (s : Session) : s.dropConnection.visibility = s.visibility := by
  unfold dropConnection
  split <;> rfl

theorem visibility_endAttempt (s : Session) (loader : Loader) (ending : Ending) :
    (s.endAttempt loader ending).visibility = s.visibility := by
  cases ending <;> exact visibility_dropConnection s

theorem LoaderWork.visibility (hwork : LoaderWork s link loader t) :
    t.visibility = s.visibility := by
  cases hwork <;> rfl

theorem LinkWork.visibility (hwork : LinkWork s loader link t) : t.visibility = s.visibility := by
  cases hwork with
  | connect =>
    unfold openStream
    dsimp only
    split
    next => exact visibility_endAttempt _ _ _
    next => rfl
  | read =>
    unfold applyChunk
    split <;> rfl
  | reject | breakOff | close => exact visibility_endAttempt _ _ _
  | release => exact visibility_dropConnection s
  | accept | wake | rearm => rfl

/-- What the synchronizer does leaves its view alone. -/
theorem perform_current (h : s.visibility.Current) (a : Action) :
    (s.perform a).visibility.Current := by
  cases a with
  | load =>
    rcases s.perform_load_cases with hsame | ⟨loader, link, -, hwork⟩
    · exact hsame.symm ▸ h
    · exact hwork.visibility ▸ h
  | link p =>
    rcases s.perform_link_cases p with hsame | ⟨loader, link, -, hwork⟩
    · exact hsame.symm ▸ h
    · exact hwork.visibility ▸ h
  | start =>
    rcases s.perform_start_cases with hsame | ⟨-, hstarted⟩
    · exact hsame.symm ▸ h
    · exact hstarted ▸ h
  | stop =>
    show s.dropConnection.visibility.Current
    exact (visibility_dropConnection s).symm ▸ h
  | signal signal =>
    show (s.signal signal).visibility.Current
    unfold Session.signal
    split
    next => exact Visibility.current_receive _ signal
    next => exact h
  | dropHost | draw | serve | pass | schedule => exact h

theorem play_current (h : s.visibility.Current) (as : List Action) :
    (s.play as).visibility.Current := by
  induction as generalizing s with
  | nil => exact h
  | cons a as ih => exact ih (perform_current h a)

/-! ## Requests -/

/-- **The stream is asked for only while a connection may be held.** -/
theorem isEligible_of_request {a : Action}
    (h : (s.perform a).script.attempts.length ≠ s.script.attempts.length) :
    s.isEligible = true := by
  rcases s.perform_cases a with ⟨p, rfl⟩ | rfl | ⟨haside, -⟩
  · rcases s.perform_link_cases p with hsame | ⟨loader, link, -, hwork⟩
    · exact absurd (by rw [hsame]) h
    · generalize s.perform (.link p) = t at h hwork
      cases hwork with
      | connect heligible => exact heligible
      | reject | breakOff | close => exact absurd (length_attempts_endAttempt _ _ _) h
      | read =>
        refine absurd ?_ h
        unfold applyChunk
        split <;> rfl
      | release =>
        refine absurd ?_ h
        show (List.modify _ _ _).length = _
        rw [List.length_modify, attempts_dropConnection]
      | accept | wake | rearm => exact absurd rfl h
  · exact absurd (length_attempts_stop s) h
  · exact absurd (congrArg List.length haside.attempts) h

/-- Where an attempt is under way that may not be, there is work to do. -/
theorem isActive_of_step? (hlost : s.isEligible = false) (h : s.step? p = none) :
    s.task.isActive = false := by
  by_contra hactive
  cases htask : s.task with
  | unstarted | ended => exact hactive (by rw [htask]; rfl)
  | running loader link =>
    have hready : (s.linkStep? p loader link).isSome = true := by
      cases link with
      | opening | reading => cases p <;> simp [linkStep?, Precedence.pick, hlost]
      | parked | resting | released => exact absurd (by rw [htask]; rfl) hactive
    have hidle : s.linkStep? p loader link = none := by
      unfold step? at h
      rw [htask] at h
      dsimp only at h
      split at h <;> simp at h
      · exact h.1
      · exact h.2
    rw [hidle] at hready
    cases hready

/-! ## While nothing may be asked for -/

/-- A turn of the link may wake it or bring it back, and that is all. -/
theorem perform_link_of_ineligible (hactive : s.task.isActive = false)
    (hlost : s.isEligible = false) (p : Precedence) :
    (s.perform (.link p)).feed = s.feed ∧ (s.perform (.link p)).script = s.script
      ∧ (s.perform (.link p)).task.isActive = false := by
  rcases s.perform_link_cases p with hsame | ⟨loader, link, htask, hwork⟩
  · rw [hsame]
    exact ⟨rfl, rfl, hactive⟩
  · rw [htask] at hactive
    generalize s.perform (.link p) = t at hwork
    cases hwork with
    | connect heligible => rw [hlost] at heligible; cases heligible
    | wake | rearm => exact ⟨rfl, rfl, rfl⟩
    | release h hlink => cases hactive.symm.trans hlink
    | accept | reject | read | breakOff | close => cases hactive

theorem perform_of_ineligible (hactive : s.task.isActive = false) (hlost : s.isEligible = false)
    (a : Action) :
    (s.perform a).task.isActive = false
      ∧ (s.perform a).script.attempts.length = s.script.attempts.length
      ∧ (a ≠ .stop → (s.perform a).feed.phase = s.feed.phase) := by
  rcases s.perform_cases a with ⟨p, rfl⟩ | rfl | ⟨haside, -⟩
  · obtain ⟨hfeed, hscript, hstill⟩ := perform_link_of_ineligible hactive hlost p
    exact ⟨hstill, by rw [hscript], fun _ => by rw [hfeed]⟩
  · exact ⟨rfl, length_attempts_stop s, fun h => absurd rfl h⟩
  · exact ⟨haside.active.trans hactive, by rw [haside.attempts], fun _ => haside.connection.phase⟩

/-- **All is quiet for as long as a connection may not be held.** -/
theorem play_of_ineligible (hactive : s.task.isActive = false) {bs : List Action}
    (hlost : ∀ i < bs.length, (s.play (bs.take i)).isEligible = false) :
    (s.play bs).script.attempts.length = s.script.attempts.length
      ∧ (.stop ∉ bs → (s.play bs).feed.phase = s.feed.phase) := by
  induction bs generalizing s with
  | nil => exact ⟨rfl, fun _ => rfl⟩
  | cons b bs ih =>
    have hnow : s.isEligible = false := hlost 0 (Nat.zero_lt_succ _)
    obtain ⟨hstill, hfirst, hphase⟩ := perform_of_ineligible hactive hnow b
    obtain ⟨hrest, hlater⟩ := ih hstill fun i hi => hlost (i + 1) (Nat.succ_lt_succ hi)
    refine ⟨hrest.trans hfirst, fun hstop => ?_⟩
    rw [List.mem_cons, not_or] at hstop
    exact (hlater hstop.2).trans (hphase (Ne.symm hstop.1))

/-- **The path of the phases**, whatever views, host, server and scheduler do. Every request is made
while a connection may be held. When none may be held and there is nothing left to do, no attempt is
live and none is shown. The phases that views were told of are a path of possible steps from `idle`,
the present phase is its last one and its length the number of changes; the counters count two of
the phases on it. And a delay that is over while no connection may be held is over without anything
to be seen: the phase stays `backingOff`, and nothing is asked for, until that changes. -/
theorem path_of_play {config : Config} {visible focused : Bool} {earlier : List Signal}
    (hnew : new config (earlier.foldl Visibility.receive (.new visible focused)) = .ok s)
    (as : List Action) :
    let t := s.play as
    let path := s.published as
    (∀ a, (t.perform a).script.attempts.length ≠ t.script.attempts.length →
        t.visibility.isEligible = true)
      ∧ (t.visibility.isEligible = false → ∀ p, t.step? p = none →
        t.feed.phase.value ∉ [.connecting, .streaming]
          ∧ ∀ a ∈ t.script.attempts, a.isCancelled = true)
      ∧ ((.idle :: path).IsChain (fun phase next => next ∈ phase.successors)
        ∧ t.feed.phase = ⟨path.getLastD .idle, path.length⟩)
      ∧ (t.feed.stats.connectionsOpened = path.count .streaming
        ∧ t.feed.stats.reconnectsScheduled = path.count .backingOff)
      ∧ (∀ due, t.task.resting? = some due → due ≤ t.clock → t.visibility.isEligible = false →
        ∀ p, (t.perform (.link p)).task.resting? = none
          ∧ (t.perform (.link p)).feed = t.feed ∧ t.feed.phase.value = .backingOff
          ∧ (t.perform (.link p)).script = t.script)
      ∧ ∀ bs, t.feed.phase.value = .backingOff →
        (∀ i < bs.length, (t.play (bs.take i)).visibility.isEligible = false) →
        (t.play bs).script.attempts.length = t.script.attempts.length
          ∧ (.stop ∉ bs → (t.play bs).feed.phase = t.feed.phase) := by
  intro t path
  have hwired : Wired t := play_wired (wired_of_new hnew) as
  have hshown : Shown t := play_shown (shown_of_new hnew) as
  have hphase : t.feed.phase.value.isActive = t.task.isActive := Task.isActive_of_mem_phases hshown
  have hinitial : s.visibility.Current ∧ s.feed.Tally [] := by
    obtain ⟨-, rfl⟩ := new_eq_ok_iff.mp hnew
    exact ⟨Visibility.current_foldl_receive (Visibility.current_new _ _) earlier,
      Feed.tally_new config⟩
  have htally : t.feed.Tally path := tally_play (shown_of_new hnew) hinitial.2 as
  -- what the link looks at is what the signals come to
  have hcurrent : ∀ bs, (t.play bs).isEligible = (t.play bs).visibility.isEligible :=
    fun bs => play_current (play_current hinitial.1 as) bs
  have hlost : t.visibility.isEligible = false → t.isEligible = false := (hcurrent []).trans
  refine ⟨?_, ?_, ⟨htally.legal, htally.phase⟩, ⟨htally.opened, htally.retries⟩, ?_, ?_⟩
  · intro a hrequest
    exact (hcurrent []).symm.trans (isEligible_of_request hrequest)
  · intro hineligible p hnone
    have hidle : t.task.isActive = false := isActive_of_step? (hlost hineligible) hnone
    refine ⟨?_, hwired.cancelled hidle⟩
    rcases Phase.isActive_eq_false_iff.mp (hphase.trans hidle) with h | h | h <;> simp [h]
  · intro due hresting hdue hineligible p
    obtain ⟨loader, htask⟩ := exists_task_of_resting? hresting
    have hidle : t.task.isActive = false := by
      rw [htask]
      rfl
    have hbackingOff : t.feed.phase.value = .backingOff := by
      rw [Shown, htask] at hshown
      exact List.mem_singleton.mp hshown
    obtain ⟨hfeed, hscript, -⟩ := perform_link_of_ineligible hidle (hlost hineligible) p
    exact ⟨resting?_wake hresting hdue p, hfeed, hbackingOff, hscript⟩
  · intro bs hbackingOff hineligible
    have hidle : t.task.isActive = false := by
      rw [← hphase, hbackingOff]
      rfl
    exact play_of_ineligible hidle fun i hi => (hcurrent _).trans (hineligible i hi)

/-- The first connection ends, the delay after it is over while the view has lost its focus, and the
request that is made when the focus is back fails at once: two phases are entered in one action. -/
theorem path_of_smallRetry :
    let v := [Signal.blur, .focus].foldl Visibility.receive (.new true true)
    let s := initial smallConfig v
    let early := smallOpening ++ [.serve (.close 0), .link .signals, .signal .blur, .pass 1000]
    let late := [.link .signals, .serve (.prepare (.read "reset")), .signal .focus,
      .link .signals]
    let t := s.play early
    new smallConfig v = .ok s
      ∧ s.published early = [.connecting, .streaming, .backingOff]
      ∧ (t.task.resting? = some 1000 ∧ 1000 ≤ t.clock ∧ t.visibility.isEligible = false)
      ∧ (t.perform (.link .signals)).feed = t.feed
      ∧ s.published (early ++ late)
        = [.connecting, .streaming, .backingOff, .connecting, .backingOff]
      ∧ (t.play late).feed.stats.reconnectsScheduled = 2 := by
  intro v s early late t
  have hnew : new smallConfig v = .ok s := new_eq_ok_iff.mpr ⟨rfl, rfl⟩
  obtain ⟨-, -, -, -, htimer, -⟩ := path_of_play hnew early
  obtain ⟨-, -, -, ⟨-, hretries⟩, -, -⟩ := path_of_play hnew (early ++ late)
  have hdue : t.task.resting? = some 1000 ∧ 1000 ≤ t.clock ∧ t.visibility.isEligible = false := by
    decide +kernel
  have hpath : s.published (early ++ late)
      = [.connecting, .streaming, .backingOff, .connecting, .backingOff] := by
    decide +kernel
  have hfeed := (htimer 1000 hdue.1 hdue.2.1 hdue.2.2 .signals).2.1
  rw [hpath, play_append] at hretries
  exact ⟨hnew, by decide +kernel, hdue, hfeed, hpath, hretries⟩

end Session

end ActivityFeed
