import ActivityFeed.Proofs.Retry.Delay
import ActivityFeed.Proofs.Sync.Attempts

/-!
# When the next attempt is made

What happens on the connections leaves a mark on the retry delays in two cases only: an attempt that
fails, is rejected or comes to its end is a `setback`, and octets that arrive are a sign of `life`.
`mark?` says which of the two an action is by what the server has laid out, and not by what the
synchronizer makes of it.

The synchronizer follows the marks (`follows_perform`). A setback, and nothing else, puts the link
to sleep, and a count of setbacks since the last sign of life is kept from one attempt to the next,
whatever else ends an attempt or begins one (`Counts`). A link that sleeps asks for nothing and is
woken by nothing but the clock (`SleepsThrough`).

Main result: `retries_of_play`.
-/

namespace ActivityFeed

/-- The time until which the link sleeps. -/
def Task.resting? : Task → Option Nat
  | .running _ (.resting due) => some due
  | _ => none

namespace Session

variable {s s' t : Session} {p : Precedence} {a : Action} {due : Nat} {loader : Loader}
  {link : Link}

/-! ## Marks -/

/-- What the retry delays depend on. -/
inductive Mark where
  /-- An attempt has failed, been rejected or come to its end. -/
  | setback
  /-- Octets have arrived. -/
  | life
deriving DecidableEq, Repr, Inhabited

/-- How many setbacks there have been since the last sign of life. -/
def Mark.streak (marks : List Mark) : Nat :=
  (marks.reverse.takeWhile (· = .setback)).length

/-- An attempt that the server cancelled counts for nothing. -/
def Ending.mark? : Ending → Option Mark
  | .aborted => none
  | .closed => some .setback
  | .failed _ => some .setback

/-- What an action is to the retry delays. -/
def mark? (s : Session) : Action → Option Mark
  | .link p =>
    match s.task with
    | .running _ .parked =>
      if s.isEligible then
        match s.script.prepared with
        | cause :: _ => (Ending.ofFailure cause).mark?
        | [] => none
      else none
    | .running _ .opening =>
      if s.isEligible || p = .stream then
        match s.script.answers with
        | .reject .. :: _ => some .setback
        | _ => none
      else none
    | .running _ (.reading n _) =>
      if s.takes n (.link p) then
        match s.script.connections[n]?.map Connection.unread with
        | some [] => some .setback
        | some (.failure cause :: _) => (Ending.ofFailure cause).mark?
        | some (.chunk octets :: _) => if octets.isEmpty then none else some .life
        | none => none
      else none
    | _ => none
  | _ => none

/-- The marks of a run, in order. -/
def marks (s : Session) : List Action → List Mark
  | [] => []
  | a :: as => (s.mark? a).toList ++ (s.perform a).marks as

/-! ## Actions that give the link no turn -/

/-- Whatever has happened, the link had no part in it. -/
structure Aside (s s' : Session) : Prop where
  clock : s.clock ≤ s'.clock
  resting : s'.task.resting? = s.task.resting?
  active : s'.task.isActive = s.task.isActive
  ended : s.task = .ended → s'.task = .ended
  backoff : s'.backoff = s.backoff
  connection : Feed.SameConnection s.feed s'.feed
  attempts : s'.script.attempts = s.script.attempts

theorem aside_of_task (hclock : s.clock ≤ s'.clock) (htask : s'.task = s.task)
    (hbackoff : s'.backoff = s.backoff) (hfeed : s'.feed = s.feed)
    (hattempts : s'.script.attempts = s.script.attempts) : Aside s s' where
  clock := hclock
  resting := by rw [htask]
  active := by rw [htask]
  ended h := htask.trans h
  backoff := hbackoff
  connection := hfeed ▸ ⟨rfl, rfl, rfl⟩
  attempts := hattempts

theorem LoaderWork.aside (hwork : LoaderWork s link loader s')
    (htask : s.task = .running loader link) : Aside s s' := by
  obtain ⟨loader', htask'⟩ : ∃ loader', s'.task = .running loader' link := by
    cases hwork <;> exact ⟨_, rfl⟩
  refine {
    clock := hwork.clock.ge
    resting := ?_
    active := (hwork.stays htask).active
    ended := fun hended => by cases htask.symm.trans hended
    backoff := ?_
    connection := ?_
    attempts := (hwork.stays htask).attempts }
  · rw [htask, htask']
    cases link <;> rfl
  · cases hwork <;> rfl
  · cases hwork with
    | request => exact ⟨rfl, rfl, rfl⟩
    | load | answer => exact Feed.sameConnection_loadSnapshot _ _

/-- An action gives the link a turn, tears the synchronizer down, or leaves the link alone. -/
theorem perform_cases (s : Session) (a : Action) :
    (∃ p, a = .link p) ∨ a = .stop ∨ Aside s (s.perform a) ∧ s.mark? a = none := by
  -- what is neither the link's turn nor the stop leaves the link where it is
  cases a with
  | link p => exact Or.inl ⟨p, rfl⟩
  | stop => exact Or.inr (Or.inl rfl)
  | load =>
    refine Or.inr (Or.inr ⟨?_, rfl⟩)
    rcases s.perform_load_cases with hsame | ⟨loader, link, htask, hwork⟩
    · rw [hsame]
      exact aside_of_task (Nat.le_refl _) rfl rfl rfl rfl
    · exact hwork.aside htask
  | start =>
    refine Or.inr (Or.inr ⟨?_, rfl⟩)
    rcases s.perform_start_cases with hsame | ⟨htask, hstarted⟩
    · rw [hsame]
      exact aside_of_task (Nat.le_refl _) rfl rfl rfl rfl
    · have hrunning : s.task ≠ .ended := by
        rw [htask]
        nofun
      rw [hstarted]
      exact ⟨Nat.le_refl _, by rw [htask]; rfl, by rw [htask]; rfl, fun h => absurd h hrunning,
        rfl, ⟨rfl, rfl, rfl⟩, rfl⟩
  | signal signal =>
    refine Or.inr (Or.inr ⟨?_, rfl⟩)
    show Aside s (s.signal signal)
    unfold Session.signal
    split <;> exact aside_of_task (Nat.le_refl _) rfl rfl rfl rfl
  | serve order =>
    have hattempts : (s.perform (.serve order)).script.attempts = s.script.attempts :=
      attempts_perform (fun _ => nofun) nofun
    exact Or.inr (Or.inr ⟨aside_of_task (Nat.le_refl _) rfl rfl rfl hattempts, rfl⟩)
  | pass millis =>
    exact Or.inr (Or.inr ⟨aside_of_task (Nat.le_add_right _ _) rfl rfl rfl rfl, rfl⟩)
  | dropHost | draw | schedule =>
    exact Or.inr (Or.inr ⟨aside_of_task (Nat.le_refl _) rfl rfl rfl rfl, rfl⟩)

/-! ## What marks do -/

/-- The link falls asleep, for the delay that is next. -/
structure FallsAsleep (s s' : Session) : Prop where
  awake : s.task.resting? = none
  asleep : s'.task.resting? = some (s.clock + s.delay.ceilMillis)
  backoff : s'.backoff = s.backoff.next.2
  counted : s'.feed.stats.reconnectsScheduled = s.feed.stats.reconnectsScheduled + 1

/-- The link does not fall asleep. -/
structure StaysAwake (s s' : Session) : Prop where
  asleep : ∀ due, s'.task.resting? = some due → s.task.resting? = some due
  counted : s'.feed.stats.reconnectsScheduled = s.feed.stats.reconnectsScheduled

/-- What a mark makes of a session. -/
def Follows (s s' : Session) : Option Mark → Prop
  | some .setback => FallsAsleep s s'
  | some .life => StaysAwake s s' ∧ s'.backoff = s.backoff.reset
  | none => StaysAwake s s' ∧ s'.backoff = s.backoff

/-- Whatever has happened, it concerns neither sleep nor delays. -/
theorem follows_none (hasleep : ∀ due, s'.task.resting? = some due → s.task.resting? = some due)
    (hbackoff : s'.backoff = s.backoff)
    (hcounted : s'.feed.stats.reconnectsScheduled = s.feed.stats.reconnectsScheduled) :
    Follows s s' none :=
  ⟨⟨hasleep, hcounted⟩, hbackoff⟩

theorem Follows.refl (s : Session) : Follows s s none :=
  follows_none (fun _ => id) rfl rfl

theorem fallsAsleep_rest (hawake : s.task.resting? = none) (hclock : t.clock = s.clock)
    (hbackoff : t.backoff = s.backoff) (hdrawn : t.drawn = s.drawn)
    (hfeed : t.feed.stats.reconnectsScheduled = s.feed.stats.reconnectsScheduled)
    (loader : Loader) : FallsAsleep s (t.rest loader) where
  awake := hawake
  asleep := by
    rw [delay, ← hclock, ← hbackoff, ← hdrawn]
    rfl
  backoff := by
    rw [← hbackoff]
    rfl
  counted := by
    show (Feed.noteRetry t.feed).stats.reconnectsScheduled = _
    rw [Feed.noteRetry, Feed.stats_enter, ← hfeed]

/-- An attempt that ends leaves the mark of its end, whatever has happened to the script before. -/
theorem follows_endAttempt (hawake : s.task.resting? = none) (hclock : t.clock = s.clock)
    (hbackoff : t.backoff = s.backoff) (hdrawn : t.drawn = s.drawn)
    (hfeed : t.feed.stats = s.feed.stats) (loader : Loader) (ending : Ending) :
    Follows s (t.endAttempt loader ending) ending.mark? := by
  rw [← clock_dropConnection] at hclock
  rw [← backoff_dropConnection] at hbackoff
  rw [← drawn_dropConnection] at hdrawn
  rw [← feed_dropConnection] at hfeed
  have hcounted := congrArg Stats.reconnectsScheduled hfeed
  cases ending with
  | aborted =>
    refine follows_none (fun _ h => by cases h) hbackoff ?_
    show (Feed.enter _ _).stats.reconnectsScheduled = _
    rw [Feed.stats_enter]
    exact hcounted
  | closed | failed =>
    show FallsAsleep s (rest _ loader)
    apply fallsAsleep_rest hawake
    · exact hclock
    · exact hbackoff
    · exact hdrawn
    · exact hcounted

theorem follows_release (s : Session) (loader : Loader) : Follows s (s.release loader) none := by
  refine follows_none (fun _ h => by cases h) (backoff_dropConnection s) ?_
  show (Feed.enter _ _).stats.reconnectsScheduled = _
  rw [Feed.stats_enter, feed_dropConnection]

/-! ## One action -/

theorem follows_parked (htask : s.task = .running loader .parked) (p : Precedence) :
    Follows s (s.perform (.link p)) (s.mark? (.link p)) := by
  have hawake : s.task.resting? = none := by
    rw [htask]
    rfl
  rw [perform_link htask, linkStep?, mark?, htask]
  dsimp only
  by_cases heligible : s.isEligible = true
  · rw [if_pos heligible, if_pos heligible, Option.getD_some, openStream]
    dsimp only
    cases hprepared : s.script.prepared with
    | nil =>
      refine follows_none (fun _ h => by cases h) rfl ?_
      dsimp only
      rw [Feed.stats_enter]
    | cons cause prepared =>
      apply follows_endAttempt hawake
      · rfl
      · rfl
      · rfl
      · exact Feed.stats_enter _ _
  · rw [if_neg heligible, if_neg heligible]
    exact .refl s

/-- While a request is out, a turn takes the answer if it gets to it, and gives the attempt up if
eligibility is lost. -/
theorem perform_link_of_opening (htask : s.task = .running loader .opening) :
    s.perform (.link p)
      = if s.isEligible || p = .stream then
          (s.takeAnswer? loader).getD (if s.isEligible then s else s.release loader)
        else s.release loader := by
  rw [perform_link htask, linkStep?]
  cases s.isEligible <;> cases p <;> cases s.takeAnswer? loader <;> rfl

theorem follows_opening (htask : s.task = .running loader .opening) (p : Precedence) :
    Follows s (s.perform (.link p)) (s.mark? (.link p)) := by
  have hawake : s.task.resting? = none := by
    rw [htask]
    rfl
  rw [perform_link_of_opening htask, mark?, htask]
  dsimp only
  split
  next =>
    -- by what the server has answered, if it has
    cases hanswers : s.script.answers with
    | nil =>
      have hnone : s.takeAnswer? loader = none := by simp only [takeAnswer?, hanswers]
      rw [hnone, Option.getD_none]
      split
      next => exact .refl s
      next => exact follows_release s loader
    | cons answer answers =>
      cases answer with
      | accept connection =>
        have htaken : s.takeAnswer? loader = some
            { s with
              script := { s.script with answers }
              feed := s.feed.noteOpened
              task := .running loader (.reading connection .fresh) } := by
          simp only [takeAnswer?, hanswers]
        rw [htaken, Option.getD_some]
        refine follows_none (fun _ h => by cases h) rfl ?_
        show (Feed.noteOpened _).stats.reconnectsScheduled = _
        rw [Feed.noteOpened, Feed.stats_enter]
      | reject message status =>
        have htaken : s.takeAnswer? loader = some
            (endAttempt { s with script := { s.script with answers } } loader
              (.failed (.connect message status true))) := by
          simp only [takeAnswer?, hanswers]
        rw [htaken, Option.getD_some]
        show Follows s _ (Ending.failed (.connect message status true)).mark?
        apply follows_endAttempt hawake <;> rfl
  next => exact follows_release s loader

theorem follows_applyChunk (s : Session) (loader : Loader) (n : Nat) (decoder : Decoder)
    (unread : List Delivery) (octets : List UInt8) :
    Follows s ((s.consume n unread).applyChunk loader n decoder octets)
      (if octets.isEmpty then none else some .life) := by
  unfold applyChunk
  split
  next => exact follows_none (fun _ => id) rfl rfl
  next =>
    have hcounted := (s.feed.sameConnection_applyChunk octets (decoder.push octets).1).retries
    exact ⟨⟨fun _ h => (by cases h), hcounted⟩, rfl⟩

theorem follows_reading {n : Nat} {decoder : Decoder}
    (htask : s.task = .running loader (.reading n decoder)) (p : Precedence) :
    Follows s (s.perform (.link p)) (s.mark? (.link p)) := by
  have hawake : s.task.resting? = none := by
    rw [htask]
    rfl
  cases htakes : s.takes n (.link p) with
  | false =>
    rw [perform_link_of_not_takes htask htakes, mark?, htask]
    dsimp only
    rw [htakes]
    show Follows s (if s.isEligible then s else s.release loader) none
    split
    next => exact .refl s
    next => exact follows_release s loader
  | true =>
    obtain ⟨c, hc⟩ := exists_connection_of_takes htakes
    rw [mark?, htask]
    dsimp only
    rw [htakes, if_pos rfl, hc, Option.map_some]
    cases hunread : c.unread with
    | nil =>
      rw [perform_link_of_end htask htakes hc hunread]
      exact follows_endAttempt hawake rfl rfl rfl rfl loader .closed
    | cons d unread =>
      rw [perform_link_of_unread htask htakes hc hunread]
      cases d with
      | chunk octets => exact follows_applyChunk s loader n decoder unread octets
      | failure cause =>
        show Follows s (endAttempt _ loader _) (Ending.ofFailure cause).mark?
        apply follows_endAttempt hawake <;> rfl

theorem follows_link (s : Session) (p : Precedence) :
    Follows s (s.perform (.link p)) (s.mark? (.link p)) := by
  cases htask : s.task with
  | unstarted | ended =>
    simp only [perform, mark?, htask]
    exact .refl s
  | running loader link =>
    cases link with
    | parked => exact follows_parked htask p
    | opening => exact follows_opening htask p
    | reading n decoder => exact follows_reading htask p
    | resting due =>
      rw [perform_link htask, linkStep?, mark?, htask]
      dsimp only
      split
      next => exact follows_none (fun _ h => by cases h) rfl rfl
      next => exact .refl s
    | released =>
      rw [perform_link htask, linkStep?, mark?, htask]
      dsimp only
      split
      next => exact .refl s
      next => exact follows_none (fun _ h => by cases h) rfl rfl

theorem follows_stop (s : Session) : Follows s s.stop none := by
  refine follows_none (fun _ h => by cases h) (backoff_dropConnection s) ?_
  show (Feed.enter _ _).stats.reconnectsScheduled = _
  rw [Feed.stats_enter, feed_dropConnection]

/-- **Sleep and delays follow the marks.** -/
theorem follows_perform (s : Session) (a : Action) : Follows s (s.perform a) (s.mark? a) := by
  rcases s.perform_cases a with ⟨p, rfl⟩ | rfl | ⟨haside, hmark⟩
  · exact follows_link s p
  · exact follows_stop s
  · rw [hmark]
    exact follows_none (fun _ h => haside.resting ▸ h) haside.backoff haside.connection.retries

theorem exists_task_of_resting? (h : s.task.resting? = some due) :
    ∃ loader, s.task = .running loader (.resting due) := by
  unfold Task.resting? at h
  split at h
  next loader due' htask =>
    cases h
    exact ⟨loader, htask⟩
  next => cases h

/-- A link that sleeps slept before, or there was a setback. -/
theorem resting?_or_setback (h : (s.perform a).task.resting? = some due) :
    s.task.resting? = some due ∨ s.mark? a = some .setback := by
  have hfollows := follows_perform s a
  cases hmark : s.mark? a with
  | none =>
    rw [hmark] at hfollows
    exact Or.inl (hfollows.1.asleep due h)
  | some mark =>
    cases mark with
    | setback => exact Or.inr rfl
    | life =>
      rw [hmark] at hfollows
      exact Or.inl (hfollows.1.asleep due h)

/-- The other ways for an attempt to be over. -/
inductive GivenUp (s s' : Session) : Prop
  | ineligible (h : s.isEligible = false) (htask : ∃ loader, s'.task = .running loader .parked)
  /-- The server has cancelled it. -/
  | aborted (h : ∃ loader, s'.task = .running loader .released)
  | stopped (h : s'.task = .ended)

/-- An attempt that ends sleeps afterwards, unless the server has cancelled it. -/
theorem resting?_endAttempt (s : Session) (loader : Loader) (ending : Ending) :
    (∃ due, (s.endAttempt loader ending).task.resting? = some due)
      ∨ (s.endAttempt loader ending).task = .running loader .released := by
  cases ending with
  | aborted => exact Or.inr rfl
  | closed => exact Or.inl ⟨_, rfl⟩
  | failed cause => exact Or.inl ⟨_, rfl⟩

theorem LinkWork.resting?_or_givenUp (hwork : LinkWork s loader link s')
    (htask : s.task = .running loader link) (hactive : link.isActive = true)
    (hover : s'.task.isActive = false) :
    (∃ due, s'.task.resting? = some due) ∨ GivenUp s s' := by
  have hends : ∀ (t : Session) (ending : Ending), s' = t.endAttempt loader ending →
      (∃ due, s'.task.resting? = some due) ∨ GivenUp s s' := by
    rintro t ending rfl
    exact (resting?_endAttempt t loader ending).imp_right fun h => .aborted ⟨loader, h⟩
  cases hwork with
  | reject => exact hends _ _ rfl
  | breakOff => exact hends _ _ rfl
  | close => exact hends _ _ rfl
  | release h => exact Or.inr (.ineligible h ⟨loader, rfl⟩)
  | accept => cases hover
  | @read n decoder c octets unread =>
    rw [(stays_applyChunk (s.consume n unread) htask octets).active] at hover
    have hreads : s.task.isActive = false := hover
    rw [htask] at hreads
    cases hreads
  | connect | wake | rearm => cases hactive

/-- An attempt ends by a setback if it is not given up. -/
theorem mark?_of_over (hactive : s.task.isActive = true)
    (hover : (s.perform a).task.isActive = false) :
    s.mark? a = some .setback ∨ GivenUp s (s.perform a) := by
  rcases s.perform_cases a with ⟨p, rfl⟩ | rfl | ⟨haside, -⟩
  · rcases s.perform_link_cases p with hsame | ⟨loader, link, htask, hwork⟩
    · rw [hsame, hactive] at hover
      cases hover
    · rw [htask] at hactive
      rcases hwork.resting?_or_givenUp htask hactive hover with ⟨due, hasleep⟩ | hgiven
      -- a link with an attempt under way does not sleep, so it has just fallen asleep
      · refine Or.inl ((resting?_or_setback hasleep).resolve_left fun hslept => ?_)
        obtain ⟨loader', hresting⟩ := exists_task_of_resting? hslept
        cases htask.symm.trans hresting
        cases hactive
      · exact Or.inr hgiven
  · exact Or.inr (.stopped rfl)
  · rw [haside.active, hactive] at hover
    cases hover

/-! ## Counting setbacks -/

theorem streak_setback (marks : List Mark) :
    Mark.streak (marks ++ [.setback]) = Mark.streak marks + 1 := by
  rw [Mark.streak, List.reverse_concat, List.takeWhile_cons_of_pos (by simp), List.length_cons]
  rfl

theorem streak_life (marks : List Mark) : Mark.streak (marks ++ [.life]) = 0 := by
  rw [Mark.streak, List.reverse_concat, List.takeWhile_cons_of_neg (by simp), List.length_nil]

/-- The synchronizer keeps count of the setbacks: of all of them, and of those in a row. -/
structure Counts (config : Config) (marks : List Mark) (s : Session) : Prop where
  backoff : s.backoff = ⟨config.retry, min (Mark.streak marks) Backoff.maxFailures⟩
  retries : s.feed.stats.reconnectsScheduled = marks.count .setback

variable {config : Config} {earlier : List Mark}

theorem Counts.perform (h : Counts config earlier s) (a : Action) :
    Counts config (earlier ++ (s.mark? a).toList) (s.perform a) := by
  have hfollows := follows_perform s a
  cases hmark : s.mark? a with
  | none =>
    rw [hmark] at hfollows
    obtain ⟨hawake, hbackoff⟩ := hfollows
    rw [Option.toList_none, List.append_nil]
    exact ⟨hbackoff.trans h.backoff, hawake.counted.trans h.retries⟩
  | some mark =>
    rw [hmark] at hfollows
    rw [Option.toList_some]
    cases mark with
    | life =>
      obtain ⟨hawake, hbackoff⟩ := hfollows
      refine ⟨?_, ?_⟩
      · rw [hbackoff, Backoff.reset, h.backoff, streak_life, Nat.zero_min]
      · rw [hawake.counted, h.retries, List.count_append]
        rfl
    | setback =>
      have hasleep : FallsAsleep s (s.perform a) := hfollows
      refine ⟨?_, ?_⟩
      · rw [hasleep.backoff, Backoff.next, h.backoff, streak_setback]
        -- the cap may be put on before counting on or after it
        have hcount : min (min (Mark.streak earlier) Backoff.maxFailures + 1) Backoff.maxFailures
            = min (Mark.streak earlier + 1) Backoff.maxFailures := by
          omega
        rw [← hcount]
      · rw [hasleep.counted, h.retries, List.count_append]
        rfl

theorem Counts.play (h : Counts config earlier s) (as : List Action) :
    Counts config (earlier ++ s.marks as) (s.play as) := by
  induction as generalizing s earlier with
  | nil =>
    rw [marks, List.append_nil]
    exact h
  | cons a as ih =>
    rw [marks, ← List.append_assoc]
    exact ih (h.perform a)

theorem counts_of_new {visibility : Visibility} (h : new config visibility = .ok s)
    (as : List Action) : Counts config (s.marks as) (s.play as) := by
  have hinitial : Counts config [] s := by
    obtain ⟨-, rfl⟩ := new_eq_ok_iff.mp h
    exact ⟨rfl, rfl⟩
  exact hinitial.play as

/-! ## Sleep -/

theorem clock_le_perform (s : Session) (a : Action) : s.clock ≤ (s.perform a).clock := by
  rcases s.perform_cases a with ⟨p, rfl⟩ | rfl | ⟨haside, -⟩
  · rcases s.perform_link_cases p with hsame | ⟨loader, link, -, hwork⟩
    · rw [hsame]
    · rw [hwork.clock]
  · exact (clock_dropConnection s).ge
  · exact haside.clock

theorem clock_le_play (s : Session) (as : List Action) : s.clock ≤ (s.play as).clock := by
  induction as generalizing s with
  | nil => exact Nat.le_refl _
  | cons a as ih => exact Nat.le_trans (clock_le_perform s a) (ih _)

/-- The link sleeps until a time, or the synchronizer has been torn down. -/
def SleepsUntil (due : Nat) (s : Session) : Prop :=
  s.task.resting? = some due ∨ s.task = .ended

/-- A link that sleeps finds nothing to do before its time. -/
theorem perform_link_of_sleepsUntil (h : SleepsUntil due s) (hearly : s.clock < due)
    (p : Precedence) : s.perform (.link p) = s := by
  rcases h with hasleep | hended
  · obtain ⟨loader, htask⟩ := exists_task_of_resting? hasleep
    rw [perform_link htask, linkStep?, if_neg (Nat.not_le.mpr hearly), Option.getD_none]
  · simp only [perform, hended]

/-- Nothing but its time and the end of the synchronizer ends the sleep, and no stream is asked for
meanwhile. -/
theorem SleepsUntil.perform (h : SleepsUntil due s) (hearly : s.clock < due) (a : Action) :
    SleepsUntil due (s.perform a)
      ∧ (s.perform a).script.attempts.length = s.script.attempts.length := by
  rcases s.perform_cases a with ⟨p, rfl⟩ | rfl | ⟨haside, -⟩
  · rw [perform_link_of_sleepsUntil h hearly]
    exact ⟨h, rfl⟩
  · exact ⟨Or.inr rfl, length_attempts_stop s⟩
  · rw [haside.attempts]
    exact ⟨h.imp (haside.resting.trans ·) haside.ended, rfl⟩

theorem SleepsUntil.play (h : SleepsUntil due s) (as : List Action)
    (hearly : (s.play as).clock < due) :
    SleepsUntil due (s.play as)
      ∧ (s.play as).script.attempts.length = s.script.attempts.length := by
  induction as generalizing s with
  | nil => exact ⟨h, rfl⟩
  | cons a as ih =>
    have hbefore : s.clock < due := Nat.lt_of_le_of_lt (clock_le_play s (a :: as)) hearly
    obtain ⟨hsleeps, hfirst⟩ := h.perform hbefore a
    obtain ⟨hlast, hlater⟩ := ih hsleeps hearly
    exact ⟨hlast, hlater.trans hfirst⟩

/-- The link sleeps from a time on, for a delay: neither shorter nor longer, and without asking for
a stream. -/
def SleepsThrough (s : Session) (begun : Nat) (delay : Duration) : Prop :=
  ∃ due, s.task.resting? = some due
    ∧ (∀ millis, due ≤ millis
      ↔ begun * Duration.perMilli + delay.nanos ≤ millis * Duration.perMilli)
    ∧ (∀ as, (s.play as).clock < due →
      SleepsUntil due (s.play as)
        ∧ (s.play as).script.attempts.length = s.script.attempts.length)
    ∧ ∀ as, (s.play as).task.resting? = some due → due ≤ (s.play as).clock →
      ∀ p, ((s.play as).perform (.link p)).task.resting? = none

theorem resting?_wake (h : s.task.resting? = some due) (hdue : due ≤ s.clock) (p : Precedence) :
    (s.perform (.link p)).task.resting? = none := by
  obtain ⟨loader, htask⟩ := exists_task_of_resting? h
  rw [perform_link htask, linkStep?, if_pos hdue, Option.getD_some]
  rfl

theorem FallsAsleep.sleepsThrough (h : FallsAsleep s s') : SleepsThrough s' s.clock s.delay :=
  ⟨_, h.asleep, Duration.add_ceilMillis_le_iff _ _,
    fun as hearly => SleepsUntil.play (Or.inl h.asleep) as hearly,
    fun _ hasleep hdue p => resting?_wake hasleep hdue p⟩

theorem fallsAsleep_of_setback (hmark : s.mark? a = some .setback) :
    FallsAsleep s (s.perform a) := by
  have hfollows := follows_perform s a
  rwa [hmark] at hfollows

/-- What chance draws leaves no mark and makes none. -/
theorem mark?_draw (s : Session) (drawn : Duration) (a : Action) :
    (s.draw drawn).mark? a = s.mark? a := by
  cases a <;> rfl

/-- **Jitter is kept within the policy.** A setback puts the link to sleep for a delay that the
policy admits, and it may be any of these, as chance draws. -/
theorem sleepsThrough_of_setback (hmark : s.mark? a = some .setback) :
    (s.backoff.next.1.admits s.delay = true ∧ SleepsThrough (s.perform a) s.clock s.delay)
      ∧ ∀ drawn, s.backoff.next.1.admits drawn = true →
        SleepsThrough ((s.draw drawn).perform a) s.clock drawn := by
  refine ⟨⟨Delay.admits_actual _ _, (fallsAsleep_of_setback hmark).sleepsThrough⟩, ?_⟩
  intro drawn h
  have hasleep := fallsAsleep_of_setback ((mark?_draw s drawn a).trans hmark)
  have hdelay : (s.draw drawn).delay = drawn := Delay.actual_of_admits h
  have hsleeps := hasleep.sleepsThrough
  rw [hdelay] at hsleeps
  exact hsleeps

/-- **The retry schedule**, whatever views, host, server, chance and scheduler do. Let there have
been `k` setbacks since the last sign of life. Then the next sleep can have one length only, that of
the policy for `k` failures but no less than a millisecond. An attempt that fails, is rejected or
comes to its end puts the link to sleep for this long, and no stream is asked for meanwhile; nothing
else puts it to sleep, and the retries that are counted are these. An attempt that is over without
this has been given up, and what leaves no mark leaves the delays as they are. -/
theorem retries_of_play {config : Config} {visibility : Visibility}
    (hnew : new config visibility = .ok s)
    (hjitter : Binary64.le config.retry.jitter (.ofNat 0) = true) (as : List Action) :
    let t := s.play as
    let k := min (Mark.streak (s.marks as)) Backoff.maxFailures
    let delay := ((Backoff.new config.retry).delayAfter k).max (.ofMillis 1)
    (∀ actual, t.backoff.next.1.admits actual = true ↔ actual = delay)
      ∧ t.feed.stats.reconnectsScheduled = (s.marks as).count .setback
      ∧ ∀ a,
        (t.mark? a = some .setback →
          t.task.resting? = none ∧ SleepsThrough (t.perform a) t.clock delay)
        ∧ (∀ due, (t.perform a).task.resting? = some due →
          t.task.resting? = some due ∨ t.mark? a = some .setback)
        ∧ (t.task.isActive = true → (t.perform a).task.isActive = false →
          t.mark? a = some .setback ∨ GivenUp t (t.perform a))
        ∧ (t.mark? a = none → (t.perform a).backoff = t.backoff) := by
  intro t k delay
  have hcounts : Counts config (s.marks as) t := counts_of_new hnew as
  -- the delays are settled by the policy and by what has been counted
  have hbackoff : t.backoff = ⟨config.retry, k⟩ := hcounts.backoff
  have hadmits : ∀ actual, t.backoff.next.1.admits actual = true ↔ actual = delay := by
    rw [hbackoff]
    exact Backoff.admits_next_iff hjitter
  have hdelay : t.delay = delay := (hadmits _).mp (Delay.admits_actual _ _)
  refine ⟨hadmits, hcounts.retries, fun a => ?_⟩
  refine ⟨fun hmark => ?_, fun _ => resting?_or_setback, mark?_of_over, fun hmark => ?_⟩
  · exact ⟨(fallsAsleep_of_setback hmark).awake, hdelay ▸ (sleepsThrough_of_setback hmark).1.2⟩
  · have hfollows := follows_perform t a
    rw [hmark] at hfollows
    exact hfollows.2

/-- The small settings without jitter. -/
def steadyConfig : Config :=
  { smallConfig with retry := { RetryPolicy.standard with jitter := .ofNat 0 } }

theorem new_steadyConfig : new steadyConfig .always = .ok (initial steadyConfig .always) :=
  new_eq_ok_iff.mpr ⟨by decide +kernel, rfl⟩

/-- The first connection ends without having brought anything, and the request after the first sleep
is rejected: the second sleep is twice as long. -/
theorem retries_of_steadyConfig :
    let s := initial steadyConfig .always
    let as := smallOpening ++ [.serve (.close 0), .link .signals, .pass 1000, .link .signals,
      .link .signals, .serve (.reject "busy" (some 503))]
    Binary64.le steadyConfig.retry.jitter (.ofNat 0) = true
      ∧ s.marks as = [.setback]
      ∧ (s.play as).feed.stats.reconnectsScheduled = 1
      ∧ (s.play as).mark? (.link .signals) = some .setback
      ∧ SleepsThrough ((s.play as).perform (.link .signals)) 1000 (.ofSeconds 2) := by
  intro s as
  have hjitter : Binary64.le steadyConfig.retry.jitter (.ofNat 0) = true := by decide +kernel
  obtain ⟨-, hretries, hactions⟩ := retries_of_play new_steadyConfig hjitter as
  have hmarks : s.marks as = [.setback] := by decide +kernel
  have hmark : (s.play as).mark? (.link .signals) = some .setback := by decide +kernel
  have hsleeps := ((hactions (.link .signals)).1 hmark).2
  have hclock : (s.play as).clock = 1000 := by decide +kernel
  have hdelay : ((Backoff.new steadyConfig.retry).delayAfter 1).max (.ofMillis 1)
      = .ofSeconds 2 := by
    decide +kernel
  rw [hclock, hmarks] at hsleeps
  exact ⟨hjitter, hmarks, by rw [hretries, hmarks]; rfl, hmark, hdelay ▸ hsleeps⟩

end Session

end ActivityFeed
