import ActivityFeed.Proofs.Sync.Run

/-!
# Runs as lists of actions

To compare two runs one has to say which choices they share. An `Action` is one choice: which of the
two activities is given a turn, what a view or the host does, which retry delay chance draws, what
the server is told to lay out next, how much time passes. `perform` does it and `play` does several,
so that a run is a list of actions and two runs with the same choices are two lists with the same
actions in them. A turn that finds nothing to do changes nothing.

The server is the scripted one throughout: each connection is laid out as the answer to one request
(`Order.connect`), and what is sent on it can be sent at any time.

A scenario plays actions (`Scenario.exists_play`), so whatever holds for every list of actions holds
for every scenario.
-/

namespace ActivityFeed

/-- What a server is told to lay out. -/
inductive Order where
  /-- Answers the next request that has no answer yet by a new connection. -/
  | connect
  | reject (message : String) (status : Option Nat)
  | prepare (cause : Failure)
  | deliver (connection : Nat) (d : Delivery)
  | close (connection : Nat)
  | snapshot (result : Except Failure Page)
  | delaySnapshot (millis : Nat)

/-- The script after an order. -/
def Script.obey (t : Script) : Order → Script
  | .connect => t.connect
  | .reject message status => t.reject message status
  | .prepare cause => { t with prepared := t.prepared ++ [cause] }
  | .deliver connection d => (t.deliver connection d).2
  | .close connection => t.close connection
  | .snapshot result => { t with snapshot := result }
  | .delaySnapshot millis => { t with snapshotDelay := millis }

namespace Session

/-- One choice of a run. -/
inductive Action where
  /-- The loader is given a turn. -/
  | load
  /-- The link is given a turn. -/
  | link (p : Precedence)
  | start
  /-- The synchronizer is stopped, or given away. -/
  | stop
  | signal (signal : Signal)
  | dropHost
  /-- Chance draws a retry delay, which is in force from then on. -/
  | draw (drawn : Duration)
  | serve (order : Order)
  | pass (millis : Nat)
  /-- What the scheduler remembers of whose turn it is. -/
  | schedule (linkFirst isStirred : Bool)

/-- The session after an action. -/
def perform (s : Session) : Action → Session
  | .load =>
    match s.task with
    | .running loader link => (s.loaderStep? loader link).getD s
    | _ => s
  | .link p =>
    match s.task with
    | .running loader link => (s.linkStep? p loader link).getD s
    | _ => s
  | .start =>
    match s.start with
    | .ok s' => s'
    | .error _ => s
  | .stop => s.stop
  | .signal signal => s.signal signal
  | .dropHost => s.dropHost
  | .draw drawn => s.draw drawn
  | .serve order => { s with script := s.script.obey order }
  | .pass millis => { s with clock := s.clock + millis }
  | .schedule linkFirst isStirred => { s with linkFirst, isStirred }

/-- The session after several actions. -/
def play (s : Session) (as : List Action) : Session :=
  as.foldl perform s

@[simp] theorem play_nil (s : Session) : s.play [] = s :=
  rfl

@[simp] theorem play_cons (s : Session) (a : Action) (as : List Action) :
    s.play (a :: as) = (s.perform a).play as :=
  rfl

theorem play_append (s : Session) (as bs : List Action) :
    s.play (as ++ bs) = (s.play as).play bs :=
  List.foldl_append

theorem new_eq_ok_iff {config : Config} {visibility : Visibility} {s : Session} :
    new config visibility = .ok s ↔ config.check = .ok () ∧ s = initial config visibility := by
  unfold new
  cases config.check with
  | error cause => exact ⟨nofun, nofun⟩
  | ok => exact ⟨fun h => by cases h; exact ⟨rfl, rfl⟩, fun h => by rw [h.2]; rfl⟩

/-- The settings of a feed of which nothing but the address is said. -/
def smallConfig : Config := .new "http://feed"

theorem new_smallConfig : new smallConfig .always = .ok (initial smallConfig .always) :=
  new_eq_ok_iff.mpr ⟨rfl, rfl⟩

/-- The same settings with room for one record. -/
def narrowConfig : Config := { smallConfig with capacity := 1 }

theorem new_narrowConfig : new narrowConfig .always = .ok (initial narrowConfig .always) :=
  new_eq_ok_iff.mpr ⟨rfl, rfl⟩

/-- What leads to the first connection being read. -/
def smallOpening : List Action :=
  [.start, .serve .connect, .link .signals, .link .signals]

variable {s s' : Session} {p : Precedence} {loader : Loader} {link : Link}

/-! ## Turns -/

theorem perform_load (htask : s.task = .running loader link) :
    s.perform .load = (s.loaderStep? loader link).getD s := by
  simp only [perform, htask]

theorem perform_link (htask : s.task = .running loader link) :
    s.perform (.link p) = (s.linkStep? p loader link).getD s := by
  simp only [perform, htask]

/-- A turn of the loader is a piece of its work, or nothing happens. -/
theorem perform_load_cases (s : Session) :
    s.perform .load = s ∨ ∃ loader link, s.task = .running loader link
      ∧ LoaderWork s link loader (s.perform .load) := by
  cases htask : s.task with
  | running loader link =>
    rw [perform_load htask]
    cases hstep : s.loaderStep? loader link with
    | none => exact Or.inl rfl
    | some s' => exact Or.inr ⟨loader, link, rfl, loaderWork_of_loaderStep? hstep⟩
  | unstarted => exact Or.inl (by simp only [perform, htask])
  | ended => exact Or.inl (by simp only [perform, htask])

/-- A turn of the link is a piece of its work, or nothing happens. -/
theorem perform_link_cases (s : Session) (p : Precedence) :
    s.perform (.link p) = s ∨ ∃ loader link, s.task = .running loader link
      ∧ LinkWork s loader link (s.perform (.link p)) := by
  cases htask : s.task with
  | running loader link =>
    rw [perform_link htask]
    cases hstep : s.linkStep? p loader link with
    | none => exact Or.inl rfl
    | some s' => exact Or.inr ⟨loader, link, rfl, linkWork_of_linkStep? hstep⟩
  | unstarted => exact Or.inl (by simp only [perform, htask])
  | ended => exact Or.inl (by simp only [perform, htask])

/-- Starting does something only once, and only before the end. -/
theorem perform_start_eq (s : Session) :
    s.perform .start
      = if s.isStopped = false ∧ s.task = .unstarted then
          { s with task := .running .ready .parked }
        else s := by
  unfold perform start
  cases s.isStopped <;> cases s.task <;> rfl

theorem perform_start_cases (s : Session) :
    s.perform .start = s
      ∨ s.task = .unstarted ∧ s.perform .start = { s with task := .running .ready .parked } := by
  rw [perform_start_eq]
  split
  next h => exact Or.inr ⟨h.2, rfl⟩
  next => exact Or.inl rfl

/-! ## What the program does is played -/

theorem exists_play_step (h : s.step? p = some s') : ∃ as, s.play as = s' := by
  unfold step? at h
  split at h
  next loader link htask =>
    have heither : s.linkStep? p loader link = some s' ∨ s.loaderStep? loader link = some s' := by
      split at h
      next => exact eq_some_of_pick (p := .signals) h
      next => exact (eq_some_of_pick (p := .signals) h).symm
    rcases heither with hlink | hload
    · exact ⟨[.link p], by simp [perform_link htask, hlink]⟩
    · exact ⟨[.load], by simp [perform_load htask, hload]⟩
  next => cases h

theorem exists_play_runSteps (n : Nat) (s : Session) : ∃ as, s.play as = runSteps p n s := by
  induction n generalizing s with
  | zero => exact ⟨[], rfl⟩
  | succ n ih =>
    rw [runSteps]
    split
    next t hstep =>
      obtain ⟨as, rfl⟩ := exists_play_step hstep
      obtain ⟨bs, hbs⟩ := ih (s.play as)
      exact ⟨as ++ bs, (play_append s as bs).trans hbs⟩
    next => exact ⟨[], rfl⟩

theorem exists_play_settle (s : Session) : ∃ as, s.play as = s.settle p := by
  unfold settle
  split
  next =>
    obtain ⟨as, has⟩ := exists_play_runSteps (p := p) s.workload s
    refine ⟨as ++ [.schedule (!s.linkFirst) false], ?_⟩
    rw [play_append, has]
    rfl
  next => exact ⟨[], rfl⟩

/-- Time passes up to a time that has not come yet. -/
theorem exists_play_pass {target : Nat} (h : s.clock ≤ target) :
    ∃ as, s.play as = { s with clock := target } := by
  refine ⟨[.pass (target - s.clock)], ?_⟩
  rw [play_cons, play_nil, perform, Nat.add_sub_cancel' h]

/-- All the work that is ready, and then time that passes. -/
theorem exists_play_settle_pass {target : Nat} (h : s.clock ≤ target) :
    ∃ as, s.play as = { s.settle p with clock := target } := by
  obtain ⟨as, has⟩ := exists_play_settle (p := p) s
  have hclock : (s.settle p).clock ≤ target := (runs_settle s).2 ▸ h
  obtain ⟨bs, hbs⟩ := exists_play_pass hclock
  exact ⟨as ++ bs, by rw [play_append, has, hbs]⟩

theorem exists_play_moveClock {target : Nat} (n : Nat) (h : s.clock ≤ target) :
    ∃ as, s.play as = moveClock p n target s := by
  induction n generalizing s with
  | zero => exact exists_play_settle_pass h
  | succ n ih =>
    rw [moveClock]
    split
    next due hdue =>
      split
      next hbetween =>
        rw [Bool.and_eq_true, decide_eq_true_eq, decide_eq_true_eq] at hbetween
        have hreached : s.clock ≤ due := (runs_settle (p := p) s).2 ▸ Nat.le_of_lt hbetween.1
        obtain ⟨as, has⟩ := exists_play_settle_pass (p := p) hreached
        obtain ⟨bs, hbs⟩ := ih (s := { s.settle p with clock := due }) (Nat.le_of_lt hbetween.2)
        exact ⟨as ++ bs, by rw [play_append, has, hbs]⟩
      next => exact exists_play_settle_pass h
    next => exact exists_play_settle_pass h

theorem exists_play_advance (millis : Nat) : ∃ as, s.play as = s.advance p millis := by
  unfold advance
  split
  next => exact ⟨[], rfl⟩
  next => exact exists_play_moveClock _ (Nat.le_add_right _ _)

/-- What can be played before something that can be played. -/
theorem exists_play_trans {t u : Session} (h : ∃ as, s.play as = t) (h' : ∃ as, t.play as = u) :
    ∃ as, s.play as = u := by
  obtain ⟨as, rfl⟩ := h
  obtain ⟨bs, rfl⟩ := h'
  exact ⟨as ++ bs, play_append s as bs⟩

end Session

namespace Scenario

variable {s : Scenario}

/-- What a step tells the server is an order. -/
theorem exists_play_order (s : Session) (order : Order) :
    ∃ as, s.play as = { s with script := s.script.obey order } :=
  ⟨[.serve order], rfl⟩

mutual

/-- Every step is played, by induction on batches of steps. -/
theorem exists_play_act (s : Scenario) (step : Step) :
    ∃ as, s.session.play as = (s.act step).2.session := by
  -- a step is one action or none, except that time passes in turns and a batch is many steps
  cases step with
  | start =>
    unfold act
    split
    next => exact ⟨[], rfl⟩
    next =>
      split
      next session hstart => exact ⟨[.start], by simp only [Session.play_cons, Session.play_nil,
          Session.perform, hstart]⟩
      next => exact ⟨[], rfl⟩
  | stop =>
    unfold act
    split
    next => exact ⟨[], rfl⟩
    next => exact ⟨[.stop], rfl⟩
  | drop => exact ⟨[.stop], rfl⟩
  | signal signal => exact ⟨[.signal signal], rfl⟩
  | dropHost => exact ⟨[.dropHost], rfl⟩
  | connect => exact exists_play_order s.session .connect
  | reject message status => exact exists_play_order s.session (.reject message status)
  | prepare cause => exact exists_play_order s.session (.prepare cause)
  | send connection octets =>
    exact exists_play_order s.session (.deliver connection (.chunk octets))
  | sendFrame connection event data =>
    exact exists_play_order s.session (.deliver connection (.chunk (frameOctets event data)))
  | fail connection cause =>
    exact exists_play_order s.session (.deliver connection (.failure cause))
  | close connection => exact exists_play_order s.session (.close connection)
  | snapshot items => exact exists_play_order s.session (.snapshot (.ok (.ofRecords items)))
  | failSnapshot message status =>
    exact exists_play_order s.session (.snapshot (.error (.snapshot message status)))
  | delaySnapshot millis => exact exists_play_order s.session (.delaySnapshot millis)
  | advance millis => exact Session.exists_play_advance millis
  | batch steps => exact exists_play_actAll s steps

theorem exists_play_actAll (s : Scenario) (steps : List Step) :
    ∃ as, s.session.play as = (s.actAll steps).session := by
  cases steps with
  | nil => exact ⟨[], rfl⟩
  | cons step steps =>
    exact Session.exists_play_trans (exists_play_act s step)
      (exists_play_actAll (s.act step).2 steps)

end

/-- **A scenario plays actions**, from each step to the next and so from its start to its end. -/
theorem exists_play (s : Scenario) (steps : List Step) :
    ∃ as, s.session.play as = (s.run steps).2.session := by
  induction steps generalizing s with
  | nil => exact ⟨[], rfl⟩
  | cons step steps ih =>
    have hstep : ∃ as, s.session.play as = (s.advance step).2.session :=
      Session.exists_play_trans (exists_play_act s step) (Session.exists_play_settle _)
    exact Session.exists_play_trans hstep (ih (s.advance step).2)

end Scenario

end ActivityFeed
