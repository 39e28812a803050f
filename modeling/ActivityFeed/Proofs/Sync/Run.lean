import ActivityFeed.Sync.Scenario
import Mathlib.Logic.Relation

/-!
# Runs of a synchronizer

A run is any sequence of moves. A `Move` is one piece of work of the loader, one of the link, or
something from outside: a call of a view, a signal of the host, a retry delay that chance draws,
whatever the server lays out next, time that passes, and the scheduler's choice of who goes first.
Nothing is assumed about the order
of moves, so the runs include all those of a scenario and many that no scenario has: work may be
left undone for as long as one likes, and either activity may go first at any time
(`Scenario.runs_run`).

`LoaderWork` and `LinkWork` say once what the two activities can do, with one constructor for each
thing, and what the session is after it. Invariants of runs are proved from them and never from
`loaderStep?` and `linkStep?`.
-/

namespace ActivityFeed

open Relation (ReflTransGen)

/-- Whether an attempt is under way. -/
def Link.isActive : Link → Bool
  | .opening => true
  | .reading .. => true
  | _ => false

namespace Session

variable {s s' : Session} {p : Precedence} {loader : Loader} {link : Link}

/-! ## The work of the loader -/

/-- The session after a request for the snapshot has gone out. -/
def noteRequest (s : Session) : Session :=
  let request : SnapshotRequest := ⟨s.feed.config.snapshotLimit, s.feed.config.board⟩
  { s with script := { s.script with snapshotRequests := s.script.snapshotRequests ++ [request] } }

/-- What the loader can do, by where it stands. -/
inductive LoaderWork (s : Session) (link : Link) : Loader → Session → Prop
  | request (due : Nat) :
    LoaderWork s link .ready { s.noteRequest with task := .running (.pending due) link }
  /-- Requests the snapshot and has it without a delay. -/
  | load : LoaderWork s link .ready (s.noteRequest.completeSnapshot link)
  | answer {due : Nat} (h : due ≤ s.clock) :
    LoaderWork s link (.pending due) (s.completeSnapshot link)

/-- The loader does nothing else. -/
theorem loaderWork_of_loaderStep? (h : s.loaderStep? loader link = some s') :
    LoaderWork s link loader s' := by
  unfold loaderStep? at h
  split at h
  next =>
    cases h
    unfold requestSnapshot
    dsimp only
    split
    next => exact .load
    next => exact .request _
  next =>
    split at h
    next hdue =>
      cases h
      exact .answer hdue
    next => cases h
  next => cases h

/-! ## The work of the link -/

/-- The session after something that a connection delivered has been taken. -/
def consume (s : Session) (connection : Nat) (unread : List Delivery) : Session :=
  { s with script := s.script.modifyConnection connection fun c => { c with unread } }

/-- What the link can do, by where it stands. -/
inductive LinkWork (s : Session) (loader : Loader) : Link → Session → Prop
  /-- Requests the stream. -/
  | connect (h : s.isEligible = true) : LinkWork s loader .parked (s.openStream loader)
  | accept {connection : Nat} {answers : List Answer}
      (h : s.script.answers = .accept connection :: answers) :
    LinkWork s loader .opening
      { s with
        script := { s.script with answers }
        feed := s.feed.noteOpened
        task := .running loader (.reading connection .fresh) }
  | reject {message : String} {status : Option Nat} {answers : List Answer}
      (h : s.script.answers = .reject message status :: answers) :
    LinkWork s loader .opening
      (endAttempt { s with script := { s.script with answers } } loader
        (.failed (.connect message status true)))
  | read {connection : Nat} {decoder : Decoder} {c : Connection} {octets : List UInt8}
      {unread : List Delivery} (hc : s.script.connections[connection]? = some c)
      (h : c.unread = .chunk octets :: unread) :
    LinkWork s loader (.reading connection decoder)
      ((s.consume connection unread).applyChunk loader connection decoder octets)
  | breakOff {connection : Nat} {decoder : Decoder} {c : Connection} {cause : Failure}
      {unread : List Delivery} (hc : s.script.connections[connection]? = some c)
      (h : c.unread = .failure cause :: unread) :
    LinkWork s loader (.reading connection decoder)
      ((s.consume connection unread).endAttempt loader (.ofFailure cause))
  | close {connection : Nat} {decoder : Decoder} {c : Connection}
      (hc : s.script.connections[connection]? = some c) (h : c.unread = [])
      (hclosed : c.isOpen = false) :
    LinkWork s loader (.reading connection decoder) (s.endAttempt loader .closed)
  /-- Gives the attempt up. -/
  | release {link : Link} (h : s.isEligible = false) (hactive : link.isActive = true) :
    LinkWork s loader link (s.release loader)
  | wake {due : Nat} (h : due ≤ s.clock) :
    LinkWork s loader (.resting due) { s with task := .running loader .parked }
  | rearm (h : s.isEligible = false) :
    LinkWork s loader .released { s with task := .running loader .parked }

theorem eq_some_of_pick {signals stream : Option Session}
    (h : Precedence.pick p signals stream = some s') : signals = some s' ∨ stream = some s' := by
  cases p <;> cases signals <;> cases stream <;> simp_all [Precedence.pick]

theorem linkWork_of_takeAnswer? (h : s.takeAnswer? loader = some s') :
    LinkWork s loader .opening s' := by
  unfold takeAnswer? at h
  split at h
  next => cases h
  next hanswers =>
    cases h
    exact .accept hanswers
  next hanswers =>
    cases h
    exact .reject hanswers

theorem linkWork_of_readNext? {connection : Nat} {decoder : Decoder}
    (h : s.readNext? loader connection decoder = some s') :
    LinkWork s loader (.reading connection decoder) s' := by
  unfold readNext? at h
  split at h
  next => cases h
  next c hc =>
    split at h
    next hunread =>
      split at h
      next => cases h
      next hopen =>
        cases h
        exact .close hc hunread (by simpa using hopen)
    next delivery unread hunread =>
      cases delivery with
      | chunk octets =>
        cases h
        exact .read hc hunread
      | failure cause =>
        cases h
        exact .breakOff hc hunread

/-- The link does nothing else. -/
theorem linkWork_of_linkStep? (h : s.linkStep? p loader link = some s') :
    LinkWork s loader link s' := by
  -- giving up comes into it in the two places where an attempt is under way
  have hlost : ∀ {link : Link}, link.isActive = true →
      (if s.isEligible then none else some (s.release loader)) = some s' →
      LinkWork s loader link s' := by
    intro link hactive hgiven
    split at hgiven
    next => cases hgiven
    next heligible =>
      cases hgiven
      exact .release (by simpa using heligible) hactive
  unfold linkStep? at h
  dsimp only at h
  split at h
  next =>
    split at h
    next heligible =>
      cases h
      exact .connect heligible
    next => cases h
  next => exact (eq_some_of_pick h).elim (hlost rfl) linkWork_of_takeAnswer?
  next => exact (eq_some_of_pick h).elim (hlost rfl) linkWork_of_readNext?
  next =>
    split at h
    next hdue =>
      cases h
      exact .wake hdue
    next => cases h
  next =>
    split at h
    next => cases h
    next heligible =>
      cases h
      exact .rearm (by simpa using heligible)

/-! ## Moves -/

/-- What happens to a session from outside. -/
inductive Outside (s : Session) : Session → Prop
  | start {s' : Session} (h : s.start = .ok s') : Outside s s'
  | stop : Outside s s.stop
  | signal (signal : Signal) : Outside s (s.signal signal)
  | dropHost : Outside s s.dropHost
  | draw (drawn : Duration) : Outside s (s.draw drawn)
  /-- The server changes what it has laid out; requests that were made stay made. -/
  | serve (script : Script) (h : script.attempts = s.script.attempts) :
    Outside s { s with script }
  | pass (clock : Nat) (h : s.clock ≤ clock) : Outside s { s with clock }
  /-- The scheduler chooses who goes first. -/
  | schedule (linkFirst isStirred : Bool) : Outside s { s with linkFirst, isStirred }

/-- One move of a run. -/
inductive Move (s : Session) : Session → Prop
  | outside {s' : Session} (h : Outside s s') : Move s s'
  | load {s' : Session} {loader : Loader} {link : Link} (htask : s.task = .running loader link)
      (h : s.loaderStep? loader link = some s') : Move s s'
  | link {s' : Session} {loader : Loader} {link : Link} {p : Precedence}
      (htask : s.task = .running loader link) (h : s.linkStep? p loader link = some s') :
    Move s s'

/-- A session that any number of moves leads to. -/
abbrev Runs : Session → Session → Prop :=
  ReflTransGen Move

/-! ## Work takes no time -/

theorem clock_dropConnection (s : Session) : s.dropConnection.clock = s.clock := by
  unfold dropConnection
  split <;> rfl

theorem clock_endAttempt (s : Session) (loader : Loader) (ending : Ending) :
    (s.endAttempt loader ending).clock = s.clock := by
  cases ending <;> exact clock_dropConnection s

theorem LinkWork.clock (h : LinkWork s loader link s') : s'.clock = s.clock := by
  cases h with
  | connect =>
    unfold openStream
    dsimp only
    split
    next => exact clock_endAttempt _ _ _
    next => rfl
  | accept => rfl
  | reject => exact clock_endAttempt _ _ _
  | read =>
    unfold applyChunk
    split <;> rfl
  | breakOff => exact clock_endAttempt _ _ _
  | close => exact clock_endAttempt _ _ _
  | release => exact clock_dropConnection s
  | wake => rfl
  | rearm => rfl

theorem LoaderWork.clock (h : LoaderWork s link loader s') : s'.clock = s.clock := by
  cases h <;> rfl

/-! ## What the program does is a run -/

theorem move_of_step? (h : s.step? p = some s') : Move s s' ∧ s'.clock = s.clock := by
  unfold step? at h
  split at h
  next loader link htask =>
    have heither : s.linkStep? p loader link = some s' ∨ s.loaderStep? loader link = some s' := by
      split at h
      next =>
        cases hlink : s.linkStep? p loader link with
        | some t => exact Or.inl (by simpa [hlink] using h)
        | none => exact Or.inr (by simpa [hlink] using h)
      next =>
        cases hload : s.loaderStep? loader link with
        | some t => exact Or.inr (by simpa [hload] using h)
        | none => exact Or.inl (by simpa [hload] using h)
    rcases heither with hlink | hload
    · exact ⟨.link htask hlink, (linkWork_of_linkStep? hlink).clock⟩
    · exact ⟨.load htask hload, (loaderWork_of_loaderStep? hload).clock⟩
  next => cases h

theorem runs_runSteps (n : Nat) (s : Session) :
    Runs s (runSteps p n s) ∧ (runSteps p n s).clock = s.clock := by
  induction n generalizing s with
  | zero => exact ⟨.refl, rfl⟩
  | succ n ih =>
    rw [runSteps]
    split
    next t hstep =>
      obtain ⟨hmove, hclock⟩ := move_of_step? hstep
      obtain ⟨hruns, hrest⟩ := ih t
      exact ⟨.head hmove hruns, hrest.trans hclock⟩
    next => exact ⟨.refl, rfl⟩

theorem runs_settle (s : Session) : Runs s (s.settle p) ∧ (s.settle p).clock = s.clock := by
  unfold settle
  split
  next =>
    obtain ⟨hruns, hclock⟩ := runs_runSteps (p := p) s.workload s
    exact ⟨hruns.tail (.outside (.schedule _ _)), hclock⟩
  next => exact ⟨.refl, rfl⟩

theorem runs_moveClock {target : Nat} (n : Nat) (h : s.clock ≤ target) :
    Runs s (moveClock p n target s) := by
  induction n generalizing s with
  | zero =>
    obtain ⟨hruns, hclock⟩ := runs_settle (p := p) s
    exact hruns.tail (.outside (.pass target (hclock ▸ h)))
  | succ n ih =>
    obtain ⟨hruns, hclock⟩ := runs_settle (p := p) s
    have hend : Runs s { s.settle p with clock := target } :=
      hruns.tail (.outside (.pass target (hclock ▸ h)))
    rw [moveClock]
    split
    next due hdue =>
      split
      next hbetween =>
        rw [Bool.and_eq_true, decide_eq_true_eq, decide_eq_true_eq] at hbetween
        refine (hruns.tail (.outside (.pass due (Nat.le_of_lt hbetween.1)))).trans (ih ?_)
        exact Nat.le_of_lt hbetween.2
      next => exact hend
    next => exact hend

theorem runs_advance (millis : Nat) : Runs s (s.advance p millis) := by
  unfold advance
  split
  next => exact .refl
  next => exact runs_moveClock _ (Nat.le_add_right _ _)

end Session

namespace Scenario

open Session (Runs)

variable {s : Scenario}

/-- Whatever a scenario does with the script is the server's. -/
theorem runs_script {script : Script} (h : script.attempts = s.session.script.attempts) :
    Runs s.session { s.session with script } :=
  .single (.outside (.serve script h))

theorem attempts_deliver (t : Script) (connection : Nat) (d : Delivery) :
    (t.deliver connection d).2.attempts = t.attempts := by
  unfold Script.deliver
  split
  next => rfl
  next =>
    split
    next => rfl
    next => split <;> rfl

theorem runs_deliver (s : Scenario) (connection : Nat) (d : Delivery) :
    Runs s.session (s.deliver connection d).2.session :=
  runs_script (attempts_deliver s.session.script connection d)

mutual

/-- Every step is a run, by induction on batches of steps. -/
theorem runs_act (s : Scenario) (step : Step) : Runs s.session (s.act step).2.session := by
  cases step with
  | start =>
    unfold act
    split
    next => exact .refl
    next =>
      split
      next session hstart => exact .single (.outside (.start hstart))
      next => exact .refl
  | stop =>
    unfold act
    split
    next => exact .refl
    next => exact .single (.outside .stop)
  | drop => exact .single (.outside .stop)
  | signal signal => exact .single (.outside (.signal signal))
  | dropHost => exact .single (.outside .dropHost)
  | send connection octets => exact runs_deliver s connection _
  | sendFrame connection event data => exact runs_deliver s connection _
  | fail connection cause => exact runs_deliver s connection _
  | advance millis => exact Session.runs_advance millis
  | batch steps => exact runs_actAll s steps
  | connect => exact runs_script rfl
  | reject => exact runs_script rfl
  | prepare => exact runs_script rfl
  | close => exact runs_script rfl
  | snapshot => exact runs_script rfl
  | failSnapshot => exact runs_script rfl
  | delaySnapshot => exact runs_script rfl

theorem runs_actAll (s : Scenario) (steps : List Step) :
    Runs s.session (s.actAll steps).session := by
  cases steps with
  | nil => exact .refl
  | cons step steps => exact (runs_act s step).trans (runs_actAll (s.act step).2 steps)

end

/-- **A scenario is a run**, from each step to the next and so from its start to its end. -/
theorem runs_run (s : Scenario) (steps : List Step) :
    Runs s.session (s.run steps).2.session := by
  induction steps generalizing s with
  | nil => exact .refl
  | cons step steps ih =>
    have hstep : Runs s.session (s.advance step).2.session :=
      (runs_act s step).trans (Session.runs_settle _).1
    exact hstep.trans (ih (s.advance step).2)

end Scenario

end ActivityFeed
