import ActivityFeed.Proofs.Sync.Action

/-!
# Who reads which connection

A connection that the server accepts is held from then on: first it waits among the answers, then
the one attempt that takes the answer reads it, and when that attempt is over nobody holds it any
more. `Wired` says that this is so in every session that a synchronizer comes to: a connection is
held just if it waits or is read, it never comes back, and the attempts that are over are cancelled.

What an action does to this is one of few things. It `Ends` the attempt, or it leaves everything as
it `Stays`; a request, its acceptance and a new connection are the others.
-/

namespace ActivityFeed

/-- The connection that is being read. -/
def Task.reading? : Task → Option Nat
  | .running _ (.reading connection _) => some connection
  | _ => none

/-- Whether an attempt is under way. -/
def Task.isActive : Task → Bool
  | .running _ link => link.isActive
  | _ => false

theorem Task.reading?_of_not_isActive {task : Task} (h : task.isActive = false) :
    task.reading? = none := by
  cases task with
  | running loader link => cases link <;> first | rfl | cases h
  | unstarted => rfl
  | ended => rfl

theorem Task.exists_of_reading? {task : Task} {n : Nat} (h : task.reading? = some n) :
    ∃ loader decoder, task = .running loader (.reading n decoder) := by
  unfold Task.reading? at h
  split at h
  next loader connection decoder =>
    cases h
    exact ⟨loader, decoder, rfl⟩
  next => cases h

/-- The connection that an answer accepts. -/
def Answer.connection? : Answer → Option Nat
  | .accept connection => some connection
  | .reject .. => none

namespace Script

/-- The connections that wait for a request. -/
def awaited (t : Script) : List Nat :=
  t.answers.filterMap Answer.connection?

/-- Whether somebody holds the reading end of a connection, or may still come to hold it. -/
def isHeld (t : Script) (n : Nat) : Bool :=
  t.connections[n]?.any Connection.isHeld

variable {t : Script}

/-- A change to a connection that leaves its reader alone. -/
theorem isHeld_modifyConnection (t : Script) (m : Nat) (change : Connection → Connection)
    (h : ∀ c, (change c).isHeld = c.isHeld) (n : Nat) :
    (t.modifyConnection m change).isHeld n = t.isHeld n := by
  unfold isHeld modifyConnection
  rw [List.getElem?_modify]
  cases t.connections[n]? with
  | none => rfl
  | some c =>
    show Connection.isHeld (if m = n then change c else c) = c.isHeld
    split
    next => exact h c
    next => rfl

theorem isHeld_abandon (t : Script) (m n : Nat) :
    (t.abandon m).isHeld n = (t.isHeld n && m != n) := by
  unfold abandon isHeld modifyConnection
  rw [List.getElem?_modify]
  by_cases hmn : m = n
  · subst hmn
    cases t.connections[m]? <;> simp
  · cases t.connections[n]? <;> simp [hmn]

theorem isHeld_deliver (t : Script) (m : Nat) (d : Delivery) (n : Nat) :
    (t.deliver m d).2.isHeld n = t.isHeld n := by
  unfold deliver
  split
  next => rfl
  next =>
    split
    next => rfl
    next =>
      split
      next => rfl
      next => exact isHeld_modifyConnection t m _ (by intro; rfl) n

theorem answers_deliver (t : Script) (m : Nat) (d : Delivery) :
    (t.deliver m d).2.answers = t.answers := by
  unfold deliver
  split
  next => rfl
  next =>
    split
    next => rfl
    next => split <;> rfl

theorem isHeld_connect (t : Script) (n : Nat) :
    t.connect.isHeld n = (t.isHeld n || n == t.connections.length) := by
  unfold connect isHeld
  rcases Nat.lt_trichotomy n t.connections.length with hlt | heq | hgt
  · simp [List.getElem?_append_left hlt, Nat.ne_of_lt hlt]
  · subst heq
    simp
  · have hnone : (t.connections ++ [⟨[], true, true⟩])[n]? = none := by
      rw [List.getElem?_eq_none_iff, List.length_append, List.length_singleton]
      omega
    simp [hnone, List.getElem?_eq_none (Nat.le_of_lt hgt), Nat.ne_of_gt hgt]

/-- The newest attempt is cancelled and no other is touched. -/
theorem attempts_cancelNewest {before : List Attempt} {newest : Attempt}
    (h : t.attempts = before ++ [newest]) :
    t.cancelNewest.attempts = before ++ [{ newest with isCancelled := true }] := by
  unfold cancelNewest
  rw [h, List.length_append, List.length_singleton, Nat.add_sub_cancel,
    List.modify_eq_take_cons_drop (by simp)]
  simp

/-- Something is read off every attempt, after the newest has been cancelled. -/
theorem map_cancelNewest {β : Type} {f : Attempt → β} {g : β → β}
    (hf : ∀ a : Attempt, f { a with isCancelled := true } = g (f a)) :
    t.cancelNewest.attempts.map f = (t.attempts.map f).modify (t.attempts.length - 1) g := by
  apply List.ext_getElem?
  intro n
  rw [cancelNewest, List.getElem?_map, List.getElem?_modify, List.getElem?_modify,
    List.getElem?_map]
  cases t.attempts[n]? with
  | none => rfl
  | some a =>
    by_cases hnewest : t.attempts.length - 1 = n
    · simp [hnewest, hf]
    · simp [hnewest]

/-- Where all attempts but the newest have been cancelled, none is left then. -/
theorem cancelled_cancelNewest (h : ∀ a ∈ t.attempts.dropLast, a.isCancelled = true) :
    ∀ a ∈ t.cancelNewest.attempts, a.isCancelled = true := by
  by_cases hnone : t.attempts = []
  · intro a ha
    rw [cancelNewest, hnone] at ha
    cases ha
  · rw [attempts_cancelNewest (List.dropLast_concat_getLast hnone).symm]
    intro a ha
    rcases List.mem_append.mp ha with hbefore | hnewest
    · exact h a hbefore
    · rw [List.mem_singleton.mp hnewest]

theorem not_isHeld_length (t : Script) : t.isHeld t.connections.length = false := by
  rw [isHeld, List.getElem?_eq_none (Nat.le_refl _)]
  rfl

end Script

namespace Session

variable {s s' : Session} {p : Precedence} {loader : Loader} {link : Link} {n : Nat}

/-- Connections are held by those that are to read them, each of them once, and what is over is
cancelled. -/
structure Wired (s : Session) : Prop where
  /-- A connection is held just if it waits for a request or is read. -/
  held : ∀ n, s.script.isHeld n = true ↔ n ∈ s.script.awaited ∨ s.task.reading? = some n
  once : s.script.awaited.Nodup
  /-- What is read waits no longer. -/
  taken : ∀ n, s.task.reading? = some n → n ∉ s.script.awaited
  /-- While no attempt is under way, all have been cancelled. -/
  cancelled : s.task.isActive = false → ∀ a ∈ s.script.attempts, a.isCancelled = true
  /-- While one is under way, it is the newest, and all others have been cancelled. -/
  live : s.task.isActive = true → ∃ before newest, s.script.attempts = before ++ [newest]
    ∧ newest.isCancelled = false ∧ ∀ a ∈ before, a.isCancelled = true

/-- The attempt is over, and what it read has been given up. -/
structure Ends (s s' : Session) : Prop where
  held : ∀ n, s'.script.isHeld n = true ↔ s.script.isHeld n = true ∧ s.task.reading? ≠ some n
  awaited : s'.script.awaited = s.script.awaited
  inactive : s'.task.isActive = false
  /-- The newest attempt has been cancelled; about others nothing is known. -/
  cancelled : (∀ a ∈ s.script.attempts.dropLast, a.isCancelled = true) →
    ∀ a ∈ s'.script.attempts, a.isCancelled = true

/-- Whatever has happened, it concerns neither the attempts nor who holds what. -/
structure Stays (s s' : Session) : Prop where
  held : ∀ n, s'.script.isHeld n = s.script.isHeld n
  awaited : s'.script.awaited = s.script.awaited
  reading : s'.task.reading? = s.task.reading?
  active : s'.task.isActive = s.task.isActive
  attempts : s'.script.attempts = s.script.attempts

namespace Wired

/-- Only the newest attempt can be one that has not been cancelled. -/
theorem cancelled_dropLast (hwired : Wired s) :
    ∀ a ∈ s.script.attempts.dropLast, a.isCancelled = true := by
  cases hactive : s.task.isActive with
  | false =>
    intro a ha
    exact hwired.cancelled hactive a (List.dropLast_subset _ ha)
  | true =>
    obtain ⟨before, newest, hattempts, -, hbefore⟩ := hwired.live hactive
    rw [hattempts, List.dropLast_concat]
    exact hbefore

theorem ends (hwired : Wired s) (h : Ends s s') : Wired s' where
  held n := by
    rw [h.held, h.awaited, hwired.held, Task.reading?_of_not_isActive h.inactive]
    constructor
    · rintro ⟨hwaits | hreads, hother⟩
      · exact Or.inl hwaits
      · exact absurd hreads hother
    · rintro (hwaits | hreads)
      · exact ⟨Or.inl hwaits, fun hreads => hwired.taken n hreads hwaits⟩
      · cases hreads
  once := h.awaited ▸ hwired.once
  taken n hreads := by
    rw [Task.reading?_of_not_isActive h.inactive] at hreads
    cases hreads
  cancelled _ := h.cancelled hwired.cancelled_dropLast
  live hactive := by
    rw [h.inactive] at hactive
    cases hactive

theorem stays (hwired : Wired s) (h : Stays s s') : Wired s' where
  held n := by rw [h.held, h.awaited, h.reading, hwired.held]
  once := h.awaited ▸ hwired.once
  taken n hreads := h.awaited ▸ hwired.taken n (h.reading ▸ hreads)
  cancelled hactive := h.attempts ▸ hwired.cancelled (h.active ▸ hactive)
  live hactive := h.attempts ▸ hwired.live (h.active ▸ hactive)

end Wired

/-- What is read is held. -/
theorem Wired.exists_connection (h : Wired s) (hreads : s.task.reading? = some n) :
    ∃ c, s.script.connections[n]? = some c ∧ c.isHeld = true :=
  (Option.any_eq_true _ _).mp ((h.held n).mpr (Or.inr hreads))

/-! ## Attempts that end -/

theorem reading?_eq_none (h : ∀ loader n decoder, s.task ≠ .running loader (.reading n decoder)) :
    s.task.reading? = none := by
  unfold Task.reading?
  split
  next loader n decoder htask => exact absurd htask (h loader n decoder)
  next => rfl

theorem isHeld_dropConnection (s : Session) (n : Nat) :
    s.dropConnection.script.isHeld n = true
      ↔ s.script.isHeld n = true ∧ s.task.reading? ≠ some n := by
  unfold dropConnection
  split
  next loader m decoder htask =>
    rw [Script.isHeld_abandon, htask, Task.reading?]
    simp
  next hother =>
    rw [reading?_eq_none hother]
    simp

theorem answers_dropConnection (s : Session) :
    s.dropConnection.script.answers = s.script.answers := by
  unfold dropConnection
  split <;> rfl

theorem attempts_dropConnection (s : Session) :
    s.dropConnection.script.attempts = s.script.attempts := by
  unfold dropConnection
  split <;> rfl

/-- A connection that is given up, with something that happens to the attempts. -/
theorem ends_of_dropConnection {attempts : List Attempt}
    (hscript : s'.script = { s.dropConnection.script with attempts })
    (h : s'.task.isActive = false)
    (hcancelled : (∀ a ∈ s.script.attempts.dropLast, a.isCancelled = true) →
      ∀ a ∈ attempts, a.isCancelled = true) : Ends s s' where
  held n := by
    rw [hscript]
    exact isHeld_dropConnection s n
  awaited := by
    rw [hscript]
    exact congrArg (List.filterMap Answer.connection?) (answers_dropConnection s)
  inactive := h
  cancelled hbefore a ha := by
    rw [hscript] at ha
    exact hcancelled hbefore a ha

theorem ends_of_cancelNewest (hscript : s'.script = s.dropConnection.script.cancelNewest)
    (h : s'.task.isActive = false) : Ends s s' := by
  refine ends_of_dropConnection hscript h fun hbefore => ?_
  rw [attempts_dropConnection]
  exact Script.cancelled_cancelNewest (t := s.script) hbefore

theorem ends_stop (s : Session) : Ends s s.stop := by
  refine ends_of_dropConnection rfl rfl fun _ a ha => ?_
  obtain ⟨b, -, rfl⟩ := List.mem_map.mp ha
  rfl

theorem ends_release (s : Session) (loader : Loader) : Ends s (s.release loader) :=
  ends_of_cancelNewest rfl rfl

theorem ends_endAttempt (s : Session) (loader : Loader) (ending : Ending) :
    Ends s (s.endAttempt loader ending) := by
  cases ending <;> exact ends_of_cancelNewest rfl rfl

/-- An attempt may end after something that does not concern it. -/
theorem Ends.of_congr {t : Session} (h : Ends t s')
    (hheld : ∀ n, t.script.isHeld n = s.script.isHeld n)
    (hawaited : t.script.awaited = s.script.awaited)
    (hreading : t.task.reading? = s.task.reading?)
    (hcancelled : (∀ a ∈ s.script.attempts.dropLast, a.isCancelled = true) →
      ∀ a ∈ t.script.attempts.dropLast, a.isCancelled = true) : Ends s s' where
  held n := by rw [h.held, hheld, hreading]
  awaited := h.awaited.trans hawaited
  inactive := h.inactive
  cancelled hbefore := h.cancelled (hcancelled hbefore)

/-! ## The link -/

/-- A request either ends at once or is under way. -/
theorem openStream_wired (hwired : Wired s) (htask : s.task = .running loader .parked) :
    Wired (s.openStream loader) := by
  have hreading : s.task.reading? = none := by
    rw [htask]
    rfl
  have hcancelled := hwired.cancelled (by rw [htask]; rfl)
  unfold openStream
  dsimp only
  split
  next =>
    refine hwired.ends ((ends_endAttempt _ loader _).of_congr (fun _ => rfl) rfl rfl fun _ => ?_)
    -- the request that fails at once is the newest, all before it are over
    dsimp only
    rw [List.dropLast_concat]
    exact hcancelled
  next =>
    exact {
      held := fun n => (hwired.held n).trans (by rw [hreading]; rfl)
      once := hwired.once
      taken := fun n hreads => by cases hreads
      cancelled := fun hactive => by cases hactive
      live := fun _ => ⟨_, _, rfl, rfl, hcancelled⟩ }

theorem accept_wired (hwired : Wired s) (htask : s.task = .running loader .opening)
    {connection : Nat} {answers : List Answer}
    (hanswers : s.script.answers = .accept connection :: answers) :
    Wired
      { s with
        script := { s.script with answers }
        feed := s.feed.noteOpened
        task := .running loader (.reading connection .fresh) } := by
  have hawaited : s.script.awaited = connection :: answers.filterMap Answer.connection? := by
    rw [Script.awaited, hanswers, List.filterMap_cons]
    rfl
  have honce := hwired.once
  rw [hawaited, List.nodup_cons] at honce
  have hactive : s.task.isActive = true := by rw [htask]; rfl
  refine {
    held := fun n => ?_
    once := honce.2
    taken := fun n hreads => ?_
    cancelled := fun hinactive => by cases hinactive
    live := fun _ => hwired.live hactive }
  · refine (hwired.held n).trans ?_
    rw [hawaited, htask]
    simp [Task.reading?, Script.awaited, or_comm, eq_comm]
  · cases hreads
    exact honce.1

theorem stays_applyChunk (s : Session) {connection : Nat} {decoder : Decoder}
    (htask : s.task = .running loader (.reading connection decoder)) (octets : List UInt8) :
    Stays s (s.applyChunk loader connection decoder octets) := by
  unfold applyChunk
  split
  next => exact ⟨fun _ => rfl, rfl, rfl, rfl, rfl⟩
  next => exact ⟨fun _ => rfl, rfl, by rw [htask]; rfl, by rw [htask]; rfl, rfl⟩

theorem isHeld_consume (s : Session) (connection : Nat) (unread : List Delivery) (n : Nat) :
    (s.consume connection unread).script.isHeld n = s.script.isHeld n :=
  Script.isHeld_modifyConnection s.script connection _ (by intro; rfl) n

theorem LinkWork.wired (h : LinkWork s loader link s') (htask : s.task = .running loader link)
    (hwired : Wired s) : Wired s' := by
  cases h with
  | connect => exact openStream_wired hwired htask
  | accept hanswers => exact accept_wired hwired htask hanswers
  | reject hanswers =>
    refine hwired.ends ((ends_endAttempt _ loader _).of_congr (fun _ => rfl) ?_ rfl id)
    rw [Script.awaited, Script.awaited, hanswers, List.filterMap_cons]
    rfl
  | @read connection decoder c octets unread hc h =>
    have hconsumed : Stays s (s.consume connection unread) :=
      ⟨isHeld_consume s connection unread, rfl, rfl, rfl, rfl⟩
    exact (hwired.stays hconsumed).stays
      (stays_applyChunk (s.consume connection unread) htask octets)
  | breakOff hc h =>
    exact hwired.ends ((ends_endAttempt _ loader _).of_congr (isHeld_consume s _ _) rfl rfl id)
  | close => exact hwired.ends (ends_endAttempt s loader _)
  | release => exact hwired.ends (ends_release s loader)
  | wake => exact hwired.stays ⟨fun _ => rfl, rfl, by rw [htask]; rfl, by rw [htask]; rfl, rfl⟩
  | rearm => exact hwired.stays ⟨fun _ => rfl, rfl, by rw [htask]; rfl, by rw [htask]; rfl, rfl⟩

/-! ## The loader, and what comes from outside -/

theorem LoaderWork.stays (h : LoaderWork s link loader s') (htask : s.task = .running loader link) :
    Stays s s' := by
  cases h <;> exact ⟨fun _ => rfl, rfl, by rw [htask]; cases link <;> rfl, by rw [htask]; rfl, rfl⟩

theorem stays_of_script {script : Script} (hheld : ∀ n, script.isHeld n = s.script.isHeld n)
    (hanswers : script.awaited = s.script.awaited)
    (hattempts : script.attempts = s.script.attempts) : Stays s { s with script } :=
  ⟨hheld, hanswers, rfl, rfl, hattempts⟩

theorem connect_wired (hwired : Wired s) : Wired { s with script := s.script.connect } := by
  -- the number of the new connection is one that nobody can hold
  have hnew : ¬ (s.script.connections.length ∈ s.script.awaited
      ∨ s.task.reading? = some s.script.connections.length) := by
    rw [← hwired.held, Script.not_isHeld_length]
    exact Bool.false_ne_true
  have hawaited : s.script.connect.awaited = s.script.awaited ++ [s.script.connections.length] := by
    simp [Script.awaited, Script.connect, Answer.connection?]
  refine {
    held := fun n => ?_
    once := ?_
    taken := fun n hreads => ?_
    cancelled := hwired.cancelled
    live := hwired.live }
  · rw [Script.isHeld_connect, Bool.or_eq_true, hwired.held, hawaited, List.mem_append,
      List.mem_singleton, beq_iff_eq, or_right_comm]
  · rw [hawaited]
    exact List.nodup_append.mpr ⟨hwired.once, by simp, fun a ha b hb hab =>
      hnew (Or.inl (List.mem_singleton.mp hb ▸ hab ▸ ha))⟩
  · rw [hawaited, List.mem_append, List.mem_singleton]
    rintro (hwaits | rfl)
    · exact hwired.taken n hreads hwaits
    · exact hnew (Or.inr hreads)

theorem serve_wired (hwired : Wired s) (order : Order) :
    Wired { s with script := s.script.obey order } := by
  cases order with
  | connect => exact connect_wired hwired
  | reject message status =>
    refine hwired.stays (stays_of_script (fun _ => rfl) ?_ rfl)
    simp [Script.obey, Script.reject, Script.awaited, Answer.connection?]
  | deliver connection d =>
    refine hwired.stays (stays_of_script (Script.isHeld_deliver s.script connection d) ?_ ?_)
    · exact congrArg (List.filterMap Answer.connection?)
        (Script.answers_deliver s.script connection d)
    · exact Scenario.attempts_deliver s.script connection d
  | close connection =>
    exact hwired.stays (stays_of_script
      (Script.isHeld_modifyConnection s.script connection _ (by intro; rfl)) rfl rfl)
  | prepare | snapshot | delaySnapshot =>
    exact hwired.stays (stays_of_script (fun _ => rfl) rfl rfl)

/-! ## Runs -/

theorem perform_wired (hwired : Wired s) (a : Action) : Wired (s.perform a) := by
  cases a with
  | load =>
    rcases s.perform_load_cases with hsame | ⟨loader, link, htask, hwork⟩
    · exact hsame.symm ▸ hwired
    · exact hwired.stays (hwork.stays htask)
  | link p =>
    rcases s.perform_link_cases p with hsame | ⟨loader, link, htask, hwork⟩
    · exact hsame.symm ▸ hwired
    · exact hwork.wired htask hwired
  | start =>
    rcases s.perform_start_cases with hsame | ⟨htask, hstarted⟩
    · exact hsame.symm ▸ hwired
    · rw [hstarted]
      exact hwired.stays ⟨fun _ => rfl, rfl, by rw [htask]; rfl, by rw [htask]; rfl, rfl⟩
  | stop => exact hwired.ends (ends_stop s)
  | signal signal =>
    show Wired (s.signal signal)
    unfold Session.signal
    split
    next => exact hwired.stays ⟨fun _ => rfl, rfl, rfl, rfl, rfl⟩
    next => exact hwired
  | serve order => exact serve_wired hwired order
  | dropHost | draw | pass | schedule => exact hwired.stays ⟨fun _ => rfl, rfl, rfl, rfl, rfl⟩

theorem play_wired (hwired : Wired s) (as : List Action) : Wired (s.play as) := by
  induction as generalizing s with
  | nil => exact hwired
  | cons a as ih => exact ih (perform_wired hwired a)

theorem wired_initial (config : Config) (visibility : Visibility) :
    Wired (initial config visibility) where
  held n := by simp [Script.isHeld, Script.awaited, Script.empty, Task.reading?, initial]
  once := List.nodup_nil
  taken _ hreads := by cases hreads
  cancelled _ _ ha := by cases ha
  live hactive := by cases hactive

theorem wired_of_new {config : Config} {visibility : Visibility}
    (h : new config visibility = .ok s) : Wired s := by
  obtain ⟨-, rfl⟩ := new_eq_ok_iff.mp h
  exact wired_initial config visibility

end Session

end ActivityFeed
