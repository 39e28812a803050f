import ActivityFeed.Proofs.Sync.Wiring

/-!
# What can be seen of a session

What waits unread on a connection cannot be seen before it is read, and neither can what the
scheduler remembers. `outward` is a session without the two: the records, the phase, the counters,
the requests that were made, the delays, and all else that a view or the server could tell apart.

What a session looks like after an action is settled by what it looked like before
(`outward_perform_congr`), except in one place: while a connection is being read, a turn of the link
looks at what is unread. It `takes` the next thing, if there is one and the link gets to it; if not,
it goes on as if nothing had been sent at all (`perform_link_of_not_takes`).
-/

namespace ActivityFeed

/-- A connection after something has been delivered; nothing if it is closed or nobody holds it. -/
def Connection.receive (d : Delivery) (c : Connection) : Connection :=
  if c.isOpen && c.isHeld then { c with unread := c.unread ++ [d] } else c

@[simp] theorem Connection.isHeld_receive (c : Connection) (d : Delivery) :
    (c.receive d).isHeld = c.isHeld := by
  unfold receive
  split <;> rfl

/-- A connection after its reading end has been given up. -/
def Connection.leave (c : Connection) : Connection :=
  { c with unread := [], isHeld := false }

/-- Changes that agree on the connection that they change. -/
theorem Script.modifyConnection_congr {t : Script} {n : Nat} {f g : Connection → Connection}
    (h : ∀ c, t.connections[n]? = some c → f c = g c) :
    t.modifyConnection n f = t.modifyConnection n g := by
  have hmodify : t.connections.modify n f = t.connections.modify n g := by
    apply List.ext_getElem?
    intro m
    rw [List.getElem?_modify, List.getElem?_modify]
    by_cases hmn : n = m
    · subst hmn
      cases hc : t.connections[n]? with
      | none => rfl
      | some c => simp [h c hc]
    · simp [hmn]
  rw [modifyConnection, modifyConnection, hmodify]

theorem Script.modifyConnection_id (t : Script) (n : Nat) : t.modifyConnection n id = t := by
  rw [modifyConnection, List.modify_id]

/-- A delivery concerns one connection only. -/
theorem Script.deliver_eq (t : Script) (n : Nat) (d : Delivery) :
    (t.deliver n d).2 = t.modifyConnection n (Connection.receive d) := by
  have hsame : (∀ c, t.connections[n]? = some c → c.receive d = c) →
      t = t.modifyConnection n (Connection.receive d) := fun h =>
    ((modifyConnection_congr h).trans (t.modifyConnection_id n)).symm
  have hc' : ∀ {c c' : Connection}, t.connections[n]? = some c → t.connections[n]? = some c' →
      c' = c := fun hc hc' => Option.some.inj (hc'.symm.trans hc)
  unfold deliver
  split
  next hnone => exact hsame fun c hc => by cases hnone.symm.trans hc
  next c hc =>
    split
    next hclosed =>
      refine hsame fun c' h => hc' hc h ▸ ?_
      rw [Connection.receive, if_neg fun h => ?_]
      simp_all
    next hopen =>
      split
      next hleft =>
        refine hsame fun c' h => hc' hc h ▸ ?_
        rw [Connection.receive, if_neg fun h => ?_]
        simp_all
      next hheld =>
        refine modifyConnection_congr fun c' h => hc' hc h ▸ ?_
        rw [Connection.receive, if_pos]
        simp_all

namespace Session

variable {s t : Session} {p : Precedence} {loader : Loader} {link : Link} {n : Nat}
  {decoder : Decoder} {a : Action}

/-- A session as it looks from outside. -/
def outward (s : Session) : Session :=
  { s with
    script := { s.script with connections := [] }
    linkFirst := false
    isStirred := false }

/-- Sessions that look the same differ in nothing else than what cannot be seen. -/
theorem exists_of_outward (h : s.outward = t.outward) :
    ∃ connections linkFirst isStirred,
      s = { t with script := { t.script with connections }, linkFirst, isStirred } := by
  refine ⟨s.script.connections, s.linkFirst, s.isStirred, ?_⟩
  have hrestore : ∀ u : Session, u = { u.outward with
      script := { u.outward.script with connections := u.script.connections }
      linkFirst := u.linkFirst
      isStirred := u.isStirred } := fun _ => rfl
  rw [hrestore s, h]
  rfl

theorem task_of_outward (h : s.outward = t.outward) : s.task = t.task := by
  obtain ⟨_, _, _, rfl⟩ := exists_of_outward h
  rfl

theorem isEligible_of_outward (h : s.outward = t.outward) : s.isEligible = t.isEligible := by
  obtain ⟨_, _, _, rfl⟩ := exists_of_outward h
  rfl

/-! ## Pieces of work -/

@[simp] theorem outward_dropConnection (s : Session) : s.dropConnection.outward = s.outward := by
  unfold dropConnection
  split <;> rfl

theorem outward_dropConnection_congr (h : s.outward = t.outward) :
    s.dropConnection.outward = t.dropConnection.outward := by
  rw [outward_dropConnection, outward_dropConnection, h]

theorem outward_stop (h : s.outward = t.outward) : s.stop.outward = t.stop.outward := by
  unfold stop
  obtain ⟨_, _, _, hdrop⟩ := exists_of_outward (outward_dropConnection_congr h)
  rw [hdrop]
  rfl

theorem outward_release (h : s.outward = t.outward) (loader : Loader) :
    (s.release loader).outward = (t.release loader).outward := by
  unfold release
  obtain ⟨_, _, _, hdrop⟩ := exists_of_outward (outward_dropConnection_congr h)
  rw [hdrop]
  rfl

theorem outward_endAttempt (h : s.outward = t.outward) (loader : Loader) (ending : Ending) :
    (s.endAttempt loader ending).outward = (t.endAttempt loader ending).outward := by
  unfold endAttempt
  obtain ⟨_, _, _, hdrop⟩ := exists_of_outward (outward_dropConnection_congr h)
  rw [hdrop]
  cases ending <;> rfl

theorem outward_applyChunk (h : s.outward = t.outward) (loader : Loader) (n : Nat)
    (decoder : Decoder) (octets : List UInt8) :
    (s.applyChunk loader n decoder octets).outward
      = (t.applyChunk loader n decoder octets).outward := by
  obtain ⟨_, _, _, rfl⟩ := exists_of_outward h
  unfold applyChunk
  split <;> rfl

theorem outward_openStream (h : s.outward = t.outward) (loader : Loader) :
    (s.openStream loader).outward = (t.openStream loader).outward := by
  obtain ⟨_, _, _, rfl⟩ := exists_of_outward h
  unfold openStream
  dsimp only
  split
  next => exact outward_endAttempt (by rfl) loader _
  next => rfl

theorem outward_takeAnswer? (h : s.outward = t.outward) (loader : Loader) :
    (s.takeAnswer? loader).map outward = (t.takeAnswer? loader).map outward := by
  obtain ⟨_, _, _, rfl⟩ := exists_of_outward h
  unfold takeAnswer?
  dsimp only
  split
  next => rfl
  next => rfl
  next => exact congrArg some (outward_endAttempt (by rfl) loader _)

theorem outward_loaderStep? (h : s.outward = t.outward) (loader : Loader) (link : Link) :
    (s.loaderStep? loader link).map outward = (t.loaderStep? loader link).map outward := by
  obtain ⟨_, _, _, rfl⟩ := exists_of_outward h
  unfold loaderStep? requestSnapshot
  dsimp only
  split
  next => split <;> rfl
  next => split <;> rfl
  next => rfl

theorem map_pick (f : Session → Session) (p : Precedence) (signals stream : Option Session) :
    (Precedence.pick p signals stream).map f
      = Precedence.pick p (signals.map f) (stream.map f) := by
  cases p <;> cases signals <;> cases stream <;> rfl

/-- A turn of the link looks at no connection, unless one is being read. -/
theorem outward_linkStep? (h : s.outward = t.outward) (p : Precedence) (loader : Loader)
    (hlink : ∀ n decoder, link ≠ .reading n decoder) :
    (s.linkStep? p loader link).map outward = (t.linkStep? p loader link).map outward := by
  unfold linkStep?
  rw [isEligible_of_outward h]
  dsimp only
  split
  next =>
    split
    next => exact congrArg some (outward_openStream h loader)
    next => rfl
  next =>
    rw [map_pick, map_pick, outward_takeAnswer? h]
    split
    next => rfl
    next => exact congrArg (Precedence.pick p · _) (congrArg some (outward_release h loader))
  next n decoder => exact absurd rfl (hlink n decoder)
  next =>
    obtain ⟨_, _, _, rfl⟩ := exists_of_outward h
    dsimp only
    split <;> rfl
  next =>
    obtain ⟨_, _, _, rfl⟩ := exists_of_outward h
    split <;> rfl

/-! ## Actions -/

theorem outward_obey (h : s.outward = t.outward)
    (hlength : s.script.connections.length = t.script.connections.length) (order : Order) :
    outward { s with script := s.script.obey order }
      = outward { t with script := t.script.obey order } := by
  obtain ⟨connections, _, _, rfl⟩ := exists_of_outward h
  cases order with
  | connect =>
    simp only [outward, Script.obey, Script.connect]
    rw [hlength]
  | deliver n d =>
    simp only [outward, Script.obey, Script.deliver_eq]
    rfl
  | reject | prepare | close | snapshot | delaySnapshot => rfl

theorem outward_start (h : s.outward = t.outward) :
    (s.perform .start).outward = (t.perform .start).outward := by
  obtain ⟨_, _, _, rfl⟩ := exists_of_outward h
  unfold perform start isStopped
  dsimp only
  by_cases hstopped : t.feed.phase.value = .stopped
  · simp [hstopped, outward]
  · cases htask : t.task <;> simp [hstopped, outward, htask]

theorem outward_getD (o : Option Session) (s : Session) :
    (o.getD s).outward = (o.map outward).getD s.outward :=
  (Option.getD_map outward s o).symm

/-- What an action makes of a session is settled by what the session looks like, and by how many
connections there are; a turn of the link that reads is left out. -/
theorem outward_perform_congr (h : s.outward = t.outward)
    (hlength : s.script.connections.length = t.script.connections.length)
    (ha : ∀ p, a = .link p → s.task.reading? = none) :
    (s.perform a).outward = (t.perform a).outward := by
  -- what cannot be seen is what is unread, which only a turn that reads would look at
  have htask := task_of_outward h
  cases a with
  | load =>
    cases hs : s.task with
    | running loader link =>
      rw [perform_load hs, perform_load (htask ▸ hs), outward_getD, outward_getD,
        outward_loaderStep? h, h]
    | unstarted => simpa only [perform, ← htask, hs] using h
    | ended => simpa only [perform, ← htask, hs] using h
  | link p =>
    cases hs : s.task with
    | running loader link =>
      have hlink : ∀ n decoder, link ≠ .reading n decoder := by
        rintro n decoder rfl
        have hreads := ha p rfl
        rw [hs] at hreads
        cases hreads
      rw [perform_link hs, perform_link (htask ▸ hs), outward_getD, outward_getD,
        outward_linkStep? h p loader hlink, h]
    | unstarted => simpa only [perform, ← htask, hs] using h
    | ended => simpa only [perform, ← htask, hs] using h
  | start => exact outward_start h
  | stop => exact outward_stop h
  | signal signal =>
    obtain ⟨_, _, _, rfl⟩ := exists_of_outward h
    show outward (Session.signal _ signal) = outward (t.signal signal)
    unfold Session.signal
    split <;> rfl
  | serve order => exact outward_obey h hlength order
  | dropHost | draw | pass | schedule =>
    obtain ⟨_, _, _, rfl⟩ := exists_of_outward h
    rfl

/-! ## Reading -/

/-- Whether something on a connection is there to be read: something unread, or the end. -/
def hasNext (s : Session) (n : Nat) : Bool :=
  s.script.connections[n]?.any fun c => !c.unread.isEmpty || !c.isOpen

/-- Whether an action reads the next thing on a connection. -/
def takes (s : Session) (n : Nat) : Action → Bool
  | .link p => s.task.reading? = some n && (s.isEligible || p = .stream) && s.hasNext n
  | _ => false

/-- What a session becomes by what has been read: a chunk, a failure, or the end. -/
def digest (s : Session) (loader : Loader) (n : Nat) (decoder : Decoder) :
    Option Delivery → Session
  | some (.chunk octets) => s.applyChunk loader n decoder octets
  | some (.failure cause) => s.endAttempt loader (.ofFailure cause)
  | none => s.endAttempt loader .closed

theorem outward_digest (h : s.outward = t.outward) (loader : Loader) (n : Nat) (decoder : Decoder)
    (next : Option Delivery) :
    (s.digest loader n decoder next).outward = (t.digest loader n decoder next).outward := by
  match next with
  | some (.chunk octets) => exact outward_applyChunk h loader n decoder octets
  | some (.failure cause) => exact outward_endAttempt h loader _
  | none => exact outward_endAttempt h loader _

theorem readNext?_of_unread {c : Connection} {d : Delivery} {unread : List Delivery}
    (hc : s.script.connections[n]? = some c) (h : c.unread = d :: unread) :
    s.readNext? loader n decoder
      = some ((s.consume n unread).digest loader n decoder (some d)) := by
  simp only [readNext?, hc, h]
  cases d <;> rfl

theorem readNext?_of_end {c : Connection} (hc : s.script.connections[n]? = some c)
    (h : c.unread = []) (hclosed : c.isOpen = false) :
    s.readNext? loader n decoder = some (s.digest loader n decoder none) := by
  simp [readNext?, hc, h, hclosed, digest]

theorem readNext?_eq_none (h : s.hasNext n = false) : s.readNext? loader n decoder = none := by
  unfold readNext?
  cases hc : s.script.connections[n]? with
  | none => rfl
  | some c =>
    rw [hasNext, hc, Option.any_some, Bool.or_eq_false_iff] at h
    have hunread : c.unread = [] := by simpa using h.1
    have hopen : c.isOpen = true := by simpa using h.2
    simp only [hunread, hopen, if_true]

/-- While a connection is being read, a turn reads if it gets to it, and gives the attempt up if
eligibility is lost. -/
theorem perform_link_of_reading (htask : s.task = .running loader (.reading n decoder)) :
    s.perform (.link p)
      = if s.isEligible || p = .stream then
          (s.readNext? loader n decoder).getD (if s.isEligible then s else s.release loader)
        else s.release loader := by
  rw [perform_link htask, linkStep?]
  cases s.isEligible <;> cases p <;> cases s.readNext? loader n decoder <;> rfl

/-- A turn that takes nothing is one without anything to take, or one that gives the attempt up. -/
theorem perform_link_of_not_takes (htask : s.task = .running loader (.reading n decoder))
    (h : s.takes n (.link p) = false) :
    s.perform (.link p) = if s.isEligible then s else s.release loader := by
  have hreads : s.task.reading? = some n := by
    rw [htask]
    rfl
  rw [perform_link_of_reading htask]
  split
  next hmay =>
    have hnone : s.hasNext n = false := by simpa [takes, hreads, hmay] using h
    rw [readNext?_eq_none hnone]
    rfl
  next hmay =>
    have heligible : s.isEligible = false := by
      rw [Bool.or_eq_true, not_or] at hmay
      exact Bool.eq_false_iff.mpr hmay.1
    rw [heligible]
    rfl

theorem exists_connection_of_takes (h : s.takes n (.link p) = true) :
    ∃ c, s.script.connections[n]? = some c := by
  rw [takes, Bool.and_eq_true, hasNext] at h
  obtain ⟨c, hc, -⟩ := (Option.any_eq_true _ _).mp h.2
  exact ⟨c, hc⟩

theorem perform_link_of_takes (htask : s.task = .running loader (.reading n decoder))
    (h : s.takes n (.link p) = true) :
    s.perform (.link p)
      = (s.readNext? loader n decoder).getD (if s.isEligible then s else s.release loader) := by
  rw [takes, Bool.and_eq_true, Bool.and_eq_true] at h
  rw [perform_link_of_reading htask, if_pos h.1.2]

/-- What is taken is what comes first on the connection. -/
theorem perform_link_of_unread (htask : s.task = .running loader (.reading n decoder))
    (h : s.takes n (.link p) = true) {c : Connection} {d : Delivery} {unread : List Delivery}
    (hc : s.script.connections[n]? = some c) (hunread : c.unread = d :: unread) :
    s.perform (.link p) = (s.consume n unread).digest loader n decoder (some d) := by
  rw [perform_link_of_takes htask h, readNext?_of_unread hc hunread]
  rfl

/-- Where nothing is unread, it is the end that is taken. -/
theorem perform_link_of_end (htask : s.task = .running loader (.reading n decoder))
    (h : s.takes n (.link p) = true) {c : Connection} (hc : s.script.connections[n]? = some c)
    (hunread : c.unread = []) : s.perform (.link p) = s.digest loader n decoder none := by
  have hclosed : c.isOpen = false := by
    rw [takes, Bool.and_eq_true, hasNext, hc, Option.any_some, hunread] at h
    simpa using h.2
  rw [perform_link_of_takes htask h, readNext?_of_end hc hunread hclosed]
  rfl

/-! ## What happens to connections -/

theorem dropConnection_eq_self (h : s.task.reading? = none) : s.dropConnection = s := by
  unfold dropConnection
  split
  next htask =>
    rw [htask] at h
    cases h
  next => rfl

theorem connections_dropConnection (h : s.task.reading? = some n) :
    s.dropConnection.script.connections
      = s.script.connections.modify n Connection.leave := by
  obtain ⟨loader, decoder, htask⟩ := Task.exists_of_reading? h
  simp only [dropConnection, htask]
  rfl

theorem connections_endAttempt (s : Session) (loader : Loader) (ending : Ending) :
    (s.endAttempt loader ending).script.connections = s.dropConnection.script.connections := by
  cases ending <;> rfl

theorem connections_applyChunk (s : Session) (loader : Loader) (n : Nat) (decoder : Decoder)
    (octets : List UInt8) :
    (s.applyChunk loader n decoder octets).script.connections = s.script.connections := by
  unfold applyChunk
  split <;> rfl

theorem connections_openStream (htask : s.task = .running loader .parked) :
    (s.openStream loader).script.connections = s.script.connections := by
  unfold openStream
  dsimp only
  split
  next =>
    rw [connections_endAttempt, dropConnection_eq_self]
    exact congrArg Task.reading? htask
  next => rfl

/-- Only the server and the one who reads change what is on a connection. -/
theorem connections_perform (hserve : ∀ order, a ≠ .serve order)
    (h : s.task.reading? = none ∨ a ≠ .stop ∧ ∀ p, a ≠ .link p) :
    (s.perform a).script.connections = s.script.connections := by
  -- only the server adds to connections, and only who reads one takes from it or gives it up
  cases a with
  | load =>
    rcases s.perform_load_cases with hsame | ⟨loader, link, htask, hwork⟩
    · rw [hsame]
    · generalize s.perform .load = s' at hwork
      cases hwork <;> rfl
  | link p =>
    have hreads : s.task.reading? = none := h.elim id fun h => absurd rfl (h.2 p)
    rcases s.perform_link_cases p with hsame | ⟨loader, link, htask, hwork⟩
    · rw [hsame]
    · generalize s.perform (.link p) = s' at hwork
      rw [htask] at hreads
      cases hwork with
      | connect => exact connections_openStream htask
      | reject =>
        rw [connections_endAttempt, dropConnection_eq_self]
        exact congrArg Task.reading? htask
      | release =>
        show s.dropConnection.script.connections = _
        rw [dropConnection_eq_self (htask ▸ hreads)]
      | read | breakOff | close => cases hreads
      | accept | wake | rearm => rfl
  | start =>
    rcases s.perform_start_cases with hsame | ⟨-, hstarted⟩
    · rw [hsame]
    · rw [hstarted]
  | stop =>
    have hreads : s.task.reading? = none := h.elim id fun h => absurd rfl h.1
    show s.dropConnection.script.connections = _
    rw [dropConnection_eq_self hreads]
  | signal signal =>
    show (s.signal signal).script.connections = _
    unfold Session.signal
    split <;> rfl
  | serve order => exact absurd rfl (hserve order)
  | dropHost | draw | pass | schedule => rfl

/-- Two scripts have equally many connections, and each is to the other's as is said. -/
structure Matches (P : Nat → Connection → Connection → Prop) (cs ds : List Connection) : Prop where
  length : cs.length = ds.length
  each : ∀ n c d, cs[n]? = some c → ds[n]? = some d → P n c d

namespace Matches

variable {P Q : Nat → Connection → Connection → Prop} {cs ds : List Connection}

theorem imp (h : Matches P cs ds) (himp : ∀ n c d, P n c d → Q n c d) : Matches Q cs ds :=
  ⟨h.length, fun n c d hc hd => himp n c d (h.each n c d hc hd)⟩

theorem symm (h : Matches P cs ds) (hsymm : ∀ n c d, P n c d → Q n d c) : Matches Q ds cs :=
  ⟨h.length.symm, fun n d c hd hc => hsymm n c d (h.each n c d hc hd)⟩

theorem modify (h : Matches P cs ds) (n : Nat) {f g : Connection → Connection}
    (hn : ∀ c d, cs[n]? = some c → ds[n]? = some d → Q n (f c) (g d))
    (himp : ∀ m c d, m ≠ n → P m c d → Q m c d) : Matches Q (cs.modify n f) (ds.modify n g) := by
  refine ⟨by simpa using h.length, fun m c d hc hd => ?_⟩
  rw [List.getElem?_modify] at hc hd
  obtain ⟨c', hc', rfl⟩ := Option.map_eq_some_iff.mp hc
  obtain ⟨d', hd', rfl⟩ := Option.map_eq_some_iff.mp hd
  by_cases hmn : n = m
  · subst hmn
    rw [if_pos rfl, if_pos rfl]
    exact hn c' d' hc' hd'
  · rw [if_neg hmn, if_neg hmn]
    exact himp m c' d' (Ne.symm hmn) (h.each m c' d' hc' hd')

/-- A list and the list with one connection changed. -/
theorem of_modify (n : Nat) {f : Connection → Connection}
    (hn : ∀ c, cs[n]? = some c → P n c (f c)) (hother : ∀ m c, m ≠ n → P m c c) :
    Matches P cs (cs.modify n f) := by
  have hself : Matches (fun _ c d => c = d) cs cs :=
    ⟨rfl, fun m c d hc hd => Option.some.inj (hc.symm.trans hd)⟩
  have hmodify : Matches P (cs.modify n id) (cs.modify n f) := by
    refine hself.modify n (fun c d hc hd => ?_) fun m c d hmn hcd => hcd ▸ hother m c hmn
    rw [Option.some.inj (hc.symm.trans hd)]
    exact hn d hd
  rwa [List.modify_id] at hmodify

theorem concat (h : Matches P cs ds) {c d : Connection} (hnew : P cs.length c d) :
    Matches P (cs ++ [c]) (ds ++ [d]) := by
  refine ⟨by simpa using h.length, fun m c' d' hc hd => ?_⟩
  rcases Nat.lt_or_ge m cs.length with hlt | hge
  · rw [List.getElem?_append_left hlt] at hc
    rw [List.getElem?_append_left (h.length ▸ hlt)] at hd
    exact h.each m c' d' hc hd
  · rw [List.getElem?_append_right hge] at hc
    rw [List.getElem?_append_right (h.length ▸ hge), ← h.length] at hd
    have hlt : m - cs.length < 1 := (List.getElem?_eq_some_iff.mp hc).1
    obtain rfl : m = cs.length := by omega
    rw [Nat.sub_self, List.getElem?_cons_zero] at hc hd
    cases hc
    cases hd
    exact hnew

end Matches

/-! ## Two sessions side by side -/

theorem takes_of_not_link (h : ∀ p, a ≠ .link p) : s.takes n a = false := by
  cases a with
  | link p => exact absurd rfl (h p)
  | _ => rfl

theorem takes_of_reading?_ne (h : s.task.reading? ≠ some n) : s.takes n a = false := by
  cases a with
  | link p => simp [takes, h]
  | _ => rfl

theorem takes_iff {c : Connection} (hc : s.script.connections[n]? = some c)
    (hreads : s.task.reading? = some n) :
    s.takes n (.link p) = true
      ↔ (s.isEligible = true ∨ p = .stream) ∧ (c.unread ≠ [] ∨ c.isOpen = false) := by
  simp [takes, hasNext, hc, hreads]

/-- Two sessions that look the same, with connections that are to each other as is said. -/
structure Agree (P : Nat → Connection → Connection → Prop) (s t : Session) : Prop where
  outward : s.outward = t.outward
  connections : Matches P s.script.connections t.script.connections

namespace Agree

variable {P Q : Nat → Connection → Connection → Prop}

theorem imp (h : Agree P s t) (himp : ∀ m c d, P m c d → Q m c d) : Agree Q s t :=
  ⟨h.outward, h.connections.imp himp⟩

/-- The connection that is read is given up in both. -/
theorem drop (h : Agree P s t) (hreads : s.task.reading? = some n)
    (himp : ∀ m c d, m ≠ n → P m c d → Q m c d)
    (hleave : ∀ c d, P n c d → Q n c.leave d.leave) :
    Matches Q s.dropConnection.script.connections t.dropConnection.script.connections := by
  rw [connections_dropConnection hreads,
    connections_dropConnection (task_of_outward h.outward ▸ hreads)]
  exact h.connections.modify n (fun c d hc hd => hleave c d (h.connections.each n c d hc hd)) himp

/-- An action other than a turn of the link that reads. -/
theorem perform (h : Agree P s t) (ha : ∀ p, a = .link p → s.task.reading? = none)
    (hobey : ∀ order, Matches P (s.script.obey order).connections
      (t.script.obey order).connections)
    (hleave : ∀ m c d, P m c d → P m c.leave d.leave) : Agree P (s.perform a) (t.perform a) := by
  refine ⟨outward_perform_congr h.outward h.connections.length ha, ?_⟩
  have htask := task_of_outward h.outward
  have hkept : (∀ order, a ≠ .serve order) →
      (s.task.reading? = none ∨ a ≠ .stop ∧ ∀ p, a ≠ .link p) →
      Matches P (s.perform a).script.connections (t.perform a).script.connections := by
    intro hserve hidle
    rw [connections_perform hserve hidle, connections_perform hserve (htask ▸ hidle)]
    exact h.connections
  cases a with
  | serve order => exact hobey order
  | stop =>
    cases hreads : s.task.reading? with
    | none => exact hkept (fun _ => nofun) (Or.inl hreads)
    | some n => exact h.drop hreads (fun _ _ _ _ => id) (hleave n)
  | link p => exact hkept (fun _ => nofun) (Or.inl (ha p rfl))
  | load | start | signal | dropHost | draw | pass | schedule =>
    exact hkept (fun _ => nofun) (Or.inr ⟨nofun, fun _ => nofun⟩)

/-- A turn of the link that takes nothing in either. -/
theorem link_of_not_takes (h : Agree P s t) (htask : s.task = .running loader (.reading n decoder))
    (hs : s.takes n (.link p) = false) (ht : t.takes n (.link p) = false)
    (hleave : ∀ c d, P n c d → P n c.leave d.leave) :
    Agree P (s.perform (.link p)) (t.perform (.link p)) := by
  rw [perform_link_of_not_takes htask hs,
    perform_link_of_not_takes (task_of_outward h.outward ▸ htask) ht,
    isEligible_of_outward h.outward]
  split
  next => exact h
  next =>
    exact ⟨outward_release h.outward loader,
      h.drop (congrArg Task.reading? htask) (fun _ _ _ _ => id) hleave⟩

/-- A turn of the link that takes the same in both. -/
theorem link_of_unread (h : Agree P s t) (htask : s.task = .running loader (.reading n decoder))
    (hs : s.takes n (.link p) = true) (ht : t.takes n (.link p) = true) {c d : Connection}
    (hc : s.script.connections[n]? = some c) (hd : t.script.connections[n]? = some d)
    {x : Delivery} {us vs : List Delivery} (hcunread : c.unread = x :: us)
    (hdunread : d.unread = x :: vs) (himp : ∀ m c d, m ≠ n → P m c d → Q m c d)
    (hnext : Q n { c with unread := us } { d with unread := vs })
    (hleave : ∀ c d, Q n c d → Q n c.leave d.leave) :
    Agree Q (s.perform (.link p)) (t.perform (.link p)) := by
  have hconsumed : Agree Q (s.consume n us) (t.consume n vs) := by
    refine ⟨h.outward, h.connections.modify n (fun c' d' hc' hd' => ?_) himp⟩
    rw [← Option.some.inj (hc.symm.trans hc'), ← Option.some.inj (hd.symm.trans hd')]
    exact hnext
  rw [perform_link_of_unread htask hs hc hcunread,
    perform_link_of_unread (task_of_outward h.outward ▸ htask) ht hd hdunread]
  refine ⟨outward_digest hconsumed.outward loader n decoder _, ?_⟩
  cases x with
  | chunk octets =>
    rw [digest, digest, connections_applyChunk, connections_applyChunk]
    exact hconsumed.connections
  | failure cause =>
    rw [digest, digest, connections_endAttempt, connections_endAttempt]
    exact hconsumed.drop (congrArg Task.reading? htask) (fun _ _ _ _ => id) hleave

/-- A turn of the link that comes to the end in both. -/
theorem link_of_end (h : Agree P s t) (htask : s.task = .running loader (.reading n decoder))
    (hs : s.takes n (.link p) = true) (ht : t.takes n (.link p) = true) {c d : Connection}
    (hc : s.script.connections[n]? = some c) (hd : t.script.connections[n]? = some d)
    (hcunread : c.unread = []) (hdunread : d.unread = [])
    (himp : ∀ m c d, m ≠ n → P m c d → Q m c d)
    (hleave : ∀ c d, P n c d → Q n c.leave d.leave) :
    Agree Q (s.perform (.link p)) (t.perform (.link p)) := by
  rw [perform_link_of_end htask hs hc hcunread,
    perform_link_of_end (task_of_outward h.outward ▸ htask) ht hd hdunread]
  refine ⟨outward_digest h.outward loader n decoder _, ?_⟩
  rw [digest, digest, connections_endAttempt, connections_endAttempt]
  exact h.drop (congrArg Task.reading? htask) himp hleave

end Agree

end Session

end ActivityFeed
