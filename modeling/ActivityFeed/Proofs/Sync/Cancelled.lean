import ActivityFeed.Proofs.Sync.Outward

/-!
# Attempts that have been cancelled

An attempt that reads a connection has not been cancelled. What cancels it gives the connection up
in the same action (`perform_of_isCancelled`), whatever the decoder has kept, and a connection that
has been given up is never taken from again (`taken_eq_zero`): neither what was unread, nor what
comes later, nor its end.
-/

namespace ActivityFeed

namespace Session

variable {s : Session} {n : Nat} {a : Action} {p : Precedence} {loader : Loader} {decoder : Decoder}

/-- How many things a run takes from a connection. -/
def taken (n : Nat) : Session → List Action → Nat
  | _, [] => 0
  | s, a :: as => (if s.takes n a then 1 else 0) + taken n (s.perform a) as

/-- Whether the newest attempt has been cancelled. -/
def isCancelled (s : Session) : Bool :=
  s.script.attempts.getLast?.any Attempt.isCancelled

/-- Nobody holds a connection any more. -/
def IsGone (connections : List Connection) (n : Nat) : Prop :=
  ∃ c, connections[n]? = some c ∧ c.isHeld = false

theorem IsGone.modify {cs : List Connection} (h : IsGone cs n) (m : Nat)
    {f : Connection → Connection} (hf : ∀ c, c.isHeld = false → (f c).isHeld = false) :
    IsGone (cs.modify m f) n := by
  obtain ⟨c, hc, hleft⟩ := h
  rw [IsGone, List.getElem?_modify, hc]
  refine ⟨_, rfl, ?_⟩
  split
  next => exact hf c hleft
  next => exact hleft

theorem IsGone.append {cs : List Connection} (h : IsGone cs n) (ds : List Connection) :
    IsGone (cs ++ ds) n := by
  obtain ⟨c, hc, hleft⟩ := h
  exact ⟨c, by rw [List.getElem?_append_left (List.getElem?_eq_some_iff.mp hc).1, hc], hleft⟩

theorem IsGone.dropConnection (h : IsGone s.script.connections n) :
    IsGone s.dropConnection.script.connections n := by
  unfold Session.dropConnection
  split
  next m _ _ => exact h.modify m fun _ _ => rfl
  next => exact h

theorem IsGone.endAttempt (h : IsGone s.script.connections n) (ending : Ending) :
    IsGone (s.endAttempt loader ending).script.connections n := by
  rw [connections_endAttempt]
  exact h.dropConnection

theorem IsGone.obey {script : Script} (h : IsGone script.connections n) (order : Order) :
    IsGone (script.obey order).connections n := by
  cases order with
  | connect => exact h.append _
  | deliver m x =>
    rw [Script.obey, Script.deliver_eq]
    exact h.modify m fun c hc => c.isHeld_receive x ▸ hc
  | close m => exact h.modify m fun _ hc => hc
  | reject | prepare | snapshot | delaySnapshot => exact h

theorem LinkWork.isGone {s' : Session} {link : Link} (hwork : LinkWork s loader link s')
    (h : IsGone s.script.connections n) : IsGone s'.script.connections n := by
  cases hwork with
  | connect =>
    unfold openStream
    dsimp only
    split
    next =>
      refine IsGone.endAttempt ?_ _
      exact h
    next => exact h
  | reject =>
    refine IsGone.endAttempt ?_ _
    exact h
  | @read m _ _ _ unread =>
    rw [connections_applyChunk]
    exact h.modify m fun _ hc => hc
  | @breakOff m =>
    refine IsGone.endAttempt ?_ _
    exact h.modify m fun _ hc => hc
  | close => exact h.endAttempt _
  | release => exact h.dropConnection
  | accept | wake | rearm => exact h

/-- What has been given up stays so. -/
theorem IsGone.perform (h : IsGone s.script.connections n) (a : Action) :
    IsGone (s.perform a).script.connections n := by
  cases a with
  | link p =>
    rcases s.perform_link_cases p with hsame | ⟨loader, link, -, hwork⟩
    · rwa [hsame]
    · exact hwork.isGone h
  | serve order => exact h.obey order
  | stop => exact h.dropConnection
  | load | start | signal | dropHost | draw | pass | schedule =>
    rw [connections_perform]
    · exact h
    · exact fun _ => nofun
    · exact Or.inr ⟨nofun, fun _ => nofun⟩

/-- Nothing is taken from a connection that has been given up. -/
theorem taken_eq_zero (hwired : Wired s) (h : IsGone s.script.connections n) (as : List Action) :
    taken n s as = 0 := by
  induction as generalizing s with
  | nil => rfl
  | cons a as ih =>
    have hunread : s.task.reading? ≠ some n := by
      intro hreads
      obtain ⟨c, hc, hheld⟩ := hwired.exists_connection hreads
      obtain ⟨c', hc', hleft⟩ := h
      cases hc.symm.trans hc'
      simp [hleft] at hheld
    rw [taken, takes_of_reading?_ne hunread, if_neg Bool.false_ne_true, Nat.zero_add]
    exact ih (perform_wired hwired a) (h.perform a)

/-- While a connection is being read, the newest attempt has not been cancelled. -/
theorem Wired.not_isCancelled (h : Wired s) (hreads : s.task.reading? = some n) :
    s.isCancelled = false := by
  have hactive : s.task.isActive = true := by
    obtain ⟨loader, decoder, htask⟩ := Task.exists_of_reading? hreads
    rw [htask]
    rfl
  obtain ⟨before, newest, hattempts, hlive, -⟩ := h.live hactive
  rw [isCancelled, hattempts, List.getLast?_concat]
  exact hlive

theorem isGone_dropConnection {c : Connection} (hreads : s.task.reading? = some n)
    (hc : s.script.connections[n]? = some c) : IsGone s.dropConnection.script.connections n := by
  rw [connections_dropConnection hreads, IsGone, List.getElem?_modify, hc]
  exact ⟨_, rfl, by simp [Connection.leave]⟩

theorem attempts_perform (hlink : ∀ p, a ≠ .link p) (hstop : a ≠ .stop) :
    (s.perform a).script.attempts = s.script.attempts := by
  cases a with
  | load =>
    rcases s.perform_load_cases with hsame | ⟨loader, link, htask, hwork⟩
    · rw [hsame]
    · exact (hwork.stays htask).attempts
  | start =>
    rcases s.perform_start_cases with hsame | ⟨-, hstarted⟩
    · rw [hsame]
    · rw [hstarted]
  | signal signal =>
    show (s.signal signal).script.attempts = _
    unfold Session.signal
    split <;> rfl
  | serve order =>
    cases order with
    | deliver n d => exact Scenario.attempts_deliver s.script n d
    | _ => rfl
  | link p => exact absurd rfl (hlink p)
  | stop => exact absurd rfl hstop
  | dropHost | draw | pass | schedule => rfl

/-- What is taken from a connection does not depend on the decoder. -/
theorem takes_of_decoder (htask : s.task = .running loader (.reading n decoder)) (other : Decoder)
    (a : Action) :
    takes { s with task := .running loader (.reading n other) } n a = s.takes n a := by
  cases a with
  | link p => simp only [takes, htask]; rfl
  | _ => rfl

theorem release_of_decoder (htask : s.task = .running loader (.reading n decoder))
    (other : Decoder) :
    release { s with task := .running loader (.reading n other) } loader = s.release loader := by
  simp only [release, dropConnection, htask]

/-- What is left of an attempt that has ended does not depend on the decoder. -/
theorem endAttempt_of_decoder (htask : s.task = .running loader (.reading n decoder))
    (other : Decoder) (ending : Ending) :
    endAttempt { s with task := .running loader (.reading n other) } loader ending
      = s.endAttempt loader ending := by
  cases ending <;> simp only [endAttempt, dropConnection, htask] <;> rfl

/-- A step of the link that touches the attempts ends this one, so that it gives up its connection,
and the decoder is of no account. -/
theorem perform_link_of_attempts_ne {p : Precedence}
    (htask : s.task = .running loader (.reading n decoder)) {c : Connection}
    (hc : s.script.connections[n]? = some c)
    (h : (s.perform (.link p)).script.attempts ≠ s.script.attempts) :
    IsGone (s.perform (.link p)).script.connections n
      ∧ ∀ other, perform { s with task := .running loader (.reading n other) } (.link p)
        = s.perform (.link p) := by
  have hreads : s.task.reading? = some n := by
    rw [htask]
    rfl
  have hgone := isGone_dropConnection hreads hc
  have hother : ∀ other, takes { s with task := .running loader (.reading n other) } n (.link p)
      = s.takes n (.link p) := fun other => takes_of_decoder htask other _
  -- attempts change at a release or at the end of an attempt, and neither looks at the decoder
  cases htakes : s.takes n (.link p) with
  | false =>
    have hperform := perform_link_of_not_takes htask htakes
    by_cases heligible : s.isEligible = true
    · rw [if_pos heligible] at hperform
      exact absurd (by rw [hperform]) h
    · rw [if_neg heligible] at hperform
      refine ⟨by rw [hperform]; exact hgone, fun other => ?_⟩
      rw [perform_link_of_not_takes rfl ((hother other).trans htakes), hperform]
      exact (if_neg heligible).trans (release_of_decoder htask other)
  | true =>
    cases hunread : c.unread with
    | nil =>
      rw [perform_link_of_end htask htakes hc hunread]
      refine ⟨by rw [digest, connections_endAttempt]; exact hgone, fun other => ?_⟩
      rw [perform_link_of_end rfl ((hother other).trans htakes) hc hunread]
      exact endAttempt_of_decoder htask other .closed
    | cons d unread =>
      have hperform := perform_link_of_unread htask htakes hc hunread
      cases d with
      | chunk octets =>
        have hattempts := (stays_applyChunk (s.consume n unread) htask octets).attempts
        exact absurd (by rw [hperform]; exact hattempts) h
      | failure cause =>
        have hconsumed :
            (s.consume n unread).script.connections[n]? = some { c with unread } := by
          simp [consume, Script.modifyConnection, hc]
        rw [hperform]
        refine ⟨?_, fun other => ?_⟩
        · rw [digest, connections_endAttempt]
          exact isGone_dropConnection hreads hconsumed
        · rw [perform_link_of_unread rfl ((hother other).trans htakes) hc hunread]
          exact endAttempt_of_decoder (s := s.consume n unread) htask other _

/-- What cancels the attempt gives up its connection, and the decoder is of no account. -/
theorem perform_of_isCancelled (hwired : Wired s)
    (htask : s.task = .running loader (.reading n decoder))
    (h : (s.perform a).isCancelled = true) :
    IsGone (s.perform a).script.connections n
      ∧ ∀ other, perform { s with task := .running loader (.reading n other) } a = s.perform a := by
  have hreads : s.task.reading? = some n := by
    rw [htask]
    rfl
  have hlive := hwired.not_isCancelled hreads
  -- whatever leaves the attempts alone does not cancel one
  have hkept : (s.perform a).script.attempts ≠ s.script.attempts := by
    intro hattempts
    rw [isCancelled, hattempts] at h
    rw [isCancelled, h] at hlive
    cases hlive
  obtain ⟨c, hc, -⟩ := hwired.exists_connection hreads
  by_cases hstop : a = .stop
  · subst hstop
    exact ⟨isGone_dropConnection hreads hc,
      fun other => by simp only [perform, stop, dropConnection, htask]⟩
  by_cases hlink : ∃ p, a = .link p
  · obtain ⟨p, rfl⟩ := hlink
    exact perform_link_of_attempts_ne htask hc hkept
  · exact absurd (attempts_perform (fun p hp => hlink ⟨p, hp⟩) hstop) hkept

end Session

end ActivityFeed
