import ActivityFeed.Proofs.Sync.Cancelled

/-!
# What is left unread is never seen

Two runs are compared in which every choice is the same, except that the server sends on some
connection, or ends it, in one run and not in the other, or sends different things. As long as all
of that is left unread, the runs look the same from outside (`trace_eq_of_differ`), action by
action.

That is the case for everything that is sent once an attempt has been cancelled, however that came
about: nothing is taken from its connection any more. It is also the case for what was sent before
and was still unread when the attempt was cancelled, and this is why a turn that finds eligibility
lost gives the attempt up alike whether something had come or not. What the decoder had kept of the
octets before goes with the attempt.

The two sessions of such a pair of runs agree on each connection up to a point beyond which one of
them reads nothing (`Parted`). It is there that the other one has to behave as if there were nothing
to read either.
-/

namespace ActivityFeed

namespace Session

variable {s t : Session} {n : Nat} {a b : Action} {as bs : List Action} {c d : Connection}

/-- How many things wait on a connection. -/
def unreadOn (s : Session) (n : Nat) : Nat :=
  (s.script.connections[n]?.map fun c => c.unread.length).getD 0

/-- What an action of the server brings is left unread for the rest of the run: no more is taken
than what waited before. -/
inductive LeftUnread (s : Session) (as : List Action) : Action → Prop
  /-- Nothing happens. -/
  | idle : LeftUnread s as (.pass 0)
  | deliver (n : Nat) (d : Delivery)
      (h : taken n (s.perform (.serve (.deliver n d))) as ≤ s.unreadOn n) :
    LeftUnread s as (.serve (.deliver n d))
  | close (n : Nat) (h : taken n (s.perform (.serve (.close n))) as ≤ s.unreadOn n) :
    LeftUnread s as (.serve (.close n))

/-- Two runs with the same choices, except for what is left unread. -/
inductive Differ : Session → List Action → Session → List Action → Prop
  | done (s t : Session) : Differ s [] t []
  | both {s t : Session} {as bs : List Action} (a : Action)
      (h : Differ (s.perform a) as (t.perform a) bs) : Differ s (a :: as) t (a :: bs)
  | apart {s t : Session} {as bs : List Action} {a b : Action} (ha : LeftUnread s as a)
      (hb : LeftUnread t bs b) (h : Differ (s.perform a) as (t.perform b) bs) :
    Differ s (a :: as) t (b :: bs)

/-- How a run looks from outside, at its start and after each action. -/
def trace (s : Session) : List Action → List Session
  | [] => [s.outward]
  | a :: as => s.outward :: (s.perform a).trace as

/-! ## Connections of two runs -/

/-- Nothing beyond the first `k` things on a connection is taken, though there is something. -/
structure Hidden (s : Session) (as : List Action) (n : Nat) (c : Connection) (k : Nat) : Prop where
  untaken : taken n s as ≤ k
  present : k < c.unread.length ∨ c.isOpen = false

/-- How one connection may differ between two runs. -/
inductive Parted (s : Session) (as : List Action) (t : Session) (bs : List Action) (n : Nat)
    (c d : Connection) : Prop
  /-- Nobody reads it any more. -/
  | released (hc : c.isHeld = false) (hd : d.isHeld = false)
  /-- What is not shared is not read in one of the runs. -/
  | hidden (shared us vs : List Delivery) (hc : c.unread = shared ++ us)
      (hd : d.unread = shared ++ vs)
      (h : Hidden s as n c shared.length ∨ Hidden t bs n d shared.length)

/-- One connection in two runs. -/
def Alike (s : Session) (as : List Action) (t : Session) (bs : List Action) (n : Nat)
    (c d : Connection) : Prop :=
  c = d ∨ Parted s as t bs n c d

/-- Something has come to a connection, or it has ended, or neither. -/
structure Grows (c c' : Connection) : Prop where
  unread : ∃ more, c'.unread = c.unread ++ more
  closed : c.isOpen = false → c'.isOpen = false
  held : c'.isHeld = c.isHeld

theorem Grows.refl (c : Connection) : Grows c c := ⟨⟨[], by simp⟩, id, rfl⟩

theorem Grows.receive (c : Connection) (x : Delivery) : Grows c (c.receive x) := by
  unfold Connection.receive
  split
  next => exact ⟨⟨[x], rfl⟩, id, rfl⟩
  next => exact .refl c

theorem Grows.close (c : Connection) : Grows c { c with isOpen := false } :=
  ⟨⟨[], by simp⟩, fun _ => rfl, rfl⟩

theorem Hidden.grow {c' : Connection} {k : Nat} (h : Hidden s as n c k) (hc : Grows c c') :
    Hidden s as n c' k := by
  refine ⟨h.untaken, h.present.imp (fun hk => ?_) hc.closed⟩
  obtain ⟨more, hmore⟩ := hc.unread
  rw [hmore, List.length_append]
  exact Nat.lt_add_right _ hk

theorem Parted.grow {c' d' : Connection} (h : Parted s as t bs n c d) (hc : Grows c c')
    (hd : Grows d d') : Parted s as t bs n c' d' := by
  cases h with
  | released hcheld hdheld => exact .released (hc.held.trans hcheld) (hd.held.trans hdheld)
  | hidden shared us vs hcunread hdunread h =>
    obtain ⟨more, hmore⟩ := hc.unread
    obtain ⟨more', hmore'⟩ := hd.unread
    refine .hidden shared (us ++ more) (vs ++ more') ?_ ?_ (h.imp (·.grow hc) (·.grow hd))
    · rw [hmore, hcunread, List.append_assoc]
    · rw [hmore', hdunread, List.append_assoc]

theorem Parted.symm (h : Parted s as t bs n c d) : Parted t bs s as n d c := by
  cases h with
  | released hc hd => exact .released hd hc
  | hidden shared us vs hc hd h => exact .hidden shared vs us hd hc h.symm

theorem Alike.symm (h : Alike s as t bs n c d) : Alike t bs s as n d c :=
  h.imp Eq.symm Parted.symm

theorem Hidden.shift {k : Nat} (h : Hidden s (a :: as) n c k) (ha : s.takes n a = false) :
    Hidden (s.perform a) as n c k := by
  refine ⟨?_, h.present⟩
  have huntaken := h.untaken
  rwa [taken, ha, if_neg Bool.false_ne_true, Nat.zero_add] at huntaken

theorem Parted.shift (h : Parted s (a :: as) t bs n c d) (ha : s.takes n a = false) :
    Parted (s.perform a) as t bs n c d := by
  cases h with
  | released hc hd => exact .released hc hd
  | hidden shared us vs hc hd h => exact .hidden shared us vs hc hd (h.imp_left (·.shift ha))

theorem Alike.shift (h : Alike s (a :: as) t bs n c d) (ha : s.takes n a = false) :
    Alike (s.perform a) as t bs n c d :=
  h.imp id (·.shift ha)

/-- What comes in one run only is hidden there. -/
theorem Alike.grow_left {c' : Connection} (h : Alike s as t bs n c d) (hgrows : Grows c c')
    (hhidden : c' = c ∨ Hidden s as n c' c.unread.length) : Alike s as t bs n c' d := by
  rcases h with rfl | hparted
  · refine hhidden.imp id fun hhidden => ?_
    obtain ⟨more, hmore⟩ := hgrows.unread
    exact .hidden c.unread more [] hmore (by simp) (Or.inl hhidden)
  · exact Or.inr (hparted.grow hgrows (.refl d))

/-! ## Two runs -/

/-- Two sessions, with what is to come, that look the same and will go on to do so. -/
structure Parallel (s : Session) (as : List Action) (t : Session) (bs : List Action) : Prop
    extends Agree (Alike s as t bs) s t where
  wired : Wired s
  wired' : Wired t

theorem Parallel.symm (h : Parallel s as t bs) : Parallel t bs s as where
  outward := h.outward.symm
  connections := h.connections.symm fun _ _ _ => Alike.symm
  wired := h.wired'
  wired' := h.wired

theorem unreadOn_eq (hc : s.script.connections[n]? = some c) : s.unreadOn n = c.unread.length := by
  rw [unreadOn, hc]
  rfl

/-- An action whose effect is left unread may be done in one of the runs. -/
theorem Parallel.left (h : Parallel s (a :: as) t bs) (ha : LeftUnread s as a) :
    Parallel (s.perform a) as t bs := by
  have hquiet : ∀ m, s.takes m a = false := fun m =>
    takes_of_not_link (by cases ha <;> exact fun _ => nofun)
  have hshift : ∀ m c d, Alike s (a :: as) t bs m c d → Alike (s.perform a) as t bs m c d :=
    fun m c d h => h.shift (hquiet m)
  cases ha with
  | idle => exact ⟨h.toAgree.imp hshift, h.wired, h.wired'⟩
  | deliver n x hleft =>
    refine ⟨⟨?_, ?_⟩, perform_wired h.wired _, h.wired'⟩
    · refine Eq.trans ?_ h.outward
      simp only [perform, Script.obey, Script.deliver_eq]
      rfl
    · show Matches _ (s.script.deliver n x).2.connections _
      rw [Script.deliver_eq, Script.modifyConnection, ← List.modify_id n t.script.connections]
      refine h.connections.modify n (fun c d hc hd => ?_) fun m c d _ => hshift m c d
      refine (hshift n c d (h.connections.each n c d hc hd)).grow_left (.receive c x) ?_
      rw [unreadOn_eq hc] at hleft
      unfold Connection.receive
      split
      next => exact Or.inr ⟨hleft, Or.inl (by simp)⟩
      next => exact Or.inl rfl
  | close n hleft =>
    refine ⟨⟨h.outward, ?_⟩, perform_wired h.wired _, h.wired'⟩
    show Matches _ (s.script.connections.modify n _) _
    rw [← List.modify_id n t.script.connections]
    refine h.connections.modify n (fun c d hc hd => ?_) fun m c d _ => hshift m c d
    refine (hshift n c d (h.connections.each n c d hc hd)).grow_left (.close c) (Or.inr ?_)
    rw [unreadOn_eq hc] at hleft
    exact ⟨hleft, Or.inr rfl⟩

theorem Alike.shift_both (h : Alike s (a :: as) t (a :: bs) n c d) (hs : s.takes n a = false)
    (ht : t.takes n a = false) : Alike (s.perform a) as (t.perform a) bs n c d :=
  ((h.shift hs).symm.shift ht).symm

theorem leave_alike (c d : Connection) : Alike s as t bs n c.leave d.leave :=
  Or.inr (.released rfl rfl)

/-- What the server does in both runs. -/
theorem Alike.obey {script script' : Script}
    (h : Matches (Alike s as t bs) script.connections script'.connections) (order : Order) :
    Matches (Alike s as t bs) (script.obey order).connections (script'.obey order).connections := by
  cases order with
  | connect => exact h.concat (Or.inl rfl)
  | deliver n x =>
    simp only [Script.obey, Script.deliver_eq]
    refine h.modify n (fun c d hc hd => ?_) fun m c d _ h => h
    exact (h.each n c d hc hd).imp (congrArg _) (·.grow (.receive c x) (.receive d x))
  | close n =>
    refine h.modify n (fun c d hc hd => ?_) fun m c d _ h => h
    refine (h.each n c d hc hd).imp (fun hcd => ?_) (·.grow (.close c) (.close d))
    rw [hcd]
  | reject | prepare | snapshot | delaySnapshot => exact h

/-! ## A turn that reads -/

variable {p : Precedence}

/-- Where something hidden comes next, the turn does not get to it. -/
theorem Hidden.not_takes (h : Hidden s (.link p :: as) n c 0)
    (hc : s.script.connections[n]? = some c) (hreads : s.task.reading? = some n) :
    ¬ (s.isEligible = true ∨ p = .stream) := by
  intro hmay
  have hthere : c.unread ≠ [] ∨ c.isOpen = false := h.present.imp_left List.ne_nil_of_length_pos
  have huntaken := h.untaken
  rw [taken, (takes_iff hc hreads).mpr ⟨hmay, hthere⟩, if_pos rfl] at huntaken
  omega

/-- A turn that takes something in one of the runs does so in the other. -/
theorem Alike.takes_eq (h : Alike s (.link p :: as) t (.link p :: bs) n c d)
    (hlooks : s.outward = t.outward) (hreads : s.task.reading? = some n)
    (hc : s.script.connections[n]? = some c) (hd : t.script.connections[n]? = some d)
    (hheld : c.isHeld = true) : s.takes n (.link p) = t.takes n (.link p) := by
  have hreads' : t.task.reading? = some n := task_of_outward hlooks ▸ hreads
  rw [Bool.eq_iff_iff, takes_iff hc hreads, takes_iff hd hreads', isEligible_of_outward hlooks]
  refine and_congr_right fun hmay => ?_
  rcases h with rfl | hparted
  · rfl
  · cases hparted with
    | released hreleased => simp [hreleased] at hheld
    | hidden shared us vs hcunread hdunread hhidden =>
      cases shared with
      | nil =>
        rcases hhidden with hhidden | hhidden
        · exact absurd (isEligible_of_outward hlooks ▸ hmay) (hhidden.not_takes hc hreads)
        · exact absurd hmay (hhidden.not_takes hd hreads')
      | cons x shared => simp [hcunread, hdunread]

theorem Hidden.next {k : Nat} {x : Delivery} {us : List Delivery}
    (h : Hidden s (a :: as) n c (k + 1)) (hs : s.takes n a = true) (hc : c.unread = x :: us) :
    Hidden (s.perform a) as n { c with unread := us } k := by
  have huntaken := h.untaken
  have hpresent := h.present
  rw [taken, hs, if_pos rfl] at huntaken
  rw [hc, List.length_cons] at hpresent
  exact ⟨by omega, hpresent.imp_left Nat.lt_of_succ_lt_succ⟩

/-- What a turn takes in both runs is the same, and so is what it leaves, as far as it is read. -/
theorem Alike.next (h : Alike s (a :: as) t (a :: bs) n c d) (hs : s.takes n a = true)
    (ht : t.takes n a = true) (hheld : c.isHeld = true) :
    (∃ x us vs, c.unread = x :: us ∧ d.unread = x :: vs
      ∧ Alike (s.perform a) as (t.perform a) bs n { c with unread := us } { d with unread := vs })
    ∨ c.unread = [] ∧ d.unread = [] := by
  rcases h with rfl | hparted
  · cases hunread : c.unread with
    | nil => exact Or.inr ⟨rfl, rfl⟩
    | cons x us => exact Or.inl ⟨x, us, us, rfl, rfl, Or.inl rfl⟩
  · cases hparted with
    | released hreleased => simp [hreleased] at hheld
    | hidden shared us vs hc hd hhidden =>
      cases shared with
      | nil =>
        have hnone : ∀ {u : Session} {cs : List Action}, u.takes n a = true →
            ¬ taken n u (a :: cs) ≤ 0 := by
          intro u cs hu
          rw [taken, hu, if_pos rfl]
          omega
        exact absurd hhidden (not_or_intro (hnone hs ·.untaken) (hnone ht ·.untaken))
      | cons x shared =>
        refine Or.inl ⟨x, shared ++ us, shared ++ vs, hc, hd, Or.inr ?_⟩
        exact .hidden shared us vs rfl rfl (hhidden.imp (·.next hs hc) (·.next ht hd))

/-- A turn that reads, in both runs. -/
theorem Parallel.agree_link (h : Parallel s (.link p :: as) t (.link p :: bs))
    (hreads : s.task.reading? = some n) :
    Agree (Alike (s.perform (.link p)) as (t.perform (.link p)) bs) (s.perform (.link p))
      (t.perform (.link p)) := by
  have htask := task_of_outward h.outward
  obtain ⟨loader, decoder, hs⟩ := Task.exists_of_reading? hreads
  obtain ⟨c, hc, hheld⟩ := h.wired.exists_connection hreads
  obtain ⟨d, hd, -⟩ := h.wired'.exists_connection (htask ▸ hreads)
  have halike := h.connections.each n c d hc hd
  have htakes := halike.takes_eq h.outward hreads hc hd hheld
  have hothers : ∀ m c d, m ≠ n → Alike s (.link p :: as) t (.link p :: bs) m c d →
      Alike (s.perform (.link p)) as (t.perform (.link p)) bs m c d := by
    intro m c d hmn hm
    have hother : s.task.reading? ≠ some m := fun h => hmn (Option.some.inj (h.symm.trans hreads))
    exact hm.shift_both (takes_of_reading?_ne hother) (takes_of_reading?_ne (htask ▸ hother))
  cases hcase : s.takes n (.link p) with
  | false =>
    have hcase' := htakes.symm.trans hcase
    refine Agree.link_of_not_takes (h.toAgree.imp fun m c d hm => ?_) hs hcase hcase'
      fun c d _ => leave_alike c d
    by_cases hmn : m = n
    · exact hmn ▸ (hmn ▸ hm).shift_both hcase hcase'
    · exact hothers m c d hmn hm
  | true =>
    have hcase' := htakes.symm.trans hcase
    rcases halike.next hcase hcase' hheld with ⟨x, us, vs, hcunread, hdunread, hnext⟩ | hend
    · exact h.toAgree.link_of_unread hs hcase hcase' hc hd hcunread hdunread hothers hnext
        fun c d _ => leave_alike c d
    · exact h.toAgree.link_of_end hs hcase hcase' hc hd hend.1 hend.2 hothers
        fun c d _ => leave_alike c d

/-- An action that is done in both runs. -/
theorem Parallel.both (h : Parallel s (a :: as) t (a :: bs)) :
    Parallel (s.perform a) as (t.perform a) bs := by
  refine ⟨?_, perform_wired h.wired a, perform_wired h.wired' a⟩
  by_cases hreading : ∃ p n, a = .link p ∧ s.task.reading? = some n
  · obtain ⟨p, n, rfl, hreads⟩ := hreading
    exact h.agree_link hreads
  · have hidle : ∀ p, a = .link p → s.task.reading? = none := fun p hp =>
      Option.eq_none_iff_forall_ne_some.mpr fun n hreads => hreading ⟨p, n, hp, hreads⟩
    have hquiet : ∀ m, s.takes m a = false ∧ t.takes m a = false := by
      intro m
      by_cases hlink : ∃ p, a = .link p
      · obtain ⟨p, rfl⟩ := hlink
        have hother : s.task.reading? ≠ some m := by simp [hidle p rfl]
        exact ⟨takes_of_reading?_ne hother,
          takes_of_reading?_ne (task_of_outward h.outward ▸ hother)⟩
      · exact ⟨takes_of_not_link fun p hp => hlink ⟨p, hp⟩,
          takes_of_not_link fun p hp => hlink ⟨p, hp⟩⟩
    have hagree := h.toAgree.imp fun m c d hm => hm.shift_both (hquiet m).1 (hquiet m).2
    exact hagree.perform hidle (Alike.obey hagree.connections) fun _ c d _ => leave_alike c d

theorem Parallel.trace_eq (h : Parallel s as t bs) (hdiffer : Differ s as t bs) :
    s.trace as = t.trace bs := by
  induction hdiffer with
  | done s t => exact congrArg (fun u => [u]) h.outward
  | both a _ ih =>
    rw [trace, trace, h.outward, ih h.both]
  | apart ha hb _ ih =>
    rw [trace, trace, h.outward, ih ((h.left ha).symm.left hb).symm]

/-- Runs of one session. -/
theorem Wired.parallel (h : Wired s) (as bs : List Action) : Parallel s as s bs :=
  ⟨⟨rfl, rfl, fun _ _ _ hc hd => Or.inl (Option.some.inj (hc.symm.trans hd))⟩, h, h⟩

/-- **Nothing of a cancelled attempt is applied.** Two runs that differ only in what is left unread
look the same all along, the times at which their retry delays end included, whatever chance draws
for these. An attempt that reads a connection has not been cancelled; once an action
has cancelled it, nothing is taken from the connection in any run that follows, so that whatever is
sent there from then on is left unread; and what the decoder had kept makes no difference to that
action, nor to anything after it. -/
theorem trace_eq_of_differ {config : Config} {visibility : Visibility}
    (hnew : new config visibility = .ok s) :
    (∀ as bs, Differ s as s bs → s.trace as = s.trace bs)
      ∧ ∀ as loader n decoder, (s.play as).task = .running loader (.reading n decoder) →
        (s.play as).isCancelled = false
          ∧ ∀ a, ((s.play as).perform a).isCancelled = true →
            (∀ bs, taken n ((s.play as).perform a) bs = 0)
              ∧ ∀ other, perform { s.play as with task := .running loader (.reading n other) } a
                = (s.play as).perform a := by
  have hwired := wired_of_new hnew
  refine ⟨fun as bs hdiffer => (hwired.parallel as bs).trace_eq hdiffer, ?_⟩
  intro as loader n decoder htask
  have hplayed := play_wired hwired as
  refine ⟨hplayed.not_isCancelled (congrArg Task.reading? htask), fun a hcancelled => ?_⟩
  obtain ⟨hgone, hother⟩ := perform_of_isCancelled hplayed htask hcancelled
  exact ⟨taken_eq_zero (perform_wired hplayed a) hgone, hother⟩

/-! ### A small run

The connection is given up while half a frame is unread, which was sent in one run only; later the
rest of the frame is sent in that run, and in the other the connection is ended. The next connection
goes on with octets that would complete the frame, and ends; the delay after it is a tenth shorter
than the policy asks for. -/

/-- What follows when the first connection has been given up. -/
def smallReturn : List Action :=
  [.signal .focus, .serve .connect, .link .signals, .link .signals,
    .serve (.deliver 1 (.chunk [10, 10])), .link .stream, .serve (.close 1),
    .draw (.ofMillis 900), .link .signals]

/-- A run in which something is sent before the first connection is given up, and something after
that. -/
def smallRun (sent sentLate : Action) : List Action :=
  smallOpening ++ sent :: .signal .blur :: .link .signals :: sentLate :: smallReturn

theorem Differ.refl (s t : Session) (as : List Action) : Differ s as t as := by
  induction as generalizing s t with
  | nil => exact .done s t
  | cons a as ih => exact .both a (ih _ _)

theorem trace_smallRun :
    let s := initial smallConfig .always
    let half : Delivery := .chunk [100, 97, 116, 97]
    let as := smallRun (.serve (.deliver 0 half)) (.serve (.deliver 0 (.chunk [10])))
    s.trace as = s.trace (smallRun (.pass 0) (.serve (.close 0)))
      ∧ (s.play as).task = .running .ready (.resting 900) := by
  intro s half as
  refine ⟨(trace_eq_of_differ new_smallConfig).1 _ _ ?_, by decide +kernel⟩
  refine .both _ <| .both _ <| .both _ <| .both _ <| .apart (.deliver 0 _ ?_) .idle <|
    .both _ <| .both _ <| .apart (.deliver 0 _ ?_) (.close 0 ?_) <| .refl _ _ _
  all_goals decide +kernel

end Session

end ActivityFeed
