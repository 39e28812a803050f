import ActivityFeed.Proofs.Sync.History

/-!
# The cuts between chunks do not matter

A server may cut what it sends into chunks as it likes, and the network may cut it again. Two runs
are compared that differ in nothing but the cuts (`Recut`): in each of them there are stretches in
which one connection delivers chunks and the link reads chunks from it, and between the stretches
the two runs do the same. In a stretch the octets that are sent are the same in both runs, and so
are those that are read, but their chunks may be others, of any number and size. Then the sessions
look the same after each stretch, and so after the whole run (`Level.play`).

The reason is that a chunk is applied octet by octet: reading two chunks is reading one, and an
empty one is nothing (`hear_append`, `hear_nil`). What is unread is compared as it is spelled, with
the cuts left out.
-/

namespace ActivityFeed

/-- Octets and failures one by one, without the cuts between chunks. -/
def Delivery.spell : Delivery → List (UInt8 ⊕ Failure)
  | .chunk octets => octets.map .inl
  | .failure cause => [.inr cause]

/-- What is unread on a connection, without the cuts between chunks. -/
def Connection.spell (c : Connection) : List (UInt8 ⊕ Failure) :=
  c.unread.flatMap Delivery.spell

/-! ## Chunks in a row -/

namespace Feed

/-- The feed after some octets of a stream have been counted. -/
def count (f : Feed) (octets : List UInt8) : Feed :=
  { f with stats := { f.stats with octetsReceived := f.stats.octetsReceived + octets.length } }

theorem applyFrame_count (f : Feed) (octets : List UInt8) (frame : Frame) :
    (f.count octets).applyFrame frame = (f.applyFrame frame).count octets := by
  unfold applyFrame count
  dsimp only
  split
  next => rfl
  next =>
    cases Record.ofPayload frame.data f.config.envelope with
    | error => rfl
    | ok record =>
      dsimp only
      split
      next => rfl
      next => split <;> rfl

theorem foldl_applyFrame_count (f : Feed) (octets : List UInt8) (frames : List Frame) :
    frames.foldl applyFrame (f.count octets) = (frames.foldl applyFrame f).count octets := by
  induction frames generalizing f with
  | nil => rfl
  | cons frame frames ih => rw [List.foldl_cons, List.foldl_cons, applyFrame_count, ih]

theorem count_append (f : Feed) (x y : List UInt8) : f.count (x ++ y) = (f.count x).count y := by
  simp only [count, List.length_append, Nat.add_assoc]

/-- Two chunks in a row are one. -/
theorem applyChunk_append (f : Feed) (x y : List UInt8) (frames frames' : List Frame) :
    f.applyChunk (x ++ y) (frames ++ frames') = (f.applyChunk x frames).applyChunk y frames' := by
  show (frames ++ frames').foldl applyFrame (f.count (x ++ y))
    = frames'.foldl applyFrame ((frames.foldl applyFrame (f.count x)).count y)
  rw [count_append, List.foldl_append, foldl_applyFrame_count]

end Feed

namespace Session

variable {s t : Session} {p : Precedence} {a : Action} {n : Nat} {loader : Loader}
  {decoder : Decoder} {as bs xs ys : List Action} {c d : Connection}

/-- A session that a run comes to. -/
structure Reached (config : Config) (s : Session) : Prop where
  wired : Wired s
  replays : ∃ h, Replays config s h

variable {config : Config}

theorem Reached.perform (h : Reached config s) (a : Action) : Reached config (s.perform a) := by
  obtain ⟨history, hr⟩ := h.replays
  exact ⟨perform_wired h.wired a, _, hr.perform h.wired a⟩

theorem Reached.play (h : Reached config s) (as : List Action) : Reached config (s.play as) := by
  obtain ⟨history, hr⟩ := h.replays
  exact ⟨play_wired h.wired as, _, hr.play h.wired as⟩

theorem Reached.settled (h : Reached config s) (loader : Loader) (n : Nat) (decoder : Decoder)
    (htask : s.task = .running loader (.reading n decoder)) : decoder.Settled := by
  obtain ⟨history, hr⟩ := h.replays
  rw [hr.decoder loader n decoder htask]
  exact Decoder.settled_push Decoder.Reachable.fresh.settled _

/-- Octets are read from a connection, if it is being read. -/
def hear (s : Session) (n : Nat) (octets : List UInt8) : Session :=
  match s.task with
  | .running loader (.reading m decoder) =>
    if m = n then s.applyChunk loader n decoder octets else s
  | _ => s

theorem hear_of_reading (htask : s.task = .running loader (.reading n decoder))
    (octets : List UInt8) : s.hear n octets = s.applyChunk loader n decoder octets := by
  simp only [hear, htask, if_true]

@[simp] theorem hear_nil (s : Session) (n : Nat) : s.hear n [] = s := by
  unfold hear
  split
  next => split <;> rfl
  next => rfl

theorem outward_hear (h : s.outward = t.outward) (n : Nat) (octets : List UInt8) :
    (s.hear n octets).outward = (t.hear n octets).outward := by
  unfold hear
  rw [task_of_outward h]
  split
  next loader m decoder _ =>
    split
    next => exact outward_applyChunk h loader n decoder octets
    next => exact h
  next => exact h

theorem applyChunk_of_ne_nil {octets : List UInt8} (h : octets ≠ []) :
    s.applyChunk loader n decoder octets
      = { s with
          feed := s.feed.applyChunk octets (decoder.push octets).1
          backoff := s.backoff.reset
          task := .running loader (.reading n (decoder.push octets).2) } := by
  rw [applyChunk, List.isEmpty_eq_false_iff.mpr h]
  rfl

/-- A decoder is as far on after an empty chunk, with which it is not called, as if it were. -/
theorem task_applyChunk (hsettled : decoder.Settled)
    (htask : s.task = .running loader (.reading n decoder)) (octets : List UInt8) :
    (s.applyChunk loader n decoder octets).task
      = .running loader (.reading n (decoder.push octets).2) :=
  (s.applyChunk_spec loader hsettled htask octets).2.2.1

theorem applyChunk_append (hsettled : decoder.Settled) (x y : List UInt8) :
    s.applyChunk loader n decoder (x ++ y)
      = (s.applyChunk loader n decoder x).applyChunk loader n (decoder.push x).2 y := by
  by_cases hx : x = []
  · rw [hx, Decoder.push_nil hsettled]
    rfl
  by_cases hy : y = []
  · rw [hy, List.append_nil]
    rfl
  rw [applyChunk_of_ne_nil hx, applyChunk_of_ne_nil hy, applyChunk_of_ne_nil (by simp [hx]),
    Decoder.push_push hsettled, Feed.applyChunk_append]
  rfl

/-- Reading goes on where it stopped. -/
theorem hear_append (hsettled : ∀ loader n decoder,
      s.task = .running loader (.reading n decoder) → decoder.Settled) (n : Nat)
    (x y : List UInt8) : s.hear n (x ++ y) = (s.hear n x).hear n y := by
  by_cases hreads : s.task.reading? = some n
  · obtain ⟨loader, decoder, htask⟩ := Task.exists_of_reading? hreads
    have hd := hsettled loader n decoder htask
    rw [hear_of_reading htask, hear_of_reading htask, applyChunk_append hd,
      hear_of_reading (task_applyChunk hd htask x)]
  · have hsame : ∀ z, s.hear n z = s := by
      intro z
      unfold hear
      split
      next loader m decoder htask =>
        refine if_neg fun hmn => hreads ?_
        rw [htask, ← hmn]
        rfl
      next => rfl
    rw [hsame, hsame, hsame]

/-! ## Stretches -/

/-- The octets that the server sends on a connection. -/
def sentOn (n : Nat) : List Action → List UInt8
  | [] => []
  | .serve (.deliver m (.chunk octets)) :: as =>
    (if m = n then octets else []) ++ sentOn n as
  | _ :: as => sentOn n as

/-- A connection delivers chunks and the link reads chunks from it; nothing else happens, but that
the scheduler may have its own thoughts. -/
inductive Stretch (n : Nat) : Session → List Action → Prop
  | done (s : Session) : Stretch n s []
  | send {s : Session} {as : List Action} (octets : List UInt8)
      (h : Stretch n (s.perform (.serve (.deliver n (.chunk octets)))) as) :
    Stretch n s (.serve (.deliver n (.chunk octets)) :: as)
  | read {s : Session} {as : List Action} {p : Precedence} {octets : List UInt8}
      (hchunk : s.chunk? p = some (n, octets)) (h : Stretch n (s.perform (.link p)) as) :
    Stretch n s (.link p :: as)
  | schedule {s : Session} {as : List Action} (linkFirst isStirred : Bool)
      (h : Stretch n (s.perform (.schedule linkFirst isStirred)) as) :
    Stretch n s (.schedule linkFirst isStirred :: as)

/-- A connection after some octets have been read of it and others have been sent on it. -/
structure Moves (read sent : List UInt8) (c c' : Connection) : Prop where
  isOpen : c'.isOpen = c.isOpen
  isHeld : c'.isHeld = c.isHeld
  spell : read.map .inl ++ c'.spell
    = c.spell ++ if c.isOpen && c.isHeld then sent.map .inl else []

theorem Moves.refl (c : Connection) : Moves [] [] c c :=
  ⟨rfl, rfl, by simp⟩

theorem Moves.trans {r r' x x' : List UInt8} {c₁ c₂ c₃ : Connection} (h : Moves r x c₁ c₂)
    (h' : Moves r' x' c₂ c₃) : Moves (r ++ r') (x ++ x') c₁ c₃ := by
  refine ⟨h'.isOpen.trans h.isOpen, h'.isHeld.trans h.isHeld, ?_⟩
  rw [List.map_append, List.append_assoc, h'.spell, ← List.append_assoc, h.spell, h.isOpen,
    h.isHeld, List.append_assoc]
  split <;> simp

theorem Moves.receive (c : Connection) (octets : List UInt8) :
    Moves [] octets c (c.receive (.chunk octets)) := by
  unfold Connection.receive
  split
  next hreceives => exact ⟨rfl, rfl, by simp [Connection.spell, hreceives, Delivery.spell]⟩
  next hlost => exact ⟨rfl, rfl, by simp [hlost]⟩

theorem Moves.consume {octets : List UInt8} {unread : List Delivery}
    (hc : c.unread = .chunk octets :: unread) : Moves octets [] c { c with unread } :=
  ⟨rfl, rfl, by simp [Connection.spell, hc, Delivery.spell]⟩

/-- The session after a stretch, as far as it matters: some octets have been read of the connection,
some have been sent, and the rest is what it was. -/
structure Stretched (n : Nat) (read sent : List UInt8) (s s' : Session) : Prop where
  outward : s'.outward = (s.hear n read).outward
  connections : Matches
    (fun m c c' => Moves (if m = n then read else []) (if m = n then sent else []) c c')
    s.script.connections s'.script.connections

theorem Stretched.refl (n : Nat) (s : Session) : Stretched n [] [] s s where
  outward := by rw [hear_nil]
  connections := by
    refine ⟨rfl, fun m c c' hc hc' => ?_⟩
    rw [Option.some.inj (hc.symm.trans hc'), ite_self]
    exact .refl c'

theorem Stretched.trans {r r' x x' : List UInt8} {s s' s'' : Session}
    (hsettled : ∀ loader n decoder, s.task = .running loader (.reading n decoder) → decoder.Settled)
    (h : Stretched n r x s s') (h' : Stretched n r' x' s' s'') :
    Stretched n (r ++ r') (x ++ x') s s'' where
  outward := by rw [h'.outward, outward_hear h.outward, ← hear_append hsettled]
  connections := by
    refine ⟨h.connections.length.trans h'.connections.length, fun m c c'' hc hc'' => ?_⟩
    have hlt := h.connections.length ▸ (List.getElem?_eq_some_iff.mp hc).1
    have hc' := List.getElem?_eq_getElem hlt
    have hmoves := (h.connections.each m _ _ hc hc').trans (h'.connections.each m _ _ hc' hc'')
    by_cases hmn : m = n
    · simpa [hmn] using hmoves
    · simpa [hmn] using hmoves

theorem stretched_send (s : Session) (n : Nat) (octets : List UInt8) :
    Stretched n [] octets s (s.perform (.serve (.deliver n (.chunk octets)))) where
  outward := by
    rw [hear_nil, perform, Script.obey, Script.deliver_eq]
    rfl
  connections := by
    show Matches _ _ (s.script.deliver n _).2.connections
    rw [Script.deliver_eq, Script.modifyConnection]
    refine Matches.of_modify n (fun c hc => ?_) fun m c hmn => ?_
    · simpa using Moves.receive c octets
    · simpa [hmn] using Moves.refl c

theorem stretched_read {octets : List UInt8} (h : s.chunk? p = some (n, octets)) :
    Stretched n octets [] s (s.perform (.link p)) := by
  obtain ⟨loader, decoder, unread, htask, hunread, hperform⟩ := perform_link_of_chunk? h
  rw [hperform]
  refine ⟨?_, ?_⟩
  · rw [hear_of_reading htask]
    exact outward_applyChunk (by rfl) loader n decoder octets
  · rw [connections_applyChunk]
    refine Matches.of_modify n (fun c hc => ?_) fun m c hmn => ?_
    · rw [hc, Option.map_some, Option.some.injEq] at hunread
      simpa using Moves.consume hunread
    · simpa [hmn] using Moves.refl c

/-- What a stretch does is settled by the octets that are read and sent in it. -/
theorem Stretch.stretched (hs : Stretch n s as) (hr : Reached config s) :
    Stretched n (heard n (s.history as)) (sentOn n as) s (s.play as) := by
  induction hs with
  | done s => exact .refl n s
  | @send s as octets _ ih =>
    have hrest := (stretched_send s n octets).trans hr.settled (ih (hr.perform _))
    simpa [history, intake, sentOn] using hrest
  | @read s as p octets hchunk _ ih =>
    have hrest := (stretched_read hchunk).trans hr.settled (ih (hr.perform _))
    simpa [history, intake, hchunk, sentOn, heard, Intake.octetsOf] using hrest
  | @schedule s as linkFirst isStirred _ ih =>
    have hfirst : Stretched n [] [] s (s.perform (.schedule linkFirst isStirred)) :=
      ⟨(Stretched.refl n s).outward, (Stretched.refl n s).connections⟩
    have hrest := hfirst.trans hr.settled (ih (hr.perform _))
    simpa [history, intake, sentOn] using hrest

/-! ## Two runs -/

/-- The same but for the cuts between chunks. -/
structure SameSpelling (c d : Connection) : Prop where
  isOpen : c.isOpen = d.isOpen
  isHeld : c.isHeld = d.isHeld
  spell : c.spell = d.spell

theorem SameSpelling.leave (h : SameSpelling c d) : SameSpelling c.leave d.leave :=
  ⟨h.isOpen, rfl, rfl⟩

/-- Whether an action takes a chunk. -/
def readsChunk (s : Session) : Action → Bool
  | .link p => (s.chunk? p).isSome
  | _ => false

/-- Two runs that do the same but for the cuts between chunks. -/
inductive Recut : Session → List Action → Session → List Action → Prop
  | done (s t : Session) : Recut s [] t []
  | both {s t : Session} {as bs : List Action} (a : Action) (hs : s.readsChunk a = false)
      (ht : t.readsChunk a = false) (h : Recut (s.perform a) as (t.perform a) bs) :
    Recut s (a :: as) t (a :: bs)
  /-- The same octets are sent on a connection, and the same octets are read from it. -/
  | stretch {s t : Session} {xs ys as bs : List Action} (n : Nat) (hx : Stretch n s xs)
      (hy : Stretch n t ys) (hsent : sentOn n xs = sentOn n ys)
      (hheard : heard n (s.history xs) = heard n (t.history ys))
      (h : Recut (s.play xs) as (t.play ys) bs) : Recut s (xs ++ as) t (ys ++ bs)

/-- Two sessions that are the same but for the cuts between unread chunks. -/
structure Level (config : Config) (s t : Session) : Prop
    extends Agree (fun _ => SameSpelling) s t where
  reached : Reached config s
  reached' : Reached config t

theorem Level.stretch (h : Level config s t) (hx : Stretch n s xs) (hy : Stretch n t ys)
    (hsent : sentOn n xs = sentOn n ys) (hheard : heard n (s.history xs) = heard n (t.history ys)) :
    Level config (s.play xs) (t.play ys) := by
  have hs := hx.stretched h.reached
  have ht := hy.stretched h.reached'
  rw [← hsent, ← hheard] at ht
  refine ⟨⟨?_, ?_⟩, h.reached.play xs, h.reached'.play ys⟩
  · rw [hs.outward, ht.outward]
    exact outward_hear h.outward n _
  · refine ⟨by rw [← hs.connections.length, ← ht.connections.length, h.connections.length], ?_⟩
    intro m c' d' hc' hd'
    have hltc := hs.connections.length ▸ (List.getElem?_eq_some_iff.mp hc').1
    have hltd := ht.connections.length ▸ (List.getElem?_eq_some_iff.mp hd').1
    have hc := List.getElem?_eq_getElem hltc
    have hd := List.getElem?_eq_getElem hltd
    have hsame := h.connections.each m _ _ hc hd
    have hmovec := hs.connections.each m _ _ hc hc'
    have hmoved := ht.connections.each m _ _ hd hd'
    refine ⟨?_, ?_, ?_⟩
    · rw [hmovec.isOpen, hmoved.isOpen, hsame.isOpen]
    · rw [hmovec.isHeld, hmoved.isHeld, hsame.isHeld]
    · -- what was read is the same beginning of the same octets
      refine List.append_cancel_left (hmovec.spell.trans ?_)
      rw [hmoved.spell, hsame.isOpen, hsame.isHeld, hsame.spell]

theorem SameSpelling.receive (h : SameSpelling c d) (x : Delivery) :
    SameSpelling (c.receive x) (d.receive x) := by
  unfold Connection.receive
  rw [h.isOpen, h.isHeld]
  split
  next => exact ⟨rfl, rfl, by simpa [Connection.spell] using h.spell⟩
  next => exact h

theorem SameSpelling.obey {script script' : Script}
    (h : Matches (fun _ => SameSpelling) script.connections script'.connections) (order : Order) :
    Matches (fun _ => SameSpelling) (script.obey order).connections
      (script'.obey order).connections := by
  cases order with
  | connect => exact h.concat ⟨rfl, rfl, rfl⟩
  | deliver n x =>
    simp only [Script.obey, Script.deliver_eq]
    exact h.modify n (fun c d hc hd => (h.each n c d hc hd).receive x) fun _ _ _ _ h => h
  | close n =>
    refine h.modify n (fun c d hc hd => ?_) fun _ _ _ _ h => h
    have hsame := h.each n c d hc hd
    exact ⟨rfl, hsame.isHeld, hsame.spell⟩
  | reject | prepare | snapshot | delaySnapshot => exact h

theorem chunk?_eq_some {octets : List UInt8} {unread : List Delivery}
    (hreads : s.task.reading? = some n) (htakes : s.takes n (.link p) = true)
    (hc : s.script.connections[n]? = some c) (hunread : c.unread = .chunk octets :: unread) :
    s.chunk? p = some (n, octets) := by
  simp only [chunk?, hreads, htakes, if_true, hc, Option.map_some, hunread]

/-- Where no chunk is next on either of two connections that are spelled alike, nothing is next on
both, or the same failure. -/
theorem SameSpelling.next (h : SameSpelling c d)
    (hc : ∀ octets us, c.unread ≠ .chunk octets :: us)
    (hd : ∀ octets vs, d.unread ≠ .chunk octets :: vs) :
    (c.unread = [] ∧ d.unread = [])
      ∨ ∃ cause us vs, c.unread = .failure cause :: us ∧ d.unread = .failure cause :: vs
        ∧ SameSpelling { c with unread := us } { d with unread := vs } := by
  have hspell := h.spell
  cases hcunread : c.unread with
  | nil =>
    cases hdunread : d.unread with
    | nil => exact Or.inl ⟨rfl, rfl⟩
    | cons y vs =>
      cases y with
      | chunk octets => exact absurd hdunread (hd octets vs)
      | failure cause => simp [Connection.spell, hcunread, hdunread, Delivery.spell] at hspell
  | cons x us =>
    cases x with
    | chunk octets => exact absurd hcunread (hc octets us)
    | failure cause =>
      cases hdunread : d.unread with
      | nil => simp [Connection.spell, hcunread, hdunread, Delivery.spell] at hspell
      | cons y vs =>
        cases y with
        | chunk octets => exact absurd hdunread (hd octets vs)
        | failure cause' =>
          simp only [Connection.spell, hcunread, hdunread, List.flatMap_cons, Delivery.spell,
            List.singleton_append, List.cons.injEq, Sum.inr.injEq] at hspell
          obtain ⟨rfl, hrest⟩ := hspell
          exact Or.inr ⟨cause, us, vs, rfl, rfl, h.isOpen, h.isHeld, hrest⟩

/-- A turn of the link that reads, but no chunk. -/
theorem Level.agree_link (h : Level config s t) (hreads : s.task.reading? = some n)
    (hs : s.readsChunk (.link p) = false) (ht : t.readsChunk (.link p) = false) :
    Agree (fun _ => SameSpelling) (s.perform (.link p)) (t.perform (.link p)) := by
  have htask := task_of_outward h.outward
  have hreads' : t.task.reading? = some n := htask ▸ hreads
  obtain ⟨loader, decoder, hrunning⟩ := Task.exists_of_reading? hreads
  obtain ⟨c, hc, -⟩ := h.reached.wired.exists_connection hreads
  obtain ⟨d, hd, -⟩ := h.reached'.wired.exists_connection hreads'
  have hsame := h.connections.each n c d hc hd
  have htakes := takes_iff (p := p) hc hreads
  have htakes' := takes_iff (p := p) hd hreads'
  rw [← isEligible_of_outward h.outward, ← hsame.isOpen] at htakes'
  have hleave : ∀ c d : Connection, SameSpelling c d → SameSpelling c.leave d.leave :=
    fun _ _ => SameSpelling.leave
  by_cases hmay : s.isEligible = true ∨ p = .stream
  · simp only [hmay, true_and] at htakes htakes'
    -- a chunk that were next would be taken
    have hnext := hsame.next
      (fun octets us hunread => by
        rw [readsChunk, chunk?_eq_some hreads (htakes.mpr (by simp [hunread])) hc hunread] at hs
        cases hs)
      (fun octets vs hunread => by
        rw [readsChunk, chunk?_eq_some hreads' (htakes'.mpr (by simp [hunread])) hd hunread] at ht
        cases ht)
    rcases hnext with ⟨hcunread, hdunread⟩ | ⟨cause, us, vs, hcunread, hdunread, hrest⟩
    · simp only [hcunread, hdunread, ne_eq, not_true, false_or] at htakes htakes'
      cases hopen : c.isOpen with
      | false =>
        exact h.toAgree.link_of_end hrunning (htakes.mpr hopen) (htakes'.mpr hopen) hc hd hcunread
          hdunread (fun _ _ _ _ h => h) hleave
      | true =>
        rw [hopen] at htakes htakes'
        exact h.toAgree.link_of_not_takes hrunning (by simpa using htakes)
          (by simpa using htakes') hleave
    · exact h.toAgree.link_of_unread hrunning (htakes.mpr (by simp [hcunread]))
        (htakes'.mpr (by simp [hdunread])) hc hd hcunread hdunread (fun _ _ _ _ h => h) hrest hleave
  · simp only [hmay, false_and, iff_false, Bool.not_eq_true] at htakes htakes'
    exact h.toAgree.link_of_not_takes hrunning htakes htakes' hleave

theorem Level.both (h : Level config s t) (hs : s.readsChunk a = false)
    (ht : t.readsChunk a = false) : Level config (s.perform a) (t.perform a) := by
  refine ⟨?_, h.reached.perform a, h.reached'.perform a⟩
  by_cases hreading : ∃ p n, a = .link p ∧ s.task.reading? = some n
  · obtain ⟨p, n, rfl, hreads⟩ := hreading
    exact h.agree_link hreads hs ht
  · have hidle : ∀ p, a = .link p → s.task.reading? = none := fun p hp =>
      Option.eq_none_iff_forall_ne_some.mpr fun n hreads => hreading ⟨p, n, hp, hreads⟩
    exact h.toAgree.perform hidle (SameSpelling.obey h.connections) fun _ _ _ => SameSpelling.leave

theorem Level.play (h : Level config s t) (hrecut : Recut s as t bs) :
    Level config (s.play as) (t.play bs) := by
  induction hrecut with
  | done => exact h
  | both a hs ht _ ih => exact ih (h.both hs ht)
  | stretch n hx hy hsent hheard _ ih =>
    rw [play_append, play_append]
    exact ih (h.stretch hx hy hsent hheard)

/-! ## Chunks that are read as they come -/

/-- Chunks are sent on a connection, and each of them is read at once. -/
def sendEach (n : Nat) (chunks : List (List UInt8)) : List Action :=
  chunks.flatMap fun octets => [.serve (.deliver n (.chunk octets)), .link .stream]

/-- A chunk that is read at once leaves nothing unread. -/
theorem play_send (hwired : Wired s) (hreads : s.task.reading? = some n)
    (hc : s.script.connections[n]? = some c) (hunread : c.unread = []) (hopen : c.isOpen = true)
    (octets : List UInt8) :
    s.play [.serve (.deliver n (.chunk octets)), .link .stream] = s.hear n octets := by
  obtain ⟨loader, decoder, htask⟩ := Task.exists_of_reading? hreads
  obtain ⟨c', hc', hheld⟩ := hwired.exists_connection hreads
  rw [Option.some.inj (hc'.symm.trans hc)] at hheld
  -- the script while the chunk is on its way
  let sent := s.script.modifyConnection n (Connection.receive (.chunk octets))
  have hreceive : c.receive (.chunk octets) = { c with unread := [.chunk octets] } := by
    rw [Connection.receive, hopen, hheld, hunread]
    rfl
  have hsent : s.perform (.serve (.deliver n (.chunk octets)))
      = { s with script := sent } := by
    rw [perform, Script.obey, Script.deliver_eq]
  have hat : sent.connections[n]? = some { c with unread := [.chunk octets] } := by
    show (s.script.connections.modify n _)[n]? = _
    rw [List.getElem?_modify, hc, ← hreceive]
    simp
  have hrestored : sent.modifyConnection n (fun c => { c with unread := [] }) = s.script := by
    have hundo : s.script.modifyConnection n
        ((fun c => { c with unread := [] }) ∘ Connection.receive (.chunk octets)) = s.script := by
      refine (Script.modifyConnection_congr fun d hd => ?_).trans (s.script.modifyConnection_id n)
      rw [Option.some.inj (hd.symm.trans hc), Function.comp_apply, hreceive, ← hunread]
      rfl
    refine Eq.trans ?_ hundo
    simp only [sent, Script.modifyConnection, List.modify_modify_eq]
  rw [play_cons, play_cons, play_nil, hsent,
    perform_link_of_unread (s := { s with script := sent }) htask ?_ hat rfl,
    hear_of_reading htask, digest, consume, hrestored]
  exact (takes_iff (s := { s with script := sent }) hat hreads).mpr ⟨Or.inr rfl, Or.inl (by simp)⟩

/-- Chunks that are read as they come are read as one. -/
theorem play_sendEach (hr : Reached config s) (hreads : s.task.reading? = some n)
    (hc : s.script.connections[n]? = some c) (hunread : c.unread = []) (hopen : c.isOpen = true)
    (chunks : List (List UInt8)) : s.play (sendEach n chunks) = s.hear n chunks.flatten := by
  induction chunks generalizing s with
  | nil => exact (hear_nil s n).symm
  | cons octets chunks ih =>
    obtain ⟨loader, decoder, htask⟩ := Task.exists_of_reading? hreads
    have hsend := play_send hr.wired hreads hc hunread hopen octets
    have hreads' : (s.hear n octets).task.reading? = some n := by
      rw [hear_of_reading htask, task_applyChunk (hr.settled _ _ _ htask) htask]
      rfl
    have hc' : (s.hear n octets).script.connections[n]? = some c := by
      rw [hear_of_reading htask, connections_applyChunk, hc]
    rw [sendEach, List.flatMap_cons, play_append, hsend, List.flatten_cons, hear_append hr.settled]
    exact ih (hsend ▸ hr.play _) hreads' hc'

/-! ## The view is a replay -/

theorem reached_of_new {visibility : Visibility} (hnew : new config visibility = .ok s) :
    Reached config s := by
  obtain ⟨-, rfl⟩ := new_eq_ok_iff.mp hnew
  exact ⟨wired_initial config visibility, [], replays_initial config visibility⟩

/-- **The view is a replay of what was taken in, and the cuts between chunks do not matter.** The
records of a session are those of an empty store that is given, in the order in which they took
effect, the page of the snapshot, if one has been loaded, and the records of the connections, each
of which is decoded from all that has been read of it by a decoder of its own. What took effect
stays so in all that follows. Two runs that differ in nothing but the cuts between chunks end in
sessions that look the same; and where a connection has been read to its end so far, chunks that are
sent and read make the same session of it, however their octets are cut. -/
theorem store_play_and_recut {visibility : Visibility} (hnew : new config visibility = .ok s) :
    (∀ as, (s.play as).feed.store
        = (Store.empty config.capacity).calls ((config.effects (s.history as)).map Effect.call)
      ∧ (∀ n, (config.effects (s.history as)).filterMap (Effect.recordOf? n)
        = (Decoder.fresh.push (heard n (s.history as))).1.filterMap config.recordOf?)
      ∧ ((config.effects (s.history as)).filterMap Effect.page?).map List.length
        = (s.play as).feed.snapshot.counts
      ∧ ∀ bs, config.effects (s.history as) <+: config.effects (s.history (as ++ bs)))
    ∧ (∀ as bs, Recut s as s bs → (s.play as).outward = (s.play bs).outward)
    ∧ ∀ as n c chunks chunks', (s.play as).task.reading? = some n →
      (s.play as).script.connections[n]? = some c → c.unread = [] → c.isOpen = true →
      chunks.flatten = chunks'.flatten →
      s.play (as ++ sendEach n chunks) = s.play (as ++ sendEach n chunks') := by
  have hreached := reached_of_new hnew
  refine ⟨fun as => ?_, fun as bs hrecut => ?_, ?_⟩
  · obtain ⟨-, rfl⟩ := new_eq_ok_iff.mp hnew
    have hr := (replays_initial config visibility).play hreached.wired as
    rw [List.nil_append] at hr
    refine ⟨hr.store, fun n => Config.recordsOf_effects n _, ?_, fun bs => ?_⟩
    · rw [Config.pages_effects, hr.pages]
    · rw [history_append, Config.effects_append]
      exact List.prefix_append _ _
  · have hlevel : Level config s s := by
      refine ⟨⟨rfl, rfl, fun _ c d hc hd => ?_⟩, hreached, hreached⟩
      rw [Option.some.inj (hc.symm.trans hd)]
      exact ⟨rfl, rfl, rfl⟩
    exact (hlevel.play hrecut).outward
  · intro as n c chunks chunks' hreads hc hunread hopen hflatten
    rw [play_append, play_append, play_sendEach (hreached.play as) hreads hc hunread hopen,
      play_sendEach (hreached.play as) hreads hc hunread hopen, hflatten]

/-! ### A small run

The frame of a record comes in one chunk, or in three of which one is empty, the last two after the
first has been read; then the connection breaks. -/

def smallRecord : Record := .new "a" ⟨100, 5500⟩

def smallFrame : List UInt8 :=
  Scenario.frameOctets smallConfig.recordEvent smallRecord.text

def sendSmall (octets : List UInt8) : Action :=
  .serve (.deliver 0 (.chunk octets))

/-- The frame in one chunk. -/
def smallWhole : List Action :=
  [sendSmall smallFrame, .link .signals]

/-- The frame in pieces. -/
def smallPieces : List Action :=
  [sendSmall (smallFrame.take 60), .link .signals, sendSmall [], sendSmall (smallFrame.drop 60),
    .link .signals, .link .stream]

def smallBreak : List Action :=
  [.serve (.deliver 0 (.failure (.read "reset"))), .link .signals]

theorem recut_smallRun :
    Recut (initial smallConfig .always) (smallOpening ++ (smallPieces ++ smallBreak))
      (initial smallConfig .always) (smallOpening ++ (smallWhole ++ smallBreak)) := by
  have hwhole : Stretch 0 ((initial smallConfig .always).play smallOpening) smallWhole := by
    refine .send _ (.read (show chunk? _ _ = some (0, smallFrame) from ?_) (.done _))
    decide +kernel
  have hpieces : Stretch 0 ((initial smallConfig .always).play smallOpening) smallPieces := by
    refine .send _ (.read (show chunk? _ _ = some (0, smallFrame.take 60) from ?_) <|
      .send _ <| .send _ <| .read (show chunk? _ _ = some (0, []) from ?_) <|
      .read (show chunk? _ _ = some (0, smallFrame.drop 60) from ?_) (.done _))
    all_goals decide +kernel
  have hrest : Recut ((initial smallConfig .always).play smallOpening) (smallPieces ++ smallBreak)
      ((initial smallConfig .always).play smallOpening) (smallWhole ++ smallBreak) := by
    refine .stretch 0 hpieces hwhole ?_ ?_ (.both _ rfl rfl (.both _ ?_ ?_ (.done _ _)))
    all_goals decide +kernel
  exact .both _ rfl rfl (.both _ rfl rfl (.both _ rfl rfl (.both _ rfl rfl hrest)))

theorem store_of_smallRun :
    ((initial smallConfig .always).play (smallOpening ++ (smallPieces ++ smallBreak))).outward
        = ((initial smallConfig .always).play (smallOpening ++ (smallWhole ++ smallBreak))).outward
      ∧ ((initial smallConfig .always).play (smallOpening ++ smallPieces)).feed.store
        = (Store.empty smallConfig.capacity).calls [.merge smallRecord] := by
  obtain ⟨hreplay, hrecut, -⟩ := store_play_and_recut new_smallConfig
  refine ⟨hrecut _ _ recut_smallRun, ?_⟩
  have heffects : (smallConfig.effects
      ((initial smallConfig .always).history (smallOpening ++ smallPieces))).map Effect.call
      = [.merge smallRecord] := by decide +kernel
  rw [(hreplay _).1, heffects]

end Session

end ActivityFeed
