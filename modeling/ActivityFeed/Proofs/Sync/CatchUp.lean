import ActivityFeed.Proofs.Sync.Action
import ActivityFeed.Proofs.Sync.World

/-!
# Catching up without gaps

A synchronizer reads a log in two ways at once, by a page of the newest records and by a stream, and
the stream breaks: in the middle of a frame, between frames, before the first one, again and again.
This module shows that its records are a window on the log all the same, the newest of the first `p`
records for some `p`, and that `p` never goes back.

`Inv` is the invariant. It ties three places in the log together: `p`, up to where the store has
got; the place from which the request under way is due, at or before `p`; and the place up to which
the connection has been read, at or before `p` as well. That the first two are in this order is
`Log.due_latest`, and that they stay so while a page arrives is why pages have to hold at least as
much as the store. `Inv.step` takes it through one step, `Inv.steps` through a run.

Main result: `records_of_run`.
-/

namespace ActivityFeed.World

open Relation (ReflTransGen)
open Session (narrowConfig new_narrowConfig)

variable {config : Config} {w w' : World} {p : Nat}

/-! ## The invariant -/

/-- The request under way is due the log from `q` on, however long it becomes. -/
def DueFrom (w : World) (q : Nat) : Prop :=
  ∀ later : Log, later.Extends w.log → later.due w.session.since = later.records.drop q

/-- How far an attempt has got, if one is under way. -/
def Follows (w : World) (p : Nat) : Link → Prop
  | .opening => ∃ q ≤ p, w.DueFrom q
  | .reading _ decoder =>
    decoder = (Decoder.fresh.push w.heard).2
      ∧ ∃ q ≤ p, w.DueFrom q
        ∧ w.session.feed.config.recordsIn w.heard <+: w.log.records.drop q
        ∧ q + (w.session.feed.config.recordsIn w.heard).length ≤ p
  | _ => True

/-- The store shows the first `p` records of the log, and what is under way leaves no gap. -/
structure Inv (config : Config) (w : World) (p : Nat) : Prop where
  settings : w.session.feed.config = config
  capacity : w.session.feed.store.capacity = config.capacity
  wellFormed : w.session.feed.store.WellFormed
  bound : p ≤ w.log.records.length
  shows : w.session.feed.store.Shows w.log p
  attempt : ∀ loader link, w.session.task = .running loader link → w.Follows p link

theorem follows_of_idle {link : Link} (h : link.isActive = false) : w.Follows p link := by
  cases link with
  | opening => cases h
  | reading => cases h
  | parked => trivial
  | resting => trivial
  | released => trivial

/-- What keeps the records keeps the invariant if the attempt goes on as it should. -/
theorem Inv.keeps (hi : Inv config w p) {s : Session} (h : w.session.Keeps s)
    {heard : List UInt8}
    (hattempt : ∀ loader link, s.task = .running loader link →
      Follows ⟨w.log, s, heard⟩ p link) : Inv config ⟨w.log, s, heard⟩ p where
  settings := h.config.trans hi.settings
  capacity := by
    rw [h.store]
    exact hi.capacity
  wellFormed := by
    rw [h.store]
    exact hi.wellFormed
  bound := hi.bound
  shows := by
    rw [h.store]
    exact hi.shows
  attempt := hattempt

/-- An attempt that has ended leaves nothing to follow. -/
theorem Inv.rests (hi : Inv config w p) {s : Session} (h : w.session.Rests s)
    (heard : List UInt8) : Inv config ⟨w.log, s, heard⟩ p :=
  hi.keeps h.toKeeps fun loader link htask => follows_of_idle (h.idle loader link htask)

/-! ## One step -/

/-- An attempt goes on as before where neither it nor the settings change. The log may grow and the
store get further meanwhile. -/
theorem Follows.mono {link : Link} (h : w.Follows p link) {p' : Nat} (hp : p ≤ p')
    (hlog : w'.log.Extends w.log) (hheard : w'.heard = w.heard)
    (hconfig : w'.session.feed.config = w.session.feed.config)
    (hsince : w'.session.since = w.session.since) : w'.Follows p' link := by
  have hdue : ∀ {q}, w.DueFrom q → w'.DueFrom q := by
    intro q hq later hlater
    rw [hsince]
    exact hq later (hlog.trans hlater)
  cases link with
  | opening =>
    obtain ⟨q, hqp, hq⟩ := h
    exact ⟨q, hqp.trans hp, hdue hq⟩
  | reading connection decoder =>
    obtain ⟨hdecoder, q, hqp, hq, hread, hend⟩ := h
    rw [← hheard] at hdecoder hread hend
    rw [← hconfig] at hread hend
    exact ⟨hdecoder, q, hqp.trans hp, hdue hq, hread.trans (Log.Extends.drop hlog q), hend.trans hp⟩
  | parked => trivial
  | resting => trivial
  | released => trivial

theorem Inv.publish (hi : Inv config w p) {log : Log} (hlog : log.Extends w.log) :
    Inv config { w with log } p where
  settings := hi.settings
  capacity := hi.capacity
  wellFormed := hi.wellFormed
  bound := hi.bound.trans hlog.length_le
  shows := by
    rw [Store.Shows, hlog.take hi.bound]
    exact hi.shows
  attempt loader link htask := (hi.attempt loader link htask).mono le_rfl hlog rfl rfl rfl

theorem Inv.outside (hi : Inv config w p) {s : Session} (h : w.session.Outside s) :
    Inv config { w with session := s } p := by
  rcases h.spec with hrests | ⟨hkeeps, htask, hsince⟩
  · exact hi.rests hrests w.heard
  · refine hi.keeps hkeeps fun loader link hrunning => ?_
    exact (hi.attempt loader link (htask ▸ hrunning)).mono le_rfl (.refl _) rfl hkeeps.config hsince

/-- The answer to the request for the snapshot leaves a window, wherever the log and the stream have
got to meanwhile. -/
theorem Inv.completeSnapshot (hi : Inv config w p) (hlimit : config.capacity ≤ config.snapshotLimit)
    {loader : Loader} {link : Link} (htask : w.session.task = .running loader link)
    {s : Session} (hfeed : s.feed = w.session.feed) (hsince : s.since = w.session.since)
    (hpage : ∀ page, s.script.snapshot = .ok page → w.IsPageOf page) :
    ∃ p' ≥ p, Inv config { w with session := s.completeSnapshot link } p' := by
  obtain ⟨hconfig, hstore⟩ := Session.completeSnapshot_spec s link
  rw [hfeed] at hconfig hstore
  have hattempt : ∀ p' ≥ p, ∀ loader' link',
      (s.completeSnapshot link).task = .running loader' link' →
      Follows { w with session := s.completeSnapshot link } p' link' := by
    intro p' hp loader' link' hrunning
    cases hrunning
    exact (hi.attempt loader link htask).mono hp (.refl _) rfl hconfig hsince
  cases hanswer : s.script.snapshot with
  | error cause =>
    rw [hanswer] at hstore
    exact ⟨p, le_rfl, hi.keeps ⟨hconfig, hstore⟩ (hattempt p le_rfl)⟩
  | ok page =>
    rw [hanswer] at hstore
    obtain ⟨m, hm, hitems⟩ := hpage page hanswer
    rw [hi.settings] at hitems
    have hshows := Store.page_shows hi.wellFormed hi.shows (hi.capacity.trans_le hlimit) hitems
    rw [← hstore] at hshows
    refine ⟨max p m, le_max_left p m, ?_⟩
    exact {
      settings := hconfig.trans hi.settings
      capacity := by
        rw [hstore, Store.capacity_seed]
        exact hi.capacity
      wellFormed := by
        rw [hstore]
        exact hi.wellFormed.seed page.items
      bound := max_le hi.bound hm
      shows := hshows
      attempt := hattempt _ (le_max_left p m) }

theorem Inv.load (hi : Inv config w p) (hlimit : config.capacity ≤ config.snapshotLimit)
    {loader : Loader} {link : Link} (htask : w.session.task = .running loader link) {s : Session}
    (h : w.session.LoaderWork link loader s)
    (hpage : ∀ page, w.session.script.snapshot = .ok page → s.task = .running .done link →
      w.IsPageOf page) :
    ∃ p' ≥ p, Inv config { w with session := s } p' := by
  cases h with
  | request due =>
    have hkeeps : w.session.Keeps
        { w.session.noteRequest with task := .running (.pending due) link } := ⟨rfl, rfl⟩
    refine ⟨p, le_rfl, hi.keeps hkeeps fun loader' link' hrunning => ?_⟩
    cases hrunning
    exact (hi.attempt _ link htask).mono le_rfl (.refl _) rfl rfl rfl
  | load => exact hi.completeSnapshot hlimit htask rfl rfl fun page hok => hpage page hok rfl
  | answer => exact hi.completeSnapshot hlimit htask rfl rfl fun page hok => hpage page hok rfl

/-- The next chunk leaves a window, which reaches as far as the connection has been read. -/
theorem Inv.read (hi : Inv config w p) {loader : Loader} {connection : Nat} {decoder : Decoder}
    (htask : w.session.task = .running loader (.reading connection decoder))
    {s : Session} (hfeed : s.feed = w.session.feed) (hsince : s.since = w.session.since)
    (hsame : s.task = w.session.task) {octets : List UInt8}
    (hbody : IsFaithful ⟨w.log, s.applyChunk loader connection decoder octets, w.heard ++ octets⟩) :
    ∃ p' ≥ p, Inv config
      ⟨w.log, s.applyChunk loader connection decoder octets, w.heard ++ octets⟩ p' := by
  obtain ⟨rfl, q, hqp, hq, -, hend⟩ := hi.attempt _ _ htask
  have hsettled := Decoder.settled_push Decoder.Reachable.fresh.settled w.heard
  obtain ⟨hconfig, hstore, hrunning, hscript⟩ :=
    s.applyChunk_spec loader hsettled (hsame.trans htask) octets
  obtain ⟨body, hbegins, hcarries⟩ := hbody _ _ _ hrunning
  dsimp only at hbegins hcarries
  generalize s.applyChunk loader connection (Decoder.fresh.push w.heard).2 octets = t at *
  have hafter : t.since = w.session.since := by rw [← hsince, Session.since, hscript, Session.since]
  rw [hfeed, hi.settings] at hconfig hstore
  rw [hi.settings] at hend
  rw [hconfig, hafter, hq w.log (Log.Extends.refl _)] at hcarries
  have hall : config.recordsIn (w.heard ++ octets) <+: w.log.records.drop q :=
    hcarries ▸ config.recordsIn_mono hbegins
  -- what the chunk adds stands in the log right behind what had been read before it
  have hnew := Config.recordsOf_push_next hall
  rw [List.drop_drop] at hnew
  obtain ⟨hwell, hcapacity, hshows⟩ := Store.mergeAll_shows hi.wellFormed hi.shows hend hnew
  rw [← hstore] at hwell hcapacity hshows
  have hlength := hall.length_le
  rw [Config.recordsIn_append, List.length_append, List.length_drop] at hlength
  have hbound := hi.bound
  -- so the window reaches at least as far as the connection has now been read
  refine ⟨_, le_max_left p _, hconfig, hcapacity.trans hi.capacity, hwell, ?_, hshows, ?_⟩
  · dsimp only
    omega
  · intro loader' link' hlink
    rw [hrunning] at hlink
    cases hlink
    refine ⟨?_, q, by omega, fun later hlater => ?_, ?_, ?_⟩
    · rw [Decoder.push_push Decoder.Reachable.fresh.settled]
    · rw [← hq later hlater, ← hafter]
    · rw [hconfig]
      exact hall
    · rw [hconfig, Config.recordsIn_append, List.length_append]
      omega

/-- The link keeps the invariant, whatever it does. Its records change with a chunk only. -/
theorem Inv.link (hi : Inv config w p) (hpos : 0 < config.capacity) {loader : Loader} {link : Link}
    (htask : w.session.task = .running loader link) {s : Session}
    (h : w.session.LinkWork loader link s) (hbody : IsFaithful ⟨w.log, s, w.hearing⟩) :
    ∃ p' ≥ p, Inv config ⟨w.log, s, w.hearing⟩ p' := by
  have hends : ∀ {s : Session}, w.session.Rests s →
      ∃ p' ≥ p, Inv config ⟨w.log, s, w.hearing⟩ p' := fun h => ⟨p, le_rfl, hi.rests h _⟩
  cases h with
  | connect =>
    rcases w.session.openStream_spec loader with hrests | ⟨hkeeps, hopening, hsince⟩
    · exact hends hrests
    · refine ⟨p, le_rfl, hi.keeps hkeeps fun loader' link' hrunning => ?_⟩
      rw [hopening] at hrunning
      cases hrunning
      obtain ⟨q, hqp, hdue⟩ := Log.due_latest hi.shows (hi.capacity ▸ hpos)
      exact ⟨q, hqp, fun later hlater => by rw [← hdue later hlater, ← hsince]⟩
  | accept =>
    -- a fresh decoder is one that has read nothing
    obtain ⟨q, hqp, hdue⟩ := hi.attempt _ _ htask
    have hnothing : w.hearing = [] := by simp only [hearing, htask]
    rw [hnothing]
    refine ⟨p, le_rfl, hi.keeps (Session.accept_spec _ _ _ _) fun loader' link' hrunning => ?_⟩
    cases hrunning
    refine ⟨?_, q, hqp, hdue, List.nil_prefix, hqp⟩
    rw [Decoder.push_nil Decoder.Reachable.fresh.settled]
  | read hc hunread =>
    have hnext : w.hearing = w.heard ++ w.session.nextChunk := by
      simp only [hearing, htask]
    rw [Session.nextChunk_of_chunk htask hc hunread] at hnext
    rw [hnext] at hbody ⊢
    exact hi.read (s := w.session.consume _ _) htask rfl rfl rfl hbody
  | reject => refine hends (Session.rests_endAttempt ?_ ?_ _ _) <;> rfl
  | breakOff => refine hends (Session.rests_endAttempt ?_ ?_ _ _) <;> rfl
  | close => refine hends (Session.rests_endAttempt ?_ ?_ _ _) <;> rfl
  | release => exact hends (Session.rests_release _ _)
  | wake => exact hends (Session.rests_parked _ _)
  | rearm => exact hends (Session.rests_parked _ _)

/-- **One step** keeps the invariant, and the window does not go back. -/
theorem Inv.step (hi : Inv config w p) (hpos : 0 < config.capacity)
    (hlimit : config.capacity ≤ config.snapshotLimit) (h : Step w w') :
    ∃ p' ≥ p, Inv config w' p' := by
  cases h with
  | publish hlog => exact ⟨p, le_rfl, hi.publish hlog⟩
  | outside h => exact ⟨p, le_rfl, hi.outside h⟩
  | load htask h hpage =>
    exact hi.load hlimit htask (Session.loaderWork_of_loaderStep? h) hpage
  | link htask h hbody => exact hi.link hpos htask (Session.linkWork_of_linkStep? h) hbody

/-- Any number of steps do. -/
theorem Inv.steps (hi : Inv config w p) (hpos : 0 < config.capacity)
    (hlimit : config.capacity ≤ config.snapshotLimit) (h : ReflTransGen Step w w') :
    ∃ p' ≥ p, Inv config w' p' := by
  induction h with
  | refl => exact ⟨p, le_rfl, hi⟩
  | tail _ hstep ih =>
    obtain ⟨p₁, hp₁, hi₁⟩ := ih
    obtain ⟨p₂, hp₂, hi₂⟩ := hi₁.step hpos hlimit hstep
    exact ⟨p₂, hp₁.trans hp₂, hi₂⟩

/-! ## Whole runs -/

theorem capacity_pos_of_check (h : config.check = .ok ()) : 0 < config.capacity := by
  by_contra hzero
  have hcapacity : config.capacity = 0 := by omega
  unfold Config.check at h
  rw [if_pos hcapacity] at h
  split at h
  next => cases h
  next =>
    split at h
    next => cases h
    next => cases h

/-- A synchronizer that has not been started holds nothing, and has room for something. -/
theorem inv_new {visibility : Visibility} {s : Session}
    (h : Session.new config visibility = .ok s) (log : Log) :
    0 < config.capacity ∧ Inv config ⟨log, s, []⟩ 0 := by
  obtain ⟨hcheck, rfl⟩ := Session.new_eq_ok_iff.mp h
  exact ⟨capacity_pos_of_check hcheck, {
    settings := rfl
    capacity := rfl
    wellFormed := Store.empty_wellFormed _
    bound := Nat.zero_le _
    shows := by simp [Store.Shows, newest, Session.initial, Feed.new, Store.empty]
    attempt := fun _ _ htask => by cases htask }⟩

/-- **Catching up leaves no gap.** For every configuration that passes its check and asks for at
least as many records as it keeps, every log, and every run of the synchronizer against a server as
described above: at any time the records held are the newest of the first `p` records of the log, as
many as fit, newest first, and `p` is no smaller later on. While a connection is being read, all
records that have come in full on it are among the first `p`; once all that it is due has come, `p`
is the whole log. -/
theorem records_of_run {visibility : Visibility} {s : Session}
    (hnew : Session.new config visibility = .ok s)
    (hlimit : config.capacity ≤ config.snapshotLimit) {log : Log}
    (hw : ReflTransGen Step ⟨log, s, []⟩ w) (hw' : ReflTransGen Step w w') :
    ∃ p p', p ≤ p' ∧ p ≤ w.log.records.length ∧ p' ≤ w'.log.records.length
      ∧ w.session.feed.store.entries = newest config.capacity (w.log.records.take p)
      ∧ w'.session.feed.store.entries = newest config.capacity (w'.log.records.take p')
      ∧ ∀ loader connection decoder,
          w'.session.task = .running loader (.reading connection decoder) →
          config.recordsIn w'.heard ⊆ w'.log.records.take p'
            ∧ (config.recordsIn w'.heard = w'.log.due w'.session.since →
              p' = w'.log.records.length) := by
  obtain ⟨hpos, hi⟩ := inv_new hnew log
  obtain ⟨p, -, hi₁⟩ := hi.steps hpos hlimit hw
  obtain ⟨p', hp, hi₂⟩ := hi₁.steps hpos hlimit hw'
  refine ⟨p, p', hp, hi₁.bound, hi₂.bound, ?_, ?_, ?_⟩
  · rw [← hi₁.capacity]
    exact hi₁.shows
  · rw [← hi₂.capacity]
    exact hi₂.shows
  · intro loader connection decoder htask
    obtain ⟨-, q, hqp, hq, hread, hend⟩ := hi₂.attempt _ _ htask
    rw [hi₂.settings] at hread hend
    refine ⟨fun r hr => ?_, fun hall => ?_⟩
    · have hin : r ∈ (w'.log.records.take (q + (config.recordsIn w'.heard).length)).drop q := by
        rw [← List.take_drop, ← List.prefix_iff_eq_take.mp hread]
        exact hr
      exact (List.take_prefix_take_left hend).subset (List.mem_of_mem_drop hin)
    · have hbound := hi₂.bound
      rw [hall, hq w'.log (Log.Extends.refl _), List.length_drop] at hend
      omega

/-! ### A small run

The page comes late and holds the first record only; the second one is of the same microsecond, so
the stream starts with the first one again; and the first chunk ends within a frame. -/

def earlier : Record := .new "a" ⟨100, 5500⟩

def later : Record := .new "b" ⟨100, 5700⟩

def shortLog : Log where
  records := [earlier]
  increasing := by decide
  distinct := by decide
  dated := by
    intro r hr
    rw [List.mem_singleton.mp hr]
    exact ⟨Or.inl (by decide), by decide, by decide⟩

def longLog : Log where
  records := [earlier, later]
  increasing := by decide
  distinct := by decide
  dated := by
    intro r hr
    rcases List.mem_pair.mp hr with rfl | rfl <;>
      exact ⟨Or.inl (by decide), by decide, by decide⟩

/-- What a request from the first record on is due. -/
def smallBody : List UInt8 :=
  [earlier, later].flatMap fun r => Scenario.frameOctets narrowConfig.recordEvent r.text

theorem recordsIn_smallBody :
    narrowConfig.recordsIn smallBody = longLog.due (some earlier.createdAt) := by
  decide +kernel

def smallScript : Script :=
  { Script.empty with
    snapshot := .ok (.ofRecords [earlier])
    answers := [.accept 0]
    connections := [⟨[.chunk (smallBody.take 60), .chunk (smallBody.drop 60)], true, true⟩] }

/-- The run up to the request for the stream. -/
theorem exists_opening :
    ∃ s s₁, Session.new narrowConfig .always = .ok s
      ∧ ReflTransGen Step ⟨shortLog, s, []⟩ ⟨longLog, s₁, []⟩
      ∧ s₁.task = .running .done .opening
      ∧ s₁.script.answers = smallScript.answers
      ∧ s₁.script.connections = smallScript.connections
      ∧ s₁.since = some earlier.createdAt ∧ s₁.feed.config = narrowConfig := by
  refine ⟨_, _, new_narrowConfig,
    .head (.outside (.start rfl)) <|
    .head (.outside (.serve smallScript rfl)) <|
    .head (.publish (show longLog.Extends shortLog from ⟨[later], rfl⟩)) <|
    .head (.load rfl rfl fun page hpage _ => ?_) <|
    .head (.link (p := .signals) rfl rfl fun _ _ _ h => ?_) .refl,
    rfl, rfl, rfl, ?_, rfl⟩
  · cases hpage
    exact ⟨1, by decide, .refl _⟩
  · cases h
  · decide +kernel

theorem records_of_smallRun :
    ∃ s w, Session.new narrowConfig .always = .ok s
      ∧ narrowConfig.capacity ≤ narrowConfig.snapshotLimit
      ∧ ReflTransGen Step ⟨shortLog, s, []⟩ w
      ∧ w.session.feed.store.entries = [later] := by
  obtain ⟨s, s₁, hnew, hrun, htask, hanswers, hconnections, hsince, hconfig⟩ := exists_opening
  obtain ⟨s₂, hopen, hconfig₂, htask₂, hscript₂⟩ := exists_accept (w := ⟨longLog, s₁, []⟩)
    htask hanswers (hconfig ▸ hsince ▸ recordsIn_smallBody)
  have hsince₂ : s₂.since = some earlier.createdAt := by
    rw [← hsince, Session.since, hscript₂, Session.since]
  have hc₂ : s₂.script.connections = smallScript.connections := by
    rw [hscript₂, ← hconnections]
  -- the first chunk, which ends within a frame
  obtain ⟨s₃, hread₃, hconfig₃, htask₃, hscript₃⟩ := exists_read (w := ⟨longLog, s₂, []⟩) htask₂
    (congrArg (·[0]?) hc₂) rfl Decoder.Reachable.fresh.settled (List.take_prefix 60 smallBody)
    (by rw [hconfig₂, hconfig, hsince₂]; exact recordsIn_smallBody)
  have hsince₃ : s₃.since = some earlier.createdAt := by
    rw [← hsince₂, Session.since, hscript₃]
    rfl
  have hc₃ : s₃.script.connections[0]? = some ⟨[.chunk (smallBody.drop 60)], true, true⟩ := by
    rw [hscript₃]
    show (s₂.script.connections.modify 0 _)[0]? = _
    rw [hc₂]
    rfl
  -- the rest
  obtain ⟨s₄, hread₄, -, htask₄, hscript₄⟩ := exists_read
    (w := ⟨longLog, s₃, smallBody.take 60⟩) htask₃ hc₃ rfl
    (Decoder.settled_push Decoder.Reachable.fresh.settled _)
    (show _ <+: smallBody from (List.take_append_drop 60 smallBody).symm ▸ List.prefix_rfl)
    (by rw [hconfig₃, hconfig₂, hconfig, hsince₃]; exact recordsIn_smallBody)
  have hrun₄ := ((hrun.tail hopen).tail hread₃).tail hread₄
  obtain ⟨-, p, -, -, -, -, hentries, hread⟩ :=
    records_of_run hnew (by decide) .refl hrun₄
  have hall := (hread _ _ _ htask₄).2 (by
    rw [List.take_append_drop, Session.since, hscript₄]
    exact recordsIn_smallBody.trans (congrArg _ hsince₃.symm))
  refine ⟨s, _, hnew, by decide, hrun₄, ?_⟩
  rw [hentries, hall]
  rfl

end ActivityFeed.World
