import ActivityFeed.Proofs.Sync.Effects
import ActivityFeed.Proofs.Sync.Outward
import ActivityFeed.Proofs.Sync.Replay

/-!
# What a run takes in

The `history` of a run is the list of what it took in, in the order in which it did: the page of the
snapshot when the loader gets it, and each chunk when the link takes it from its connection. All
other actions leave the records alone (`Idles`).

A session holds what the effects of its history make of an empty store (`Replays`), and the decoder
of the connection that is being read has seen just what has been read of that connection. The
invariant also knows of the connections that are still to be read that nothing has been read of
them, which is why the decoder of each is a fresh one.
-/

namespace ActivityFeed

@[simp] theorem Feed.snapshot_enter (f : Feed) (phase : Phase) :
    (f.enter phase).snapshot = f.snapshot := by
  unfold enter
  split <;> rfl

theorem Feed.snapshot_applyFrame (f : Feed) (frame : Frame) :
    (f.applyFrame frame).snapshot = f.snapshot := by
  unfold applyFrame
  split
  next => rfl
  next =>
    split
    next => rfl
    next =>
      split
      next => rfl
      next =>
        dsimp only
        split <;> rfl

theorem Feed.snapshot_applyChunk (f : Feed) (octets : List UInt8) (frames : List Frame) :
    (f.applyChunk octets frames).snapshot = f.snapshot := by
  have hframes : ∀ g : Feed, (frames.foldl applyFrame g).snapshot = g.snapshot := by
    induction frames with
    | nil => exact fun _ => rfl
    | cons frame frames ih => exact fun g => (ih _).trans (snapshot_applyFrame g frame)
  exact hframes _

namespace Session

variable {s s' : Session} {p : Precedence} {a : Action} {n : Nat} {octets : List UInt8}
  {loader : Loader} {link : Link}

/-! ## What is taken in -/

/-- The answer for the snapshot that a turn of the loader gets. -/
def answer? (s : Session) : Option (Except Failure Page) :=
  match s.task with
  | .running .ready _ => if s.script.snapshotDelay = 0 then some s.script.snapshot else none
  | .running (.pending due) _ => if due ≤ s.clock then some s.script.snapshot else none
  | _ => none

/-- The chunk that a turn of the link takes, and from where. -/
def chunk? (s : Session) (p : Precedence) : Option (Nat × List UInt8) :=
  match s.task.reading? with
  | none => none
  | some n =>
    if s.takes n (.link p) then
      match s.script.connections[n]?.map Connection.unread with
      | some (.chunk octets :: _) => some (n, octets)
      | _ => none
    else none

/-- What an action takes in. -/
def intake (s : Session) : Action → List Intake
  | .load =>
    match s.answer? with
    | some (.ok page) => [.page page.items]
    | _ => []
  | .link p =>
    match s.chunk? p with
    | some (n, octets) => [.chunk n octets]
    | none => []
  | _ => []

/-- What a run takes in, in order. -/
def history (s : Session) : List Action → List Intake
  | [] => []
  | a :: as => s.intake a ++ (s.perform a).history as

theorem history_append (s : Session) (as bs : List Action) :
    s.history (as ++ bs) = s.history as ++ (s.play as).history bs := by
  induction as generalizing s with
  | nil => rfl
  | cons a as ih =>
    rw [List.cons_append, history, history, ih, List.append_assoc]
    rfl

/-! ## Taking in nothing -/

/-- Whether the answer for the snapshot may still come. -/
def awaitsSnapshot (s : Session) : Bool :=
  match s.task with
  | .unstarted => true
  | .running .done _ => false
  | .running _ _ => true
  | .ended => false

theorem awaitsSnapshot_of_loader {link link' : Link} (h : s.task = .running loader link)
    (h' : s'.task = .running loader link') (haw : s'.awaitsSnapshot = true) :
    s.awaitsSnapshot = true := by
  rw [awaitsSnapshot, h'] at haw
  rw [awaitsSnapshot, h]
  cases loader <;> first | rfl | cases haw

/-- Nothing has been taken in. A decoder that is in use was in use before or is fresh, and of no
connection less is known than before. -/
structure Idles (s s' : Session) : Prop extends Keeps s s' where
  snapshot : s'.feed.snapshot = s.feed.snapshot
  awaits : s'.awaitsSnapshot = true → s.awaitsSnapshot = true
  decoder : ∀ loader n decoder, s'.task = .running loader (.reading n decoder) →
    (∃ loader, s.task = .running loader (.reading n decoder))
      ∨ decoder = .fresh ∧ n ∈ s.script.awaited
  unknown : ∀ n, n ∈ s'.script.awaited ∨ s'.script.connections.length ≤ n →
    n ∈ s.script.awaited ∨ s.script.connections.length ≤ n

/-- Nothing has been taken in where no attempt is under way afterwards. -/
theorem Rests.idles (h : Rests s s') (hsnapshot : s'.feed.snapshot = s.feed.snapshot)
    (hawaits : s'.awaitsSnapshot = true → s.awaitsSnapshot = true)
    (hawaited : s'.script.awaited = s.script.awaited)
    (hlength : s'.script.connections.length = s.script.connections.length) : Idles s s' where
  config := h.config
  store := h.store
  snapshot := hsnapshot
  awaits := hawaits
  decoder loader n decoder htask := by
    cases h.idle _ _ htask
  unknown n := by rw [hawaited, hlength]; exact id

theorem length_dropConnection (s : Session) :
    s.dropConnection.script.connections.length = s.script.connections.length := by
  unfold dropConnection
  split
  next => exact List.length_modify _ _ _
  next => rfl

theorem awaited_dropConnection (s : Session) :
    s.dropConnection.script.awaited = s.script.awaited :=
  congrArg (List.filterMap Answer.connection?) (answers_dropConnection s)

theorem snapshot_endAttempt (s : Session) (loader : Loader) (ending : Ending) :
    (s.endAttempt loader ending).feed.snapshot = s.feed.snapshot := by
  cases ending <;> simp [endAttempt, rest, Feed.noteRetry, Feed.noteError]

theorem awaited_endAttempt (s : Session) (loader : Loader) (ending : Ending) :
    (s.endAttempt loader ending).script.awaited = s.script.awaited := by
  cases ending <;> exact awaited_dropConnection s

theorem task_endAttempt (s : Session) (loader : Loader) (ending : Ending) :
    ∃ link, (s.endAttempt loader ending).task = .running loader link := by
  cases ending <;> exact ⟨_, rfl⟩

/-- An attempt that ends takes nothing in, whatever has happened to the script before. -/
theorem idles_endAttempt {t : Session} (hkeeps : Keeps s t)
    (hsnapshot : t.feed.snapshot = s.feed.snapshot) (hawaited : t.script.awaited = s.script.awaited)
    (hlength : t.script.connections.length = s.script.connections.length)
    (htask : s.task = .running loader link) (ending : Ending) :
    Idles s (t.endAttempt loader ending) := by
  obtain ⟨link', htask'⟩ := task_endAttempt t loader ending
  refine (rests_endAttempt hkeeps.config hkeeps.store loader ending).idles ?_ ?_ ?_ ?_
  · rw [snapshot_endAttempt, hsnapshot]
  · exact awaitsSnapshot_of_loader htask htask'
  · rw [awaited_endAttempt, hawaited]
  · rw [connections_endAttempt, length_dropConnection, hlength]

theorem idles_release (htask : s.task = .running loader link) : Idles s (s.release loader) := by
  refine (rests_release s loader).idles ?_ ?_ (awaited_dropConnection s) (length_dropConnection s)
  · simp [release]
  · exact awaitsSnapshot_of_loader htask rfl

/-- The link alone has moved, to where nothing is read. -/
theorem idles_of_link {link' : Link} (htask : s.task = .running loader link)
    (hactive : link'.isActive = false) : Idles s { s with task := .running loader link' } := by
  have hrests : Rests s { s with task := .running loader link' } :=
    ⟨⟨rfl, rfl⟩, fun _ _ h => by cases h; exact hactive⟩
  exact hrests.idles rfl (awaitsSnapshot_of_loader htask rfl) rfl rfl

theorem idles_openStream (htask : s.task = .running loader .parked) :
    Idles s (s.openStream loader) := by
  unfold openStream
  dsimp only
  split
  next =>
    refine idles_endAttempt ⟨?_, ?_⟩ ?_ ?_ ?_ htask _
    · exact Feed.config_enter _ _
    · exact Feed.store_enter _ _
    · exact Feed.snapshot_enter _ _
    · rfl
    · rfl
  next =>
    exact {
      config := Feed.config_enter _ _
      store := Feed.store_enter _ _
      snapshot := Feed.snapshot_enter _ _
      awaits := awaitsSnapshot_of_loader htask rfl
      decoder := fun _ _ _ h => by cases h
      unknown := fun _ => id }

/-- What the link does while it reads nothing takes nothing in. -/
theorem LinkWork.idles (hwork : LinkWork s loader link s') (htask : s.task = .running loader link)
    (hreads : ∀ n decoder, link ≠ .reading n decoder) : Idles s s' := by
  cases hwork with
  | connect => exact idles_openStream htask
  | @accept connection answers hanswers =>
    have hawaited : s.script.awaited = connection :: answers.filterMap Answer.connection? := by
      rw [Script.awaited, hanswers, List.filterMap_cons]
      rfl
    exact {
      config := Feed.config_enter _ _
      store := Feed.store_enter _ _
      snapshot := Feed.snapshot_enter _ _
      awaits := awaitsSnapshot_of_loader htask rfl
      decoder := fun _ _ _ h => by
        cases h
        exact Or.inr ⟨rfl, hawaited ▸ List.mem_cons_self⟩
      unknown := fun n h => h.imp_left fun h => hawaited ▸ List.mem_cons_of_mem _ h }
  | @reject message status answers hanswers =>
    refine idles_endAttempt ⟨?_, ?_⟩ ?_ ?_ ?_ htask _
    · rfl
    · rfl
    · rfl
    · rw [Script.awaited, Script.awaited, hanswers, List.filterMap_cons]
      rfl
    · rfl
  | release => exact idles_release htask
  | wake => exact idles_of_link htask rfl
  | rearm => exact idles_of_link htask rfl
  | read | breakOff | close => exact absurd rfl (hreads _ _)

/-- Neither what is held nor what is being done has changed. -/
theorem idles_of_same (hfeed : s'.feed = s.feed) (htask : s'.task = s.task)
    (hunknown : ∀ n, n ∈ s'.script.awaited ∨ s'.script.connections.length ≤ n →
      n ∈ s.script.awaited ∨ s.script.connections.length ≤ n) : Idles s s' where
  config := by rw [hfeed]
  store := by rw [hfeed]
  snapshot := by rw [hfeed]
  awaits h := by rwa [awaitsSnapshot, htask] at h
  decoder loader _ _ h := Or.inl ⟨loader, htask ▸ h⟩
  unknown := hunknown

theorem Idles.refl (s : Session) : Idles s s :=
  idles_of_same rfl rfl fun _ => id

theorem unknown_obey {script : Script} {order : Order}
    (h : n ∈ (script.obey order).awaited ∨ (script.obey order).connections.length ≤ n) :
    n ∈ script.awaited ∨ script.connections.length ≤ n := by
  cases order with
  | connect =>
    simp only [Script.obey, Script.connect, Script.awaited, List.filterMap_append, List.mem_append,
      List.length_append, List.length_singleton] at h
    rcases h with (hwaits | hnew) | hlength
    · exact Or.inl hwaits
    · refine Or.inr (Nat.le_of_eq ?_)
      simpa [Answer.connection?, eq_comm] using hnew
    · exact Or.inr (Nat.le_of_succ_le hlength)
  | reject => simpa [Script.obey, Script.reject, Script.awaited, Answer.connection?] using h
  | deliver m d =>
    rw [Script.obey, Script.deliver_eq, Script.modifyConnection, List.length_modify] at h
    exact h
  | close m =>
    rw [Script.obey, Script.close, Script.modifyConnection, List.length_modify] at h
    exact h
  | prepare | snapshot | delaySnapshot => exact h

/-- A chunk is taken from the connection that is being read. -/
theorem perform_link_of_chunk? (h : s.chunk? p = some (n, octets)) :
    ∃ loader decoder unread, s.task = .running loader (.reading n decoder)
      ∧ s.script.connections[n]?.map Connection.unread = some (.chunk octets :: unread)
      ∧ s.perform (.link p) = (s.consume n unread).applyChunk loader n decoder octets := by
  unfold chunk? at h
  split at h
  next => cases h
  next m hreads =>
    obtain ⟨loader, decoder, htask⟩ := Task.exists_of_reading? hreads
    split at h
    next htakes =>
      split at h
      next octets' unread hunread =>
        cases h
        obtain ⟨c, hc, hcunread⟩ := Option.map_eq_some_iff.mp hunread
        exact ⟨loader, decoder, unread, htask, hunread,
          perform_link_of_unread htask htakes hc hcunread⟩
      next => cases h
    next => cases h

/-- A turn that reads no chunk finds nothing to do, or it is the end of the attempt. -/
theorem perform_link_of_chunk?_eq_none {decoder : Decoder}
    (htask : s.task = .running loader (.reading n decoder))
    (h : s.chunk? p = none) :
    s.perform (.link p) = s ∨ s.perform (.link p) = s.release loader
      ∨ s.perform (.link p) = s.endAttempt loader .closed
      ∨ ∃ unread cause, s.perform (.link p)
        = (s.consume n unread).endAttempt loader (.ofFailure cause) := by
  have hreads : s.task.reading? = some n := congrArg Task.reading? htask
  simp only [chunk?, hreads] at h
  cases htakes : s.takes n (.link p) with
  | false =>
    rw [perform_link_of_not_takes htask htakes]
    split
    next => exact Or.inl rfl
    next => exact Or.inr (Or.inl rfl)
  | true =>
    rw [if_pos htakes] at h
    obtain ⟨c, hc⟩ := exists_connection_of_takes htakes
    cases hunread : c.unread with
    | nil => exact Or.inr (Or.inr (Or.inl (perform_link_of_end htask htakes hc hunread)))
    | cons d unread =>
      cases d with
      | chunk octets => simp [hc, hunread] at h
      | failure cause =>
        exact Or.inr (Or.inr (Or.inr
          ⟨unread, cause, perform_link_of_unread htask htakes hc hunread⟩))

/-- A turn of the link that takes no chunk takes nothing in. -/
theorem idles_of_chunk?_eq_none (h : s.chunk? p = none) : Idles s (s.perform (.link p)) := by
  cases hreads : s.task.reading? with
  | none =>
    rcases s.perform_link_cases p with hsame | ⟨loader, link, htask, hwork⟩
    · rw [hsame]
      exact .refl s
    · refine hwork.idles htask fun n decoder hlink => ?_
      rw [htask, hlink] at hreads
      cases hreads
  | some n =>
    obtain ⟨loader, decoder, htask⟩ := Task.exists_of_reading? hreads
    rcases perform_link_of_chunk?_eq_none htask h with
      hsame | hreleased | hclosed | ⟨unread, cause, hbroken⟩
    · rw [hsame]
      exact .refl s
    · rw [hreleased]
      exact idles_release htask
    · rw [hclosed]
      exact idles_endAttempt ⟨rfl, rfl⟩ rfl rfl rfl htask .closed
    · rw [hbroken]
      refine idles_endAttempt ⟨?_, ?_⟩ ?_ ?_ ?_ htask _
      · rfl
      · rfl
      · rfl
      · rfl
      · exact List.length_modify _ _ _

/-- Nothing but the page and chunks is taken in. -/
theorem idles_of_intake_eq_nil (h : s.intake a = []) (hload : a ≠ .load) :
    Idles s (s.perform a) := by
  cases a with
  | load => exact absurd rfl hload
  | link p =>
    refine idles_of_chunk?_eq_none ?_
    cases hchunk : s.chunk? p with
    | none => rfl
    | some _ => simp [intake, hchunk] at h
  | start =>
    rcases s.perform_start_cases with hsame | ⟨htask, hstarted⟩
    · exact hsame.symm ▸ .refl s
    · rw [hstarted]
      have hrests : Rests s { s with task := .running .ready .parked } :=
        ⟨⟨rfl, rfl⟩, fun _ _ h => by cases h; rfl⟩
      exact hrests.idles rfl (fun _ => by rw [awaitsSnapshot, htask]) rfl rfl
  | stop =>
    have hrests : Rests s s.stop :=
      ⟨⟨by simp [stop], by simp [stop]⟩, fun _ _ h => by cases h⟩
    refine hrests.idles ?_ (fun h => by cases h) (awaited_dropConnection s)
      (length_dropConnection s)
    simp [stop]
  | signal signal =>
    show Idles s (s.signal signal)
    unfold Session.signal
    split
    next => exact idles_of_same rfl rfl fun _ => id
    next => exact .refl s
  | serve order => exact idles_of_same rfl rfl fun _ => unknown_obey
  | dropHost | draw | pass | schedule => exact idles_of_same rfl rfl fun _ => id

/-! ## The snapshot -/

/-- The answer for the snapshot has come. -/
structure Loads (s s' : Session) (result : Except Failure Page) : Prop where
  awaited : s.awaitsSnapshot = true
  answered : s'.awaitsSnapshot = false
  feed : s'.feed = s.feed.loadSnapshot result
  decoder : ∀ loader n decoder, s'.task = .running loader (.reading n decoder) →
    ∃ loader, s.task = .running loader (.reading n decoder)
  waiting : s'.script.awaited = s.script.awaited
  connections : s'.script.connections = s.script.connections

/-- The loader has its answer or goes on waiting. -/
theorem perform_load_spec (s : Session) :
    (s.answer? = none ∧ Idles s (s.perform .load))
      ∨ ∃ result, s.answer? = some result ∧ Loads s (s.perform .load) result := by
  cases htask : s.task with
  | unstarted =>
    have hsame : s.perform .load = s := by simp only [perform, htask]
    exact Or.inl ⟨by simp only [answer?, htask], hsame.symm ▸ .refl s⟩
  | ended =>
    have hsame : s.perform .load = s := by simp only [perform, htask]
    exact Or.inl ⟨by simp only [answer?, htask], hsame.symm ▸ .refl s⟩
  | running loader link =>
    rw [perform_load htask, answer?, htask]
    -- the loader that has its answer is done, and the link is where it was
    have hloads : ∀ t : Session, t.feed = s.feed → t.script.snapshot = s.script.snapshot →
        t.script.awaited = s.script.awaited → t.script.connections = s.script.connections →
        s.awaitsSnapshot = true → Loads s (t.completeSnapshot link) s.script.snapshot := by
      intro t hfeed hsnapshot hwaiting hconnections hawaits
      exact {
        awaited := hawaits
        answered := rfl
        feed := by rw [completeSnapshot, hfeed, hsnapshot]
        decoder := fun loader' n decoder h => by
          cases h
          exact ⟨loader, htask⟩
        waiting := hwaiting
        connections := hconnections }
    cases loader with
    | done => exact Or.inl ⟨rfl, .refl s⟩
    | pending due =>
      dsimp only [loaderStep?]
      split
      next => exact Or.inr ⟨_, rfl, hloads s rfl rfl rfl rfl (by rw [awaitsSnapshot, htask])⟩
      next => exact Or.inl ⟨rfl, .refl s⟩
    | ready =>
      dsimp only [loaderStep?, requestSnapshot, Option.getD_some]
      split
      next =>
        exact Or.inr ⟨_, rfl, hloads s.noteRequest rfl rfl rfl rfl (by rw [awaitsSnapshot, htask])⟩
      next =>
        refine Or.inl ⟨rfl, ?_⟩
        exact {
          config := rfl
          store := rfl
          snapshot := rfl
          awaits := fun _ => by rw [awaitsSnapshot, htask]
          decoder := fun loader' n decoder h => by
            cases h
            exact Or.inl ⟨_, htask⟩
          unknown := fun _ => id }

/-! ## The invariant -/

/-- What a session holds is what its history did. -/
structure Replays (config : Config) (s : Session) (h : List Intake) : Prop where
  settings : s.feed.config = config
  store : s.feed.store
    = (Store.empty config.capacity).calls ((config.effects h).map Effect.call)
  /-- A decoder has seen what has been read of its connection. -/
  decoder : ∀ loader n decoder, s.task = .running loader (.reading n decoder) →
    decoder = (Decoder.fresh.push (heard n h)).2
  unheard : ∀ n, n ∈ s.script.awaited ∨ s.script.connections.length ≤ n → heard n h = []
  /-- While the answer may still come, there is none. -/
  pending : s.awaitsSnapshot = true → s.feed.snapshot = .pending
  pages : (h.filterMap Intake.page?).map List.length = s.feed.snapshot.counts

variable {config : Config} {h : List Intake}

theorem replays_initial (config : Config) (visibility : Visibility) :
    Replays config (initial config visibility) [] where
  settings := rfl
  store := rfl
  decoder _ _ _ h := by cases h
  unheard _ _ := rfl
  pending _ := rfl
  pages := rfl

theorem Replays.idle (hr : Replays config s h) (hidle : Idles s s') : Replays config s' h where
  settings := hidle.config.trans hr.settings
  store := hidle.store.trans hr.store
  decoder loader n decoder htask := by
    rcases hidle.decoder loader n decoder htask with ⟨loader, hbefore⟩ | ⟨rfl, hwaits⟩
    · exact hr.decoder loader n decoder hbefore
    · rw [hr.unheard n (Or.inl hwaits), Decoder.push_nil Decoder.Reachable.fresh.settled]
  unheard n hn := hr.unheard n (hidle.unknown n hn)
  pending haw := hidle.snapshot.trans (hr.pending (hidle.awaits haw))
  pages := by rw [hidle.snapshot]; exact hr.pages

theorem Replays.loadPage {page : Page} (hr : Replays config s h) (hloads : Loads s s' (.ok page)) :
    Replays config s' (h ++ [.page page.items]) where
  settings := by
    rw [hloads.feed]
    exact hr.settings
  store := by
    rw [hloads.feed, Config.effects_concat, List.map_append, Store.calls_append, ← hr.store]
    rfl
  decoder loader n decoder htask := by
    obtain ⟨loader, hbefore⟩ := hloads.decoder loader n decoder htask
    rw [heard_concat, Intake.octetsOf, List.append_nil]
    exact hr.decoder loader n decoder hbefore
  unheard n hn := by
    rw [hloads.waiting, hloads.connections] at hn
    rw [heard_concat, Intake.octetsOf, List.append_nil]
    exact hr.unheard n hn
  pending haw := by
    rw [hloads.answered] at haw
    cases haw
  pages := by
    have hnone := hr.pages
    rw [hr.pending hloads.awaited] at hnone
    rw [hloads.feed, List.filterMap_append, List.map_append, hnone]
    rfl

theorem Replays.failPage {cause : Failure} (hr : Replays config s h)
    (hloads : Loads s s' (.error cause)) : Replays config s' h where
  settings := by
    rw [hloads.feed]
    exact hr.settings
  store := by
    rw [hloads.feed]
    exact hr.store
  decoder loader n decoder htask := by
    obtain ⟨loader, hbefore⟩ := hloads.decoder loader n decoder htask
    exact hr.decoder loader n decoder hbefore
  unheard n hn := by
    rw [hloads.waiting, hloads.connections] at hn
    exact hr.unheard n hn
  pending haw := by
    rw [hloads.answered] at haw
    cases haw
  pages := by
    rw [hr.pages, hr.pending hloads.awaited, hloads.feed]
    rfl

theorem Replays.readChunk (hr : Replays config s h) (hwired : Wired s)
    (hchunk : s.chunk? p = some (n, octets)) :
    Replays config (s.perform (.link p)) (h ++ [.chunk n octets]) := by
  obtain ⟨loader, decoder, unread, htask, -, hperform⟩ := perform_link_of_chunk? hchunk
  have hdecoder := hr.decoder loader n decoder htask
  have hsettled : decoder.Settled :=
    hdecoder ▸ Decoder.settled_push Decoder.Reachable.fresh.settled _
  obtain ⟨hconfig, hstore, htask', hscript⟩ :=
    (s.consume n unread).applyChunk_spec loader hsettled htask octets
  have hsnapshot : ((s.consume n unread).applyChunk loader n decoder octets).feed.snapshot
      = s.feed.snapshot := by
    unfold applyChunk
    split
    next => rfl
    next => exact Feed.snapshot_applyChunk _ _ _
  obtain ⟨c, hc, -⟩ := hwired.exists_connection (congrArg Task.reading? htask)
  rw [hperform]
  exact {
    settings := hconfig.trans hr.settings
    store := by
      rw [hstore, Config.effects_concat, List.map_append, Store.calls_append, Config.effectsOf,
        Store.calls_merges, Config.recordsAfter_eq, ← hdecoder, ← hr.store]
      rw [← hr.settings]
      rfl
    decoder := fun loader' m decoder' h' => by
      rw [htask'] at h'
      cases h'
      rw [heard_concat, Intake.octetsOf, if_pos rfl,
        Decoder.push_push Decoder.Reachable.fresh.settled, ← hdecoder]
    unheard := fun m hm => by
      -- the connection that is read neither waits nor is it still to come
      have hmn : ¬ n = m := by
        rintro rfl
        rw [hscript] at hm
        rcases hm with hwaits | hlength
        · exact hwired.taken n (congrArg Task.reading? htask) hwaits
        · have hlt := (List.getElem?_eq_some_iff.mp hc).1
          simp only [consume, Script.modifyConnection, List.length_modify] at hlength
          omega
      rw [heard_concat, Intake.octetsOf, if_neg hmn, List.append_nil]
      rw [hscript] at hm
      exact hr.unheard m (hm.imp_right fun hlength => (List.length_modify _ _ _) ▸ hlength)
    pending := fun haw => by
      rw [hsnapshot]
      exact hr.pending (awaitsSnapshot_of_loader htask htask' haw)
    pages := by
      rw [hsnapshot, List.filterMap_append, List.map_append, hr.pages]
      exact List.append_nil _ }

theorem Replays.perform (hr : Replays config s h) (hwired : Wired s) (a : Action) :
    Replays config (s.perform a) (h ++ s.intake a) := by
  by_cases hload : a = .load
  · subst hload
    rcases s.perform_load_spec with ⟨hnone, hidle⟩ | ⟨result, hresult, hloads⟩
    · rw [intake, hnone]
      exact (List.append_nil h).symm ▸ hr.idle hidle
    · cases result with
      | ok page =>
        rw [intake, hresult]
        exact hr.loadPage hloads
      | error cause =>
        rw [intake, hresult]
        exact (List.append_nil h).symm ▸ hr.failPage hloads
  by_cases hchunk : ∃ p n octets, a = .link p ∧ s.chunk? p = some (n, octets)
  · obtain ⟨p, n, octets, rfl, hchunk⟩ := hchunk
    rw [intake, hchunk]
    exact hr.readChunk hwired hchunk
  · have hnone : s.intake a = [] := by
      cases a with
      | load => exact absurd rfl hload
      | link p =>
        cases hp : s.chunk? p with
        | none => rw [intake, hp]
        | some x => exact absurd ⟨p, x.1, x.2, rfl, hp⟩ hchunk
      | _ => rfl
    rw [hnone, List.append_nil]
    exact hr.idle (idles_of_intake_eq_nil hnone hload)

theorem Replays.play (hr : Replays config s h) (hwired : Wired s) (as : List Action) :
    Replays config (s.play as) (h ++ s.history as) := by
  induction as generalizing s h with
  | nil => exact (List.append_nil h).symm ▸ hr
  | cons a as ih =>
    rw [history, ← List.append_assoc]
    exact ih (hr.perform hwired a) (perform_wired hwired a)

end Session

end ActivityFeed
