import ActivityFeed.Proofs.Store.Due
import ActivityFeed.Proofs.Sync.Effects

/-!
# A synchronizer and the log that it reads

A `World` is a server's log together with a synchronizer that reads it, and a `Step` is a move of
the one or the other. Three things are asked of the server, and nothing of the order of steps:

* its log only grows (`Log.Extends`);
* a page that arrives holds the newest records that the log had at some time, as many as were asked
  for (`IsPageOf`);
* what a connection has delivered is the beginning of a body that carries what the request is due
  (`IsFaithful`). The body may hold other frames between the records, and be cut anywhere.

What has been read of a connection is not part of a session, which forgets the octets that its
decoder has dealt with. A world remembers them in `heard`, so that they can be spoken of.

`exists_accept` and `exists_read` show that a server which answers in this way is not held up by
what is asked of it.
-/

namespace ActivityFeed

/-- A log and a synchronizer that reads it. -/
structure World where
  log : Log
  session : Session
  /-- What has been read of the connection that is being read. -/
  heard : List UInt8

namespace World

variable {w : World}

/-- What has been read of the connection after the link has worked. -/
def hearing (w : World) : List UInt8 :=
  match w.session.task with
  | .running _ (.reading ..) => w.heard ++ w.session.nextChunk
  | _ => []

/-- What has been read of a connection is the beginning of a body that carries the records which the
request is due. -/
def IsFaithful (w : World) : Prop :=
  ∀ loader connection decoder, w.session.task = .running loader (.reading connection decoder) →
    ∃ body, w.heard <+: body
      ∧ w.session.feed.config.recordsIn body = w.log.due w.session.since

/-- A page holds the newest records that the log had at some time. -/
def IsPageOf (w : World) (page : Page) : Prop :=
  ∃ m ≤ w.log.records.length,
    page.items.Perm (newest w.session.feed.config.snapshotLimit (w.log.records.take m))

/-- One step of the log or of the synchronizer. -/
inductive Step (w : World) : World → Prop
  | publish {log : Log} (h : log.Extends w.log) : Step w { w with log }
  | outside {s : Session} (h : w.session.Outside s) : Step w { w with session := s }
  | load {s : Session} {loader : Loader} {link : Link}
      (htask : w.session.task = .running loader link)
      (h : w.session.loaderStep? loader link = some s)
      (hpage : ∀ page, w.session.script.snapshot = .ok page → s.task = .running .done link →
        w.IsPageOf page) :
    Step w { w with session := s }
  | link {s : Session} {p : Precedence} {loader : Loader} {link : Link}
      (htask : w.session.task = .running loader link)
      (h : w.session.linkStep? p loader link = some s)
      (hbody : IsFaithful ⟨w.log, s, w.hearing⟩) :
    Step w ⟨w.log, s, w.hearing⟩

/-! ## Steps that are open -/

/-- A request that is answered by a connection can be accepted. -/
theorem exists_accept {loader : Loader} {connection : Nat} {answers : List Answer}
    (htask : w.session.task = .running loader .opening)
    (hanswers : w.session.script.answers = .accept connection :: answers) {body : List UInt8}
    (hbody : w.session.feed.config.recordsIn body = w.log.due w.session.since) :
    ∃ s, Step w ⟨w.log, s, []⟩ ∧ s.feed.config = w.session.feed.config
      ∧ s.task = .running loader (.reading connection .fresh)
      ∧ s.script = { w.session.script with answers } := by
  have hheard : w.hearing = [] := by simp only [hearing, htask]
  have hconfig := (Session.accept_spec w.session loader connection answers).config
  have hstep : w.session.linkStep? .stream loader .opening
      = some
        { w.session with
          script := { w.session.script with answers }
          feed := w.session.feed.noteOpened
          task := .running loader (.reading connection .fresh) } := by
    simp only [Session.linkStep?, Session.Precedence.pick, Session.takeAnswer?, hanswers,
      Option.orElse_eq_or, Option.some_or]
  refine ⟨_, hheard ▸ .link htask hstep fun _ _ _ _ => ⟨body, ?_, ?_⟩, hconfig, rfl, rfl⟩
  · exact hheard ▸ List.nil_prefix
  · dsimp only
    rw [hconfig]
    exact hbody

/-- A chunk that has come can be read, if it goes on as the request is due. -/
theorem exists_read {loader : Loader} {connection : Nat} {decoder : Decoder} {c : Connection}
    {octets : List UInt8} {unread : List Delivery}
    (htask : w.session.task = .running loader (.reading connection decoder))
    (hc : w.session.script.connections[connection]? = some c)
    (hunread : c.unread = .chunk octets :: unread) (hd : decoder.Settled) {body : List UInt8}
    (hbegins : w.heard ++ octets <+: body)
    (hbody : w.session.feed.config.recordsIn body = w.log.due w.session.since) :
    ∃ s, Step w ⟨w.log, s, w.heard ++ octets⟩
      ∧ s.feed.config = w.session.feed.config
      ∧ s.task = .running loader (.reading connection (decoder.push octets).2)
      ∧ s.script = (w.session.consume connection unread).script := by
  obtain ⟨hconfig, -, hrunning, hscript⟩ :=
    (w.session.consume connection unread).applyChunk_spec loader hd htask octets
  have hheard : w.hearing = w.heard ++ octets := by
    simp only [hearing, htask, Session.nextChunk_of_chunk htask hc hunread]
  have hstep : w.session.linkStep? .stream loader (.reading connection decoder)
      = some
        ((w.session.consume connection unread).applyChunk loader connection decoder octets) := by
    simp only [Session.linkStep?, Session.Precedence.pick, Session.readNext?, hc, hunread,
      Option.orElse_eq_or, Option.some_or]
    rfl
  refine ⟨_, hheard ▸ .link htask hstep fun _ _ _ _ => ⟨body, ?_, ?_⟩, hconfig, hrunning, hscript⟩
  · exact hheard ▸ hbegins
  · dsimp only
    rw [hconfig, Session.since, hscript]
    exact hbody

end World

end ActivityFeed
