import ActivityFeed.Proofs.Store.Admission
import ActivityFeed.Proofs.Sync.Account

/-!
# What the counters count

Five things can become of a frame (`Verdict`), and what the store held before says which
(`becomes_iff`). Each has its own effect, and all but one leave the records and the revision as they
are. So the counters of a run are the numbers of its verdicts (`Accounts`), the answer for
the snapshot is what they leave open, and views that look again when the revision has moved miss
nothing and look at nothing twice: records that have been added make another list of records of
whatever was held before them, even if they have been cut again (`Feed.Counts`).

Main result: `counters_of_play`.
-/

namespace ActivityFeed

/-- What becomes of a frame. -/
inductive Verdict where
  /-- It is not of the type that carries records. -/
  | other
  /-- It is, but carries none. -/
  | undecodable
  /-- The identifier of its record is held. -/
  | duplicate
  /-- Its record is new and is held afterwards. -/
  | added
  /-- Its record is new and is cut at once. -/
  | late
deriving DecidableEq, Repr, Inhabited

/-- How often the answer for the snapshot has come. -/
def SnapshotStatus.answers (status : SnapshotStatus) : Nat :=
  if status = .pending then 0 else 1

namespace Feed

variable {f g h : Feed} {frame : Frame} {v w : Verdict} {vs ws : List Verdict}

/-! ## One frame -/

/-- What will become of a frame. -/
def verdict (f : Feed) (frame : Frame) : Verdict :=
  if frame.event ≠ f.config.recordEvent then .other
  else
    match Record.ofPayload frame.data f.config.envelope with
    | .error _ => .undecodable
    | .ok record =>
      if f.store.contains record.id then .duplicate
      else if f.store.admits record then .added
      else .late

/-- A verdict: when it is the right one, and what the feed is after it. -/
inductive Becomes (f : Feed) (frame : Frame) (g : Feed) : Verdict → Prop
  | other (hevent : frame.event ≠ f.config.recordEvent) (hfeed : g = f) : Becomes f frame g .other
  | undecodable {error : PayloadError} (hevent : frame.event = f.config.recordEvent)
      (hrecord : Record.ofPayload frame.data f.config.envelope = .error error)
      (hfeed : g
        = { f with stats := { f.stats with framesDropped := f.stats.framesDropped + 1 } }) :
    Becomes f frame g .undecodable
  | duplicate {record : Record} (hevent : frame.event = f.config.recordEvent)
      (hrecord : Record.ofPayload frame.data f.config.envelope = .ok record)
      (hheld : f.store.contains record.id = true)
      (hfeed : g = { f with
        stats := { f.stats with duplicatesRejected := f.stats.duplicatesRejected + 1 } }) :
    Becomes f frame g .duplicate
  | added {record : Record} (hevent : frame.event = f.config.recordEvent)
      (hrecord : Record.ofPayload frame.data f.config.envelope = .ok record)
      (hnew : f.store.contains record.id = false) (hheld : g.store.contains record.id = true)
      (hentries : g.store.entries ≠ f.store.entries)
      (hfeed : g = { f with
        store := g.store
        revision := f.revision.put (f.revision.value + 1)
        stats := { f.stats with recordsMerged := f.stats.recordsMerged + 1 } }) :
    Becomes f frame g .added
  /-- All records of the full store are at least as new as the one that is cut. -/
  | late {record : Record} (hevent : frame.event = f.config.recordEvent)
      (hrecord : Record.ofPayload frame.data f.config.envelope = .ok record)
      (hnew : f.store.contains record.id = false) (hcut : g.store.contains record.id = false)
      (hfull : f.store.entries.length = f.store.capacity)
      (hnewer : ∀ x ∈ f.store.entries, record.createdAt ≤ x.createdAt)
      (hentries : g.store.entries = f.store.entries)
      (hcontains : ∀ id, g.store.contains id = f.store.contains id)
      (hfeed : g = { f with store := g.store }) : Becomes f frame g .late

theorem becomes_verdict (hwell : f.store.WellFormed) (frame : Frame) :
    Becomes f frame (f.applyFrame frame) (f.verdict frame) := by
  unfold verdict
  by_cases hevent : frame.event = f.config.recordEvent
  · rw [if_neg (not_not_intro hevent)]
    cases hrecord : Record.ofPayload frame.data f.config.envelope with
    | error error =>
      exact .undecodable hevent hrecord (applyFrame_of_error hevent hrecord)
    | ok record =>
      have happly := applyFrame_of_record hevent hrecord
      dsimp only
      by_cases hheld : f.store.contains record.id = true
      · rw [if_pos hheld]
        rw [if_pos hheld] at happly
        exact .duplicate hevent hrecord hheld happly
      · have hnew : f.store.contains record.id = false := by simpa using hheld
        rw [if_neg hheld]
        rw [if_neg hheld] at happly
        cases hadmits : f.store.admits record with
        | true =>
          obtain ⟨hmerged, hafter, hentries⟩ := Store.merge_of_admits hwell hheld hadmits
          rw [hmerged, if_pos rfl] at happly
          rw [happly]
          exact .added hevent hrecord hnew hafter hentries rfl
        | false =>
          obtain ⟨hmerged, hentries, hcontains⟩ := Store.merge_of_not_admits hwell hheld hadmits
          obtain ⟨hfull, hnewer⟩ := Store.full_of_not_admits hwell hadmits
          rw [hmerged] at happly
          rw [happly]
          exact .late hevent hrecord hnew ((hcontains _).trans hnew) hfull hnewer hentries
            hcontains rfl
  · rw [if_pos hevent]
    exact .other hevent (applyFrame_of_other hevent)

/-- No two verdicts are right at once. -/
theorem Becomes.unique (hv : Becomes f frame g v) (hw : Becomes f frame g w) : v = w := by
  cases hv <;> cases hw <;> grind

/-- **One verdict on each frame is right**, and the store says which before the frame is applied. -/
theorem becomes_iff (hwell : f.store.WellFormed) (frame : Frame) :
    Becomes f frame (f.applyFrame frame) v ↔ v = f.verdict frame := by
  constructor
  · exact fun hv => hv.unique (becomes_verdict hwell frame)
  · rintro rfl
    exact becomes_verdict hwell frame

/-! ## Frames in a row -/

/-- What becomes of frames one after the other. -/
def verdicts (f : Feed) : List Frame → List Verdict
  | [] => []
  | frame :: frames => f.verdict frame :: (f.applyFrame frame).verdicts frames

/-- A feed after frames on which verdicts were given. -/
structure Counts (f g : Feed) (vs : List Verdict) : Prop where
  config : g.config = f.config
  wellFormed : g.store.WellFormed
  snapshot : g.snapshot = f.snapshot
  dropped : g.stats.framesDropped = f.stats.framesDropped + vs.count .undecodable
  rejected : g.stats.duplicatesRejected = f.stats.duplicatesRejected + vs.count .duplicate
  merged : g.stats.recordsMerged = f.stats.recordsMerged + vs.count .added
  revision : g.revision
    = ⟨f.revision.value + vs.count .added, f.revision.version + vs.count .added⟩
  octets : g.stats.octetsReceived = f.stats.octetsReceived
  /-- What is added moves the records forward, and what is not leaves them. -/
  times : Store.times f.store.entries ≤ Store.times g.store.entries
  moves : .added ∈ vs → Store.times f.store.entries < Store.times g.store.entries
  stays : .added ∉ vs → g.store.entries = f.store.entries

theorem Counts.refl (hwell : f.store.WellFormed) : Counts f f [] where
  config := rfl
  wellFormed := hwell
  snapshot := rfl
  dropped := rfl
  rejected := rfl
  merged := rfl
  revision := rfl
  octets := rfl
  times := le_refl _
  moves hadded := by cases hadded
  stays _ := rfl

theorem Counts.trans (hfg : Counts f g vs) (hgh : Counts g h ws) : Counts f h (vs ++ ws) where
  config := hgh.config.trans hfg.config
  wellFormed := hgh.wellFormed
  snapshot := hgh.snapshot.trans hfg.snapshot
  dropped := by rw [hgh.dropped, hfg.dropped, List.count_append, Nat.add_assoc]
  rejected := by rw [hgh.rejected, hfg.rejected, List.count_append, Nat.add_assoc]
  merged := by rw [hgh.merged, hfg.merged, List.count_append, Nat.add_assoc]
  revision := by
    rw [hgh.revision, hfg.revision, List.count_append, ← Nat.add_assoc, ← Nat.add_assoc]
  octets := hgh.octets.trans hfg.octets
  times := le_trans hfg.times hgh.times
  moves hadded := by
    rcases List.mem_append.mp hadded with hfirst | hsecond
    · exact lt_of_lt_of_le (hfg.moves hfirst) hgh.times
    · exact lt_of_le_of_lt hfg.times (hgh.moves hsecond)
  stays hnone := by
    rw [List.mem_append, not_or] at hnone
    exact (hgh.stays hnone.2).trans (hfg.stays hnone.1)

/-- Frames leave a store as it should be. -/
theorem wellFormed_foldl (hwell : f.store.WellFormed) (frames : List Frame) :
    (frames.foldl applyFrame f).store.WellFormed := by
  obtain ⟨cs, hcs⟩ := f.exists_calls_foldl frames
  rw [hcs]
  exact (hwell.calls cs).1

theorem times_lt_of_added (hwell : f.store.WellFormed) (hadded : f.verdict frame = .added) :
    Store.times f.store.entries < Store.times (f.applyFrame frame).store.entries := by
  have hbecomes := becomes_verdict hwell frame
  rw [hadded] at hbecomes
  cases hbecomes with
  | @added record hevent hrecord hnew _ hentries _ =>
    have hcontains : ¬f.store.contains record.id = true := by simp [hnew]
    have hstore : (f.applyFrame frame).store = (f.store.merge record).2 := by
      rw [applyFrame_of_record hevent hrecord, if_neg hcontains]
      split <;> rfl
    rw [hstore] at hentries ⊢
    cases hadmits : f.store.admits record with
    | true => exact Store.times_lt_of_admits hwell hcontains hadmits
    | false => exact absurd (Store.merge_of_not_admits hwell hcontains hadmits).2.1 hentries

theorem counts_applyFrame (hwell : f.store.WellFormed) (frame : Frame) :
    Counts f (f.applyFrame frame) [f.verdict frame] := by
  have hafter : (f.applyFrame frame).store.WellFormed := wellFormed_foldl hwell [frame]
  have htimes : f.verdict frame = .added →
      Store.times f.store.entries < Store.times (f.applyFrame frame).store.entries :=
    times_lt_of_added hwell
  have hbecomes := becomes_verdict hwell frame
  generalize f.applyFrame frame = g at hafter htimes hbecomes
  generalize f.verdict frame = v at htimes hbecomes
  have hstays : v ≠ .added → g.store.entries = f.store.entries := by
    intro hv
    cases hbecomes with
    | other _ hfeed => rw [hfeed]
    | undecodable _ _ hfeed => rw [hfeed]
    | duplicate _ _ _ hfeed => rw [hfeed]
    | added => exact absurd rfl hv
    | late _ _ _ _ _ _ hentries => exact hentries
  refine ⟨?_, hafter, ?_, ?_, ?_, ?_, ?_, ?_, ?times, ?moves, ?stays⟩
  case times =>
    by_cases hadded : v = .added
    · exact le_of_lt (htimes hadded)
    · rw [hstays hadded]
  case moves => exact fun hadded => htimes (List.mem_singleton.mp hadded).symm
  case stays => exact fun hnone => hstays fun hadded => hnone (List.mem_singleton.mpr hadded.symm)
  -- the rest can be read off the feed that each verdict comes with
  all_goals cases hbecomes <;> (rename_i hfeed; rw [hfeed] <;> rfl)

/-- **The counters count the verdicts**, frame by frame. -/
theorem counts_foldl (hwell : f.store.WellFormed) (frames : List Frame) :
    Counts f (frames.foldl applyFrame f) (f.verdicts frames) := by
  induction frames generalizing f with
  | nil => exact .refl hwell
  | cons frame frames ih =>
    have hfirst := counts_applyFrame hwell frame
    exact hfirst.trans (ih hfirst.wellFormed)

/-- Octets that are counted do not bear on verdicts. -/
theorem verdicts_count (f : Feed) (octets : List UInt8) (frames : List Frame) :
    (f.count octets).verdicts frames = f.verdicts frames := by
  induction frames generalizing f with
  | nil => rfl
  | cons frame frames ih => rw [verdicts, verdicts, applyFrame_count, ih]; rfl

theorem counts_applyChunk (hwell : f.store.WellFormed) (chunk : List UInt8) (frames : List Frame) :
    Counts (f.count chunk) (f.applyChunk chunk frames) (f.verdicts frames) := by
  rw [← verdicts_count f chunk frames]
  apply counts_foldl
  exact hwell

/-- **The revision moves exactly if the records do**, however many frames there are. -/
theorem Counts.revision_ne_iff (h : Counts f g vs) :
    g.revision.value ≠ f.revision.value ↔ g.store.entries ≠ f.store.entries := by
  rw [h.revision]
  by_cases hadded : .added ∈ vs
  · have hpos : 0 < vs.count .added := List.count_pos_iff.mpr hadded
    have hmoves := h.moves hadded
    constructor
    · exact fun _ hentries => absurd hmoves (hentries ▸ lt_irrefl _)
    · intro _ hvalue
      dsimp only at hvalue
      omega
  · rw [List.count_eq_zero.mpr hadded, h.stays hadded]
    exact ⟨fun hne => absurd rfl hne, fun hne => absurd rfl hne⟩

/-! ## The account of a run -/

/-- A feed shows the verdicts that were given, the records that the snapshot has added, and the
octets that were read. -/
structure Accounts (f : Feed) (vs : List Verdict) (seeded octets : Nat) : Prop where
  dropped : f.stats.framesDropped = vs.count .undecodable
  rejected : f.stats.duplicatesRejected = vs.count .duplicate
  merged : f.stats.recordsMerged = vs.count .added + seeded
  revision : f.revision
    = ⟨vs.count .added + f.snapshot.answers, vs.count .added + f.snapshot.answers⟩
  octets : f.stats.octetsReceived = octets

variable {seeded octets : Nat}

theorem Accounts.same (h : Accounts f vs seeded octets) (hsame : SameAccount f g) :
    Accounts g vs seeded octets where
  dropped := hsame.dropped.trans h.dropped
  rejected := hsame.rejected.trans h.rejected
  merged := hsame.merged.trans h.merged
  revision := by rw [hsame.revision, hsame.snapshot, h.revision]
  octets := hsame.octets.trans h.octets

theorem Accounts.applyChunk (h : Accounts f vs seeded octets) (hwell : f.store.WellFormed)
    (chunk : List UInt8) (frames : List Frame) :
    Accounts (f.applyChunk chunk frames) (vs ++ f.verdicts frames) seeded
      (octets + chunk.length) := by
  have hcounts := counts_applyChunk hwell chunk frames
  refine ⟨?_, ?_, ?_, ?_, ?_⟩
  · rw [hcounts.dropped, List.count_append, ← h.dropped]
    rfl
  · rw [hcounts.rejected, List.count_append, ← h.rejected]
    rfl
  · rw [hcounts.merged, List.count_append]
    show f.stats.recordsMerged + _ = _
    rw [h.merged]
    omega
  · rw [hcounts.revision, hcounts.snapshot, List.count_append]
    show Watched.mk (f.revision.value + _) (f.revision.version + _) = ⟨_ + f.snapshot.answers, _⟩
    rw [h.revision, Nat.add_right_comm]
    rfl
  · rw [hcounts.octets, ← h.octets]
    rfl

/-- The records that an answer for the snapshot adds. -/
def additions (f : Feed) : Except Failure Page → Nat
  | .ok page => (f.store.seed page.items).1
  | .error _ => 0

theorem Accounts.loadSnapshot (h : Accounts f vs seeded octets) (hpending : f.snapshot = .pending)
    (result : Except Failure Page) :
    Accounts (f.loadSnapshot result) vs (seeded + f.additions result) octets := by
  have hrevision := h.revision
  rw [hpending] at hrevision
  cases result with
  | ok page =>
    refine ⟨h.dropped, h.rejected, ?_, ?_, h.octets⟩
    · show f.stats.recordsMerged + _ = _
      rw [h.merged, Nat.add_assoc]
      rfl
    · show Watched.put f.revision (f.revision.value + 1) = _
      rw [hrevision]
      rfl
  | error cause =>
    refine ⟨h.dropped, h.rejected, h.merged, ?_, h.octets⟩
    show Watched.put f.revision (f.revision.value + 1) = _
    rw [hrevision]
    rfl

end Feed

namespace Session

variable {s t : Session} {a : Action} {config : Config} {vs : List Verdict} {added octets : Nat}

open Feed (Accounts)

/-- The verdicts of a run, in order. -/
def verdicts (s : Session) : List Action → List Verdict
  | [] => []
  | a :: as => s.feed.verdicts (s.frames a) ++ (s.perform a).verdicts as

/-- How many records a run adds that come with the snapshot. -/
def seeded (s : Session) : List Action → Nat
  | [] => 0
  | a :: as => ((s.arrival? a).map s.feed.additions).getD 0 + (s.perform a).seeded as

theorem accounts_perform (hreached : Reached config s) (h : Accounts s.feed vs added octets)
    (a : Action) :
    Accounts (s.perform a).feed (vs ++ s.feed.verdicts (s.frames a))
      (added + ((s.arrival? a).map s.feed.additions).getD 0) (octets + (s.octets a).length) := by
  refine Accounts.same ?_ (sameAccount_perform hreached a)
  unfold told
  cases harrival : s.arrival? a with
  | none => exact h.applyChunk hreached.wellFormed.1 _ _
  | some result =>
    have hnone := octets_of_arrival harrival
    rw [frames_of_octets hreached hnone, hnone, Feed.verdicts, List.append_nil]
    exact h.loadSnapshot (pending_of_arrival hreached harrival) result

theorem accounts_play (hreached : Reached config s) (h : Accounts s.feed vs added octets)
    (as : List Action) :
    Accounts (s.play as).feed (vs ++ s.verdicts as) (added + s.seeded as)
      (octets + ((s.history as).flatMap Intake.octets).length) := by
  induction as generalizing s vs added octets with
  | nil => simpa [verdicts, seeded, history] using h
  | cons a as ih =>
    have hrest := ih (hreached.perform a) (accounts_perform hreached h a)
    rw [verdicts, seeded, history, ← List.append_assoc, ← Nat.add_assoc, List.flatMap_append,
      List.length_append, ← Nat.add_assoc]
    exact hrest

/-! ## What views look at again -/

/-- **The revision moves exactly if the records or the outcome of the snapshot do.** -/
theorem revision_ne_iff (hreached : Reached config s) (a : Action) :
    (s.perform a).feed.revision.value ≠ s.feed.revision.value
      ↔ (s.perform a).feed.store.entries ≠ s.feed.store.entries
        ∨ (s.perform a).feed.snapshot ≠ s.feed.snapshot := by
  have hsame := sameAccount_perform hreached a
  rw [hsame.revision, hsame.store, hsame.snapshot]
  unfold told
  cases harrival : s.arrival? a with
  | none =>
    have hcounts := Feed.counts_applyChunk hreached.wellFormed.1 (s.octets a) (s.frames a)
    have hmoved : (s.feed.applyChunk (s.octets a) (s.frames a)).revision.value
          ≠ s.feed.revision.value
        ↔ (s.feed.applyChunk (s.octets a) (s.frames a)).store.entries ≠ s.feed.store.entries :=
      hcounts.revision_ne_iff
    have hsnapshot : (s.feed.applyChunk (s.octets a) (s.frames a)).snapshot = s.feed.snapshot :=
      hcounts.snapshot
    exact hmoved.trans (or_iff_left (not_not_intro hsnapshot)).symm
  | some result =>
    have hpending := pending_of_arrival hreached harrival
    have hanswered : (s.feed.loadSnapshot result).snapshot ≠ s.feed.snapshot := by
      rw [hpending]
      cases result <;> exact nofun
    have hmoved : (s.feed.loadSnapshot result).revision.value = s.feed.revision.value + 1 := by
      cases result <;> rfl
    refine ⟨fun _ => Or.inr hanswered, fun _ hvalue => ?_⟩
    dsimp only at hvalue
    omega

/-- **The counters and the revision account for every frame.** At any time of any run, also in the
middle of a chunk, one of five things becomes of the next frame, and the store says which
(`Feed.Becomes` lists when and with what effect). The counters are the numbers of verdicts of the
run, with the records that the snapshot has added; the revision is the number of records that the
stream has added, and one more once the snapshot has been loaded or has failed; the octets are those
of the chunks that were read. And an action moves the revision exactly if it changes the records or
the outcome of the snapshot. -/
theorem counters_of_play {visibility : Visibility} (hnew : new config visibility = .ok s)
    (as : List Action) :
    let t := s.play as
    let verdicts := s.verdicts as
    (∀ chunk before frame v, let f := t.feed.applyChunk chunk before
        f.Becomes frame (f.applyFrame frame) v ↔ v = f.verdict frame)
      ∧ (t.feed.stats.framesDropped = verdicts.count .undecodable
        ∧ t.feed.stats.duplicatesRejected = verdicts.count .duplicate)
      ∧ t.feed.stats.recordsMerged = verdicts.count .added + s.seeded as
      ∧ (let moves := verdicts.count .added + if t.feed.snapshot = .pending then 0 else 1
        t.feed.revision = ⟨moves, moves⟩)
      ∧ t.feed.stats.octetsReceived = ((s.history as).flatMap Intake.octets).length
      ∧ ∀ a, (t.perform a).feed.revision.value ≠ t.feed.revision.value
        ↔ (t.perform a).feed.store.entries ≠ t.feed.store.entries
          ∨ (t.perform a).feed.snapshot ≠ t.feed.snapshot := by
  intro t verdicts
  have hreached : Reached config s := reached_of_new hnew
  have hthen : Reached config t := hreached.play as
  have hinitial : Accounts s.feed [] 0 0 := by
    obtain ⟨-, rfl⟩ := new_eq_ok_iff.mp hnew
    exact ⟨rfl, rfl, rfl, rfl, rfl⟩
  have haccounts := accounts_play hreached hinitial as
  rw [List.nil_append, Nat.zero_add, Nat.zero_add] at haccounts
  refine ⟨fun chunk before frame v => ?_, ⟨haccounts.dropped, haccounts.rejected⟩,
    haccounts.merged, haccounts.revision, haccounts.octets, revision_ne_iff hthen⟩
  apply Feed.becomes_iff
  exact (Feed.counts_applyChunk hthen.wellFormed.1 chunk before).wellFormed

/-- Frames of which one has another type, one carries nothing, and one a record. -/
def mixedChunk : List UInt8 :=
  Scenario.frameOctets "ping" "" ++ Scenario.frameOctets smallConfig.recordEvent "nothing"
    ++ smallFrame

/-- They are read, and then the snapshot fails. -/
def mixedRun : List Action :=
  smallOpening ++ [sendSmall mixedChunk, .link .signals,
    .serve (.snapshot (.error (.snapshot "busy" (some 503)))), .load]

theorem counters_of_mixedRun :
    (initial smallConfig .always).verdicts mixedRun = [.other, .undecodable, .added]
      ∧ ((initial smallConfig .always).play mixedRun).feed.stats.framesDropped = 1
      ∧ ((initial smallConfig .always).play mixedRun).feed.stats.recordsMerged = 1
      ∧ ((initial smallConfig .always).play mixedRun).feed.revision = ⟨2, 2⟩
      ∧ ((initial smallConfig .always).play mixedRun).feed.stats.octetsReceived
        = mixedChunk.length := by
  obtain ⟨-, ⟨hdropped, -⟩, hmerged, hrevision, hoctets, -⟩ :=
    counters_of_play new_smallConfig mixedRun
  have hverdicts : (initial smallConfig .always).verdicts mixedRun
      = [.other, .undecodable, .added] := by
    decide +kernel
  have hseeded : (initial smallConfig .always).seeded mixedRun = 0 := by decide +kernel
  have hsnapshot : ((initial smallConfig .always).play mixedRun).feed.snapshot ≠ .pending := by
    decide +kernel
  have hread : ((initial smallConfig .always).history mixedRun).flatMap Intake.octets
      = mixedChunk := by
    decide +kernel
  rw [hverdicts] at hdropped hmerged hrevision
  rw [hseeded] at hmerged
  rw [hread] at hoctets
  rw [if_neg hsnapshot] at hrevision
  exact ⟨hverdicts, hdropped, hmerged, hrevision, hoctets⟩

end Session

end ActivityFeed
