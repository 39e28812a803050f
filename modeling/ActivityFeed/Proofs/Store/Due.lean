import ActivityFeed.Proofs.Store.Window

/-!
# What a request for the stream is due

A reader asks for the stream from the newest record on that it holds, in the text of a cursor, or
for all of it if it holds none. What it is due is that part of the log, in order: `due`. A log grows
while the connection lasts, and what is due grows with it.

Main result: `due_latest`. A store that shows the first `p` records of a log is due the log from
some place at or before `p` on, however long the log has become. So nothing is left out between what
is held and what comes; what comes twice is the record of the cursor itself, and others of the same
microsecond before it.
-/

namespace ActivityFeed.Log

variable {log later : Log}

/-- The records that a request is due: all of them, or those that are not older than the instant
that the text of its cursor denotes. -/
def due (log : Log) (since : Option Instant) : List Record :=
  match since with
  | none => log.records
  | some t => log.records.filter fun r => (Instant.ofText? t.cursor).any (· ≤ r.createdAt)

/-- A log that has grown. -/
def Extends (later log : Log) : Prop :=
  log.records <+: later.records

theorem Extends.refl (log : Log) : log.Extends log :=
  List.prefix_rfl

theorem Extends.take (h : later.Extends log) {p : Nat} (hp : p ≤ log.records.length) :
    later.records.take p = log.records.take p := by
  obtain ⟨rest, hrest⟩ := h
  rw [← hrest, List.take_append_of_le_length hp]

theorem Extends.drop (h : later.Extends log) (q : Nat) :
    log.records.drop q <+: later.records.drop q := by
  obtain ⟨rest, hrest⟩ := h
  rw [← hrest, List.drop_append]
  exact List.prefix_append _ _

/-- Records in the order of their times, those from an instant on. They are the last ones, and where
they begin does not depend on what comes behind a record that is one of them. -/
theorem filter_append_eq_drop {c : Instant} {records : List Record} {i : Nat} {r : Record}
    (hr : records[i]? = some r) (hc : c ≤ r.createdAt) :
    ∃ q ≤ i, ∀ rest : List Record,
      (records ++ rest).Pairwise (fun a b => a.createdAt < b.createdAt) →
      ((records ++ rest).filter fun x => decide (c ≤ x.createdAt)) = (records ++ rest).drop q := by
  induction records generalizing i with
  | nil => simp at hr
  | cons x records ih =>
    by_cases hx : c ≤ x.createdAt
    · -- the first record is one of those, and all others are later
      refine ⟨0, Nat.zero_le i, fun rest hincreasing => ?_⟩
      rw [List.drop_zero, List.filter_eq_self]
      intro y hy
      rcases List.mem_cons.mp hy with rfl | hy
      · simpa using hx
      · simpa using hx.trans ((List.pairwise_cons.mp hincreasing).1 y hy).le
    · cases i with
      | zero =>
        simp only [List.getElem?_cons_zero, Option.some.injEq] at hr
        exact absurd hc (hr ▸ hx)
      | succ i =>
        obtain ⟨q, hq, hdrop⟩ := ih (by simpa using hr)
        refine ⟨q + 1, Nat.succ_le_succ hq, fun rest hincreasing => ?_⟩
        rw [List.cons_append, List.filter_cons_of_neg (by simpa using hx), List.drop_succ_cons]
        exact hdrop rest (List.pairwise_cons.mp hincreasing).2

/-- A request from the time of a record on is due that record, and what comes after it. -/
theorem due_createdAt {i : Nat} {r : Record} (hr : log.records[i]? = some r) :
    ∃ q ≤ i, ∀ later : Log, later.Extends log →
      later.due (some r.createdAt) = later.records.drop q := by
  have hcursor := Instant.ofText?_cursor (log.dated r (List.mem_of_getElem? hr))
  obtain ⟨q, hq, hdrop⟩ := filter_append_eq_drop hr (Instant.cut_le r.createdAt)
  refine ⟨q, hq, fun later ⟨rest, hrest⟩ => ?_⟩
  have hlater := hdrop rest (hrest ▸ later.increasing)
  rw [hrest] at hlater
  simpa only [due, hcursor, Option.any_some] using hlater

/-- **No gap between what is held and what is due.** -/
theorem due_latest {s : Store} {p : Nat} (hs : s.Shows log p) (hcap : 0 < s.capacity) :
    ∃ q ≤ p, ∀ later : Log, later.Extends log → later.due s.latest = later.records.drop q := by
  rw [Store.latest_of_shows hs hcap]
  cases hlast : (log.records.take p).getLast? with
  | none => exact ⟨0, Nat.zero_le p, fun later _ => rfl⟩
  | some r =>
    rw [List.getLast?_eq_getElem?, List.getElem?_take] at hlast
    split at hlast
    next hi =>
      obtain ⟨q, hq, hdue⟩ := due_createdAt hlast
      exact ⟨q, by omega, hdue⟩
    next => cases hlast

end ActivityFeed.Log
