import ActivityFeed.Proofs.Instant.Text
import ActivityFeed.Proofs.Store.Invariant
import Mathlib.Data.List.Sort

/-!
# A store as a window on a log

A server keeps a `Log`: records that come one after the other, each with a later time and an
identifier of its own. What a reader of the log holds ought to be a window at the end of what it has
got: `s.Shows log p` says that the store `s` holds exactly the newest of the first `p` records of
the log, as many as fit.

Records reach a store late, twice, or after newer ones, so that a call can offer records which the
window has left behind long ago. `seed_shows` says when a call leaves a window nevertheless: where
every record that belongs into the new window is held already or offered by the call. The three
ways in which records come are cases of it: one record (`merge_shows`), records in a row
(`mergeAll_shows`), and a page of the newest ones (`page_shows`). None of them moves the window
back.
-/

namespace ActivityFeed

/-- Records as a server keeps them, oldest first. -/
structure Log where
  records : List Record
  increasing : records.Pairwise fun a b => a.createdAt < b.createdAt
  distinct : (records.map Record.id).Nodup
  dated : ∀ r ∈ records, r.createdAt.IsDated

namespace Log

variable {log : Log}

theorem nodup (log : Log) : log.records.Nodup :=
  log.distinct.of_map _

theorem eq_of_id {a b : Record} (ha : a ∈ log.records) (hb : b ∈ log.records)
    (h : a.id = b.id) : a = b :=
  List.inj_on_of_nodup_map log.distinct ha hb h

theorem eq_of_createdAt {a b : Record} (ha : a ∈ log.records) (hb : b ∈ log.records)
    (h : a.createdAt = b.createdAt) : a = b := by
  have hnodup : (log.records.map Record.createdAt).Nodup :=
    List.pairwise_map.mpr (log.increasing.imp fun hab => ne_of_lt hab)
  exact List.inj_on_of_nodup_map hnodup ha hb h

end Log

/-- The newest `k` records of a log, newest first. -/
def newest (k : Nat) (records : List Record) : List Record :=
  records.reverse.take k

theorem newest_subset (k : Nat) (records : List Record) : newest k records ⊆ records := by
  intro r hr
  exact List.mem_reverse.mp (List.mem_of_mem_take hr)

theorem newest_mono {k l : Nat} (h : k ≤ l) (records : List Record) :
    newest k records ⊆ newest l records :=
  (List.take_prefix_take_left h).subset

/-- One more record is one of the newest, and the others are of the newest before. -/
theorem mem_newest_concat {k : Nat} {records : List Record} {r x : Record}
    (h : x ∈ newest k (records ++ [r])) : x = r ∨ x ∈ newest k records := by
  cases k with
  | zero => simp [newest] at h
  | succ k =>
    rw [newest, List.reverse_append, List.reverse_singleton, List.singleton_append,
      List.take_succ_cons, List.mem_cons] at h
    refine h.imp_right fun hx => ?_
    exact newest_mono (Nat.le_succ k) records hx

/-- Cutting a part of a list gives the cut of the list, if the part has all that is in that cut. -/
theorem take_of_sublist {α : Type} {part whole : List α} (h : part.Sublist whole)
    (hnodup : whole.Nodup) {k : Nat} (hcover : ∀ x ∈ whole.take k, x ∈ part) :
    part.take k = whole.take k := by
  induction h generalizing k with
  | slnil => rfl
  | @cons part whole a h ih =>
    cases k with
    | zero => rfl
    | succ k =>
      -- an element that the part leaves out cannot be the first of the cut
      have ha : a ∈ part := hcover a (List.mem_cons_self ..)
      exact absurd (h.subset ha) (List.nodup_cons.mp hnodup).1
  | @cons_cons part whole a h ih =>
    cases k with
    | zero => rfl
    | succ k =>
      obtain ⟨ha, htail⟩ := List.nodup_cons.mp hnodup
      rw [List.take_succ_cons, List.take_succ_cons, ih htail]
      intro x hx
      have hxa : x ≠ a := fun heq => ha (heq ▸ List.mem_of_mem_take hx)
      exact (List.mem_cons.mp (hcover x (List.mem_cons_of_mem _ hx))).resolve_left hxa

namespace Store

variable {s : Store} {log : Log} {p : Nat}

/-- The store holds the newest of the first `p` records of a log. -/
def Shows (s : Store) (log : Log) (p : Nat) : Prop :=
  s.entries = newest s.capacity (log.records.take p)

/-! ## What a batch adds -/

theorem mem_entries_foldl_append {batch : List Record} {r : Record}
    (h : r ∈ (batch.foldl append s).entries) : r ∈ s.entries ∨ r ∈ batch := by
  induction batch generalizing s with
  | nil => exact Or.inl h
  | cons b rest ih =>
    rcases ih h with hr | hr
    · by_cases hheld : s.contains b.id = true
      · rw [append_of_contains hheld] at hr
        exact Or.inl hr
      · rw [entries_append hheld, List.mem_append, List.mem_singleton] at hr
        exact hr.imp_right fun heq : r = b => heq ▸ List.mem_cons_self ..
    · exact Or.inr (List.mem_cons_of_mem _ hr)

/-- Every identifier of the batch is held after it. -/
theorem id_mem_foldl_append (h : s.Indexed) {batch : List Record} {r : Record} (hr : r ∈ batch) :
    r.id ∈ (batch.foldl append s).entries.map Record.id := by
  induction batch generalizing s with
  | nil => cases hr
  | cons b rest ih =>
    rcases List.mem_cons.mp hr with rfl | hr
    · have hnow : r.id ∈ (s.append r).entries.map Record.id := by
        by_cases hheld : s.contains r.id = true
        · rw [append_of_contains hheld]
          exact (h.seen r.id).mp hheld
        · rw [entries_append hheld]
          simp
      exact ((entries_prefix_foldl_append (s.append r) rest).map Record.id).subset hnow
    · exact ih (h.append b) hr

/-- Sorting records of a log puts them as they stand in the log, the other way round. -/
theorem inOrder_sublist {records : List Record} (hnodup : records.Nodup)
    (hfrom : ∀ r ∈ records, r ∈ log.records.take p) :
    (inOrder records).Sublist (log.records.take p).reverse := by
  have hperm := inOrder_perm records
  have hlog : ∀ r ∈ inOrder records, r ∈ log.records.take p := fun r hr =>
    hfrom r (hperm.mem_iff.mp hr)
  have hsubperm : (inOrder records).Subperm (log.records.take p).reverse :=
    List.subperm_of_subset (hperm.nodup_iff.mpr hnodup) fun r hr => List.mem_reverse.mpr (hlog r hr)
  -- no two records of a log have the same time, so that the order of sorting is strict
  have hstrict : (inOrder records).Pairwise fun a b => b.createdAt < a.createdAt := by
    refine ((inOrder_sorted records).and (hperm.nodup_iff.mpr hnodup)).imp_of_mem ?_
    intro a b ha hb hab
    refine lt_of_le_of_ne hab.1 fun heq => hab.2 ?_
    exact log.eq_of_createdAt (List.mem_of_mem_take (hlog a ha)) (List.mem_of_mem_take (hlog b hb))
      heq.symm
  have hreverse : (log.records.take p).reverse.Pairwise fun a b => b.createdAt < a.createdAt :=
    List.pairwise_reverse.mpr (log.increasing.sublist (List.take_sublist _ _))
  have : Std.Antisymm fun a b : Record => b.createdAt < a.createdAt :=
    ⟨fun a b hab hba => absurd hab (lt_asymm hba)⟩
  exact List.sublist_of_subperm_of_pairwise hsubperm hstrict hreverse

/-- **A call leaves a window** if whatever belongs into it is held already or comes with the
call. -/
theorem seed_shows (h : s.WellFormed) (hs : s.Shows log p) {p' : Nat} (hp : p ≤ p')
    {batch : List Record} (hbatch : ∀ r ∈ batch, r ∈ log.records.take p')
    (hcover : ∀ r ∈ newest s.capacity (log.records.take p'), r ∈ s.entries ∨ r ∈ batch) :
    (s.seed batch).2.Shows log p' := by
  have hgrown := h.toIndexed.foldl_append batch
  have hold : ∀ r ∈ s.entries, r ∈ log.records.take p' := by
    intro r hr
    rw [hs] at hr
    exact (List.take_prefix_take_left hp).subset (newest_subset _ _ hr)
  have hfrom : ∀ r ∈ (batch.foldl append s).entries, r ∈ log.records.take p' := fun r hr =>
    (mem_entries_foldl_append hr).elim (hold r) (hbatch r)
  -- a record of the batch that is not added is held already, since identifiers tell records apart
  have hinto : ∀ r ∈ batch, r ∈ (batch.foldl append s).entries := by
    intro r hr
    obtain ⟨r', hr', hid⟩ := List.mem_map.mp (id_mem_foldl_append h.toIndexed hr)
    have heq : r' = r := log.eq_of_id (List.mem_of_mem_take (hfrom r' hr'))
      (List.mem_of_mem_take (hbatch r hr)) hid
    exact heq ▸ hr'
  rw [Shows, capacity_seed, entries_seed h]
  refine take_of_sublist (inOrder_sublist (hgrown.distinct.of_map _) hfrom)
    (List.nodup_reverse.mpr (log.nodup.sublist (List.take_sublist _ _))) fun r hr => ?_
  refine (inOrder_perm _).mem_iff.mpr ?_
  rcases hcover r hr with hr | hr
  · exact (entries_prefix_foldl_append s batch).subset hr
  · exact hinto r hr

/-! ## The ways in which records come -/

/-- A record that was got before, or the one after those, leaves a window. -/
theorem merge_shows (h : s.WellFormed) (hs : s.Shows log p) {i : Nat} (hi : i ≤ p)
    {r : Record} (hr : log.records[i]? = some r) :
    (s.merge r).2.Shows log (max p (i + 1)) := by
  have hsame : (s.merge r).2.entries = (s.seed [r]).2.entries := by
    rw [entries_merge h, entries_seed h]
    rfl
  have hmem : r ∈ log.records.take (i + 1) := by
    rw [List.take_add_one, hr]
    simp
  have hseed : (s.seed [r]).2.Shows log (max p (i + 1)) := by
    refine seed_shows h hs (le_max_left _ _) (fun x hx => ?_) fun x hx => ?_
    · rw [List.mem_singleton.mp hx]
      exact (List.take_prefix_take_left (le_max_right _ _)).subset hmem
    · rcases Nat.lt_or_eq_of_le hi with hlt | rfl
      · rw [max_eq_left hlt, ← hs] at hx
        exact Or.inl hx
      · -- the record comes right after the window, which moves on by it
        rw [max_eq_right (Nat.le_succ i), List.take_add_one, hr] at hx
        rcases mem_newest_concat hx with rfl | hx
        · exact Or.inr (List.mem_singleton_self x)
        · rw [← hs] at hx
          exact Or.inl hx
  rw [Shows, capacity_merge, hsame]
  rw [Shows, capacity_seed] at hseed
  exact hseed

/-- Adds records one by one. -/
def mergeAll (s : Store) (records : List Record) : Store :=
  records.foldl (fun s r => (s.merge r).2) s

/-- Records that stand in a row in the log, the first of them got before or the one after those,
leave a window up to the last of them. -/
theorem mergeAll_shows (h : s.WellFormed) (hs : s.Shows log p) {i : Nat} (hi : i ≤ p)
    {records : List Record} (hrow : records <+: log.records.drop i) :
    (s.mergeAll records).WellFormed ∧ (s.mergeAll records).capacity = s.capacity
      ∧ (s.mergeAll records).Shows log (max p (i + records.length)) := by
  induction records generalizing s i p with
  | nil =>
    refine ⟨h, rfl, ?_⟩
    rw [List.length_nil, Nat.add_zero, max_eq_left hi]
    exact hs
  | cons r rest ih =>
    obtain ⟨later, hlater⟩ := hrow
    have hr : log.records[i]? = some r := by
      rw [← List.head?_drop, ← hlater]
      rfl
    have hrest : rest <+: log.records.drop (i + 1) := by
      refine ⟨later, ?_⟩
      rw [← List.tail_drop, ← hlater]
      rfl
    obtain ⟨hwell, hcap, hshows⟩ := ih (h.merge r) (merge_shows h hs hi hr)
      (le_max_right p (i + 1)) hrest
    refine ⟨hwell, hcap.trans (capacity_merge s r), ?_⟩
    have hend : max (max p (i + 1)) (i + 1 + rest.length) = max p (i + (r :: rest).length) := by
      rw [List.length_cons]
      omega
    rw [← hend]
    exact hshows

/-- A page of the newest records that the log had at some time leaves a window, if the page holds
as much as the store. -/
theorem page_shows (h : s.WellFormed) (hs : s.Shows log p) {limit m : Nat}
    (hlimit : s.capacity ≤ limit) {items : List Record}
    (hitems : items.Perm (newest limit (log.records.take m))) :
    (s.seed items).2.Shows log (max p m) := by
  refine seed_shows h hs (le_max_left _ _) (fun r hr => ?_) fun r hr => ?_
  · exact (List.take_prefix_take_left (le_max_right _ _)).subset
      (newest_subset _ _ (hitems.mem_iff.mp hr))
  · rcases le_total m p with hm | hm
    · -- the page is older than the window
      rw [max_eq_left hm, ← hs] at hr
      exact Or.inl hr
    · rw [max_eq_right hm] at hr
      exact Or.inr (hitems.mem_iff.mpr (newest_mono hlimit _ hr))

/-- The cursor of a window is the time of the last record that was got. -/
theorem latest_of_shows (hs : s.Shows log p) (hcap : 0 < s.capacity) :
    s.latest = (log.records.take p).getLast?.map Record.createdAt := by
  rw [latest, hs, newest, List.head?_take, if_neg (by omega), List.head?_reverse]

end Store

end ActivityFeed
