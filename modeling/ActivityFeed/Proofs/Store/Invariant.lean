import ActivityFeed.Proofs.Instant.Order
import ActivityFeed.Store
import Mathlib.Data.List.Nodup

/-!
# What every store keeps

A store sorts, cuts and forgets on each call, and keeps a second account of the identifiers it
holds. `WellFormed` says what is true between calls: the records fit, no two share an identifier,
they stand newest first, and the account of identifiers is exact. Exactness is the delicate part,
because a batch extends the account record by record and only the cut at its end makes it shrink;
`Indexed` is what holds in between, and `Indexed.settle` restores the rest.

Main result: `calls_wellFormed`, for any number of calls with any records. `entries_seed` and
`entries_merge` give the records after a call as one cut of one sort, for those who want to know
which records are kept and not only that they are in order.
-/

namespace ActivityFeed

theorem Record.isNewer_iff {a b : Record} : a.isNewer b = true ↔ b.createdAt ≤ a.createdAt :=
  Iff.rfl

namespace Store

variable {s : Store}

/-! ## Calls -/

/-- One call that changes a store. -/
inductive Call where
  | merge (record : Record)
  | seed (batch : List Record)
deriving DecidableEq, Repr, Inhabited

/-- The store after a call. -/
def call (s : Store) : Call → Store
  | .merge record => (s.merge record).2
  | .seed batch => (s.seed batch).2

/-- The store after several calls. -/
def calls (s : Store) (cs : List Call) : Store :=
  cs.foldl call s

/-- What holds while a batch is being added: one entry for each identifier, and the account of
identifiers lists those of the entries. -/
structure Indexed (s : Store) : Prop where
  distinct : (s.entries.map Record.id).Nodup
  seen : ∀ id, s.contains id = true ↔ id ∈ s.entries.map Record.id

/-- What holds between calls. -/
structure WellFormed (s : Store) : Prop extends Indexed s where
  sorted : s.entries.Pairwise fun a b => b.createdAt ≤ a.createdAt
  bounded : s.entries.length ≤ s.capacity

theorem empty_wellFormed (capacity : Nat) : (empty capacity).WellFormed where
  distinct := List.nodup_nil
  seen id := by simp [empty, contains]
  sorted := List.Pairwise.nil
  bounded := Nat.zero_le _

/-! ## Adding records -/

@[simp] theorem capacity_append (s : Store) (r : Record) : (s.append r).capacity = s.capacity := by
  unfold append
  split <;> rfl

@[simp] theorem capacity_foldl_append (s : Store) (batch : List Record) :
    (batch.foldl append s).capacity = s.capacity := by
  induction batch generalizing s with
  | nil => rfl
  | cons r rest ih => rw [List.foldl_cons, ih, capacity_append]

theorem append_of_contains {r : Record} (h : s.contains r.id = true) : s.append r = s :=
  if_pos h

theorem entries_append {r : Record} (h : ¬s.contains r.id = true) :
    (s.append r).entries = s.entries ++ [r] := by
  rw [append, if_neg h]

/-- An identifier that is not held comes with its record, one that is held changes nothing. -/
theorem Indexed.append (h : s.Indexed) (r : Record) : (s.append r).Indexed := by
  by_cases hheld : s.contains r.id = true
  · rw [append_of_contains hheld]
    exact h
  · have hfresh : r.id ∉ s.entries.map Record.id := fun hmem => hheld ((h.seen r.id).mpr hmem)
    constructor
    · rw [entries_append hheld, List.map_append, List.map_singleton, ← List.concat_eq_append]
      exact h.distinct.concat hfresh
    · intro id
      have hseen : (s.append r).contains id = true ↔ id = r.id ∨ s.contains id = true := by
        rw [Store.append, if_neg hheld]
        simp [contains]
      rw [hseen, entries_append hheld, h.seen id]
      simp [or_comm]

theorem Indexed.foldl_append (h : s.Indexed) (batch : List Record) :
    (batch.foldl Store.append s).Indexed := by
  induction batch generalizing s with
  | nil => exact h
  | cons r rest ih => exact ih (h.append r)

/-- Adding a batch only adds at the end. -/
theorem entries_prefix_foldl_append (s : Store) (batch : List Record) :
    s.entries <+: (batch.foldl append s).entries := by
  induction batch generalizing s with
  | nil => exact List.prefix_rfl
  | cons r rest ih =>
    have hstep : s.entries <+: (s.append r).entries := by
      by_cases hheld : s.contains r.id = true
      · exact (append_of_contains hheld).symm ▸ List.prefix_rfl
      · rw [entries_append hheld]
        exact List.prefix_append _ _
    exact hstep.trans (ih (s.append r))

/-! ## Sorting and cutting -/

/-- Entries as they stand after sorting, newest first and otherwise in the order of arrival. -/
def inOrder (records : List Record) : List Record :=
  records.mergeSort Record.isNewer

theorem inOrder_perm (records : List Record) : (inOrder records).Perm records :=
  List.mergeSort_perm records Record.isNewer

theorem inOrder_sorted (records : List Record) :
    (inOrder records).Pairwise fun a b => b.createdAt ≤ a.createdAt := by
  refine (@List.pairwise_mergeSort _ Record.isNewer ?_ ?_ records).imp
    fun h => Record.isNewer_iff.mp h
  · intro a b c hab hbc
    exact le_trans (Record.isNewer_iff.mp hbc) (Record.isNewer_iff.mp hab)
  · intro a b
    rw [Bool.or_eq_true, Record.isNewer_iff, Record.isNewer_iff]
    exact le_total _ _

theorem inOrder_of_sorted {records : List Record}
    (h : records.Pairwise fun a b => b.createdAt ≤ a.createdAt) : inOrder records = records :=
  List.mergeSort_of_pairwise (h.imp fun hab => Record.isNewer_iff.mpr hab)

@[simp] theorem capacity_settle (s : Store) : s.settle.capacity = s.capacity := by
  unfold settle
  dsimp only
  split <;> rfl

theorem entries_settle (s : Store) : s.settle.entries = (inOrder s.entries).take s.capacity := by
  unfold settle
  dsimp only
  split
  next => rfl
  next h => exact (List.take_of_length_le (Nat.le_of_not_lt h)).symm

/-- Settling keeps exactly the identifiers of the records it keeps: they are counted anew where
something was cut, and are the same ones where nothing was. -/
theorem contains_settle (h : s.Indexed) (id : String) :
    s.settle.contains id = true ↔ id ∈ s.settle.entries.map Record.id := by
  unfold settle
  dsimp only
  split
  next => simp [contains]
  next =>
    show s.contains id = true ↔ id ∈ (inOrder s.entries).map Record.id
    rw [h.seen id, ((inOrder_perm s.entries).map Record.id).mem_iff]

theorem Indexed.settle (h : s.Indexed) : s.settle.WellFormed := by
  have hdistinct : ((inOrder s.entries).map Record.id).Nodup :=
    ((inOrder_perm s.entries).map Record.id).nodup_iff.mpr h.distinct
  refine ⟨⟨?_, contains_settle h⟩, ?_, ?_⟩
  · rw [entries_settle, List.map_take]
    exact hdistinct.sublist (List.take_sublist _ _)
  · rw [entries_settle]
    exact (inOrder_sorted s.entries).sublist (List.take_sublist _ _)
  · rw [entries_settle, capacity_settle]
    exact List.length_take_le _ _

/-! ## Whole calls -/

@[simp] theorem capacity_seed (s : Store) (batch : List Record) :
    (s.seed batch).2.capacity = s.capacity := by
  unfold seed
  dsimp only
  split <;> simp

@[simp] theorem capacity_merge (s : Store) (r : Record) :
    (s.merge r).2.capacity = s.capacity := by
  unfold merge
  split <;> simp

theorem WellFormed.seed (h : s.WellFormed) (batch : List Record) :
    (s.seed batch).2.WellFormed := by
  unfold Store.seed
  dsimp only
  split
  next => exact (h.toIndexed.foldl_append batch).settle
  next => exact h

theorem WellFormed.merge (h : s.WellFormed) (r : Record) : (s.merge r).2.WellFormed := by
  unfold Store.merge
  split
  next => exact h
  next => exact (h.toIndexed.append r).settle

theorem WellFormed.calls (h : s.WellFormed) (cs : List Call) :
    (s.calls cs).WellFormed ∧ (s.calls cs).capacity = s.capacity := by
  induction cs generalizing s with
  | nil => exact ⟨h, rfl⟩
  | cons c rest ih =>
    have hstep : (s.call c).WellFormed ∧ (s.call c).capacity = s.capacity := by
      cases c with
      | merge r => exact ⟨h.merge r, capacity_merge s r⟩
      | seed batch => exact ⟨h.seed batch, capacity_seed s batch⟩
    obtain ⟨hrest, hcap⟩ := ih hstep.1
    exact ⟨hrest, hcap.trans hstep.2⟩

/-- A batch leaves the newest of what was held and what it added, whether or not it added
anything. -/
theorem entries_seed (h : s.WellFormed) (batch : List Record) :
    (s.seed batch).2.entries
      = (inOrder (batch.foldl append s).entries).take s.capacity := by
  unfold Store.seed
  dsimp only
  split
  next => rw [entries_settle, capacity_foldl_append]
  next hnone =>
    -- a batch of records that are all held leaves the store alone, which is sorted and cut already
    have hsame : s.entries = (batch.foldl append s).entries :=
      (entries_prefix_foldl_append s batch).eq_of_length_le (by omega)
    rw [← hsame, inOrder_of_sorted h.sorted, List.take_of_length_le h.bounded]

/-- One record leaves the same as a batch of it alone. -/
theorem entries_merge (h : s.WellFormed) (r : Record) :
    (s.merge r).2.entries = (inOrder (s.append r).entries).take s.capacity := by
  unfold Store.merge
  split
  next hheld =>
    rw [append_of_contains hheld, inOrder_of_sorted h.sorted, List.take_of_length_le h.bounded]
  next => rw [entries_settle, capacity_append]

/-! ## The invariant over whole runs -/

/-- The first of records that stand newest first has the largest creation time of them. -/
theorem WellFormed.latest_eq_max (h : s.WellFormed) :
    s.latest = (s.entries.map Record.createdAt).max? := by
  have hmax : (s.entries.map Record.createdAt).Pairwise fun a b => max a b = a :=
    List.pairwise_map.mpr (h.sorted.imp fun hab => max_eq_left hab)
  rw [List.max?_eq_head? hmax, List.head?_map, latest]

/-- **The store's invariant.** After any calls with any records (identifiers that come back with
other times or other contents, times that are equal, batches longer than the capacity, batches of
records that are held already), a store holds no more records than its capacity, no two of them
under one identifier, newest first; it counts as held exactly the identifiers of its records; and
its cursor is the largest creation time among them, or nothing when it is empty. -/
theorem calls_wellFormed (capacity : Nat) (cs : List Call) :
    let s := (empty capacity).calls cs
    s.capacity = capacity
      ∧ s.entries.length ≤ capacity
      ∧ (s.entries.map Record.id).Nodup
      ∧ (s.entries.Pairwise fun a b => b.createdAt ≤ a.createdAt)
      ∧ (∀ id, s.contains id = true ↔ ∃ r ∈ s.entries, r.id = id)
      ∧ s.latest = (s.entries.map Record.createdAt).max? := by
  intro s
  obtain ⟨h, hcap⟩ := (empty_wellFormed capacity).calls cs
  refine ⟨hcap, ?_, h.distinct, h.sorted, ?_, h.latest_eq_max⟩
  · calc s.entries.length
      _ ≤ s.capacity := h.bounded
      _ = capacity := hcap
  · intro id
    rw [h.seen id, List.mem_map]

end Store

end ActivityFeed
