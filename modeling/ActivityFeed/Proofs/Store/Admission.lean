import ActivityFeed.Proofs.Store.Kept
import ActivityFeed.Proofs.Store.Window
import Mathlib.Data.List.Lex

/-!
# What becomes of one record

A record whose identifier is not held finds its place behind all records that are at least as new,
and the capacity cuts behind it. It is kept if there are fewer of these than fit (`admits`), and
then the store is another one; if there are not, the store is full of records at least as new, and
stays as it is (`merge_of_admits`, `merge_of_not_admits`).

A store only moves forward. No call makes its newest record an older one (`latest_le_calls`),
however much is cut and comes back. And every record that is kept makes the list of creation times a
later one in the order of the dictionary (`times_lt_of_admits`), so that a store never returns to
records that it has had before.
-/

namespace ActivityFeed.Store

variable {s : Store} {r : Record} {k : Nat}

/-- Whether a new record would be kept: fewer records than fit are at least as new. -/
def admits (s : Store) (r : Record) : Bool :=
  s.entries.countP (·.isNewer r) < s.capacity

/-- The creation times of the records, newest first. -/
def times (records : List Record) : List Instant :=
  records.map Record.createdAt

/-! ## Placing a record and cutting behind it -/

/-- A record that is placed before the cut stands between those in front of it, which all stay, and
an older one, if there is one. -/
theorem exists_take_place {records : List Record} (h : records.countP (·.isNewer r) < k) :
    ∃ front back kept, records = front ++ back ∧ (place r records).take k = front ++ r :: kept
      ∧ ∀ x, back.head? = some x → x.createdAt < r.createdAt := by
  refine ⟨records.takeWhile (·.isNewer r), records.dropWhile (·.isNewer r),
    (records.dropWhile (·.isNewer r)).take (k - (records.takeWhile (·.isNewer r)).length - 1),
    List.takeWhile_append_dropWhile.symm, ?_, ?_⟩
  · have hfront : (records.takeWhile (·.isNewer r)).length ≤ records.countP (·.isNewer r) := by
      rw [← List.countP_eq_length.mpr fun x hx => List.all_eq_true.mp (List.all_takeWhile) x hx]
      exact (List.takeWhile_prefix _).sublist.countP_le
    obtain ⟨m, hm⟩ : ∃ m, k - (records.takeWhile (·.isNewer r)).length = m + 1 :=
      ⟨k - (records.takeWhile (·.isNewer r)).length - 1, by omega⟩
    rw [place, List.take_append, List.take_of_length_le (by omega), hm, List.take_succ_cons,
      Nat.add_sub_cancel]
  · intro x hx
    have hnot := List.head?_dropWhile_not (·.isNewer r) records
    rw [hx] at hnot
    exact lt_of_not_ge fun hle => Bool.false_ne_true (hnot.symm.trans (Record.isNewer_iff.mpr hle))

/-- The times up to the place of a record stay, and the one there becomes a later one. -/
theorem times_lt_take_place {records : List Record} (h : records.countP (·.isNewer r) < k) :
    times records < times ((place r records).take k) := by
  obtain ⟨front, back, kept, hrecords, hkept, holder⟩ := exists_take_place h
  have hbefore : times records = times front ++ times back := by
    rw [hrecords, times, List.map_append, times, times]
  rw [hkept, hbefore, times, times, times, List.map_append]
  refine List.append_left_lt ?_
  cases back with
  | nil => exact List.nil_lt_cons _ _
  | cons x back => exact List.cons_lt_cons_iff.mpr (Or.inl (holder x rfl))

/-! ## Merging a record -/

theorem merge_of_contains (h : s.contains r.id = true) : s.merge r = (false, s) := by
  rw [merge, if_pos h]

/-- A record whose identifier is new is placed among the others. -/
theorem entries_merge_of_new (h : s.WellFormed) (hnew : ¬s.contains r.id = true) :
    (s.merge r).2.entries = (place r s.entries).take s.capacity := by
  rw [entries_merge h, entries_append hnew, inOrder_concat, inOrder_of_sorted h.sorted]

/-- The records after one more has been offered. -/
def offer (k : Nat) (records : List Record) (r : Record) : List Record :=
  if r.id ∈ records.map Record.id then records else (place r records).take k

/-- Merging sorts, but one more record among sorted ones is only placed. -/
theorem entries_merge_eq_offer (h : s.WellFormed) (r : Record) :
    (s.merge r).2.entries = offer s.capacity s.entries r := by
  unfold offer
  by_cases hheld : s.contains r.id = true
  · rw [merge_of_contains hheld, if_pos ((h.seen r.id).mp hheld)]
  · rw [entries_merge_of_new h hheld, if_neg (mt (h.seen r.id).mpr hheld)]

theorem entries_mergeAll (h : s.WellFormed) (records : List Record) :
    (s.mergeAll records).entries = records.foldl (offer s.capacity) s.entries := by
  induction records generalizing s with
  | nil => rfl
  | cons r records ih =>
    rw [List.foldl_cons, ← entries_merge_eq_offer h, ← capacity_merge s r]
    exact ih (h.merge r)

/-- What a merge says is whether the record is held because of it. -/
theorem merge_fst (hnew : ¬s.contains r.id = true) :
    (s.merge r).1 = (s.merge r).2.contains r.id := by
  simp only [merge, hnew, Bool.false_eq_true, if_false]

theorem not_mem_of_not_contains (h : s.WellFormed) (hnew : ¬s.contains r.id = true) :
    r ∉ s.entries :=
  fun hr => hnew ((h.seen r.id).mpr (List.mem_map_of_mem hr))

/-- The records move forward. -/
theorem times_lt_of_admits (h : s.WellFormed) (hnew : ¬s.contains r.id = true)
    (hadmits : s.admits r = true) : times s.entries < times (s.merge r).2.entries := by
  rw [entries_merge_of_new h hnew]
  exact times_lt_take_place (of_decide_eq_true hadmits)

/-- **A record that is admitted is held afterwards**, and was not before. -/
theorem merge_of_admits (h : s.WellFormed) (hnew : ¬s.contains r.id = true)
    (hadmits : s.admits r = true) :
    (s.merge r).1 = true ∧ (s.merge r).2.contains r.id = true
      ∧ (s.merge r).2.entries ≠ s.entries := by
  have hr : r ∈ (s.merge r).2.entries := by
    obtain ⟨front, back, kept, -, hkept, -⟩ := exists_take_place (of_decide_eq_true hadmits)
    rw [entries_merge_of_new h hnew, hkept]
    exact List.mem_append_right _ List.mem_cons_self
  have hheld : (s.merge r).2.contains r.id = true :=
    ((h.merge r).seen r.id).mpr (List.mem_map_of_mem hr)
  refine ⟨(merge_fst hnew).trans hheld, hheld, fun hsame => ?_⟩
  exact not_mem_of_not_contains h hnew (hsame ▸ hr)

/-- A record that is not admitted finds the store full of records that are at least as new. -/
theorem full_of_not_admits (h : s.WellFormed) (hadmits : s.admits r = false) :
    s.entries.length = s.capacity ∧ ∀ x ∈ s.entries, r.createdAt ≤ x.createdAt := by
  have hcount : s.capacity ≤ s.entries.countP (·.isNewer r) :=
    Nat.le_of_not_lt (of_decide_eq_false hadmits)
  have hlength : s.entries.countP (·.isNewer r) ≤ s.entries.length := List.countP_le_length
  have hbounded := h.bounded
  have hall : s.entries.countP (·.isNewer r) = s.entries.length := by omega
  exact ⟨by omega, fun x hx => Record.isNewer_iff.mp (List.countP_eq_length.mp hall x hx)⟩

/-- **A record that is not admitted leaves everything as it is.** -/
theorem merge_of_not_admits (h : s.WellFormed) (hnew : ¬s.contains r.id = true)
    (hadmits : s.admits r = false) :
    (s.merge r).1 = false ∧ (s.merge r).2.entries = s.entries
      ∧ ∀ id, (s.merge r).2.contains id = s.contains id := by
  obtain ⟨hfull, holder⟩ := full_of_not_admits h hadmits
  have hall : s.entries.take s.capacity = s.entries := List.take_of_length_le (Nat.le_of_eq hfull)
  have hentries : (s.merge r).2.entries = s.entries := by
    rw [entries_merge_of_new h hnew, take_place_of_forall (Nat.le_of_eq hfull.symm), hall]
    rw [hall]
    exact fun x hx => Record.isNewer_iff.mpr (holder x hx)
  have hcontains : ∀ id, (s.merge r).2.contains id = s.contains id := by
    intro id
    rw [Bool.eq_iff_iff, (h.merge r).seen id, h.seen id, hentries]
  refine ⟨?_, hentries, hcontains⟩
  rw [merge_fst hnew, hcontains]
  simpa using hnew

/-! ## The newest record -/

/-- No record that is held is newer than the newest one. -/
theorem createdAt_le_latest (h : s.WellFormed) (hr : r ∈ s.entries) :
    some r.createdAt ≤ s.latest := by
  have hsorted := h.sorted
  unfold latest
  cases hentries : s.entries with
  | nil =>
    rw [hentries] at hr
    cases hr
  | cons x rest =>
    rw [hentries, List.pairwise_cons] at hsorted
    rw [hentries] at hr
    show some r.createdAt ≤ some x.createdAt
    rw [Option.some_le_some]
    rcases List.mem_cons.mp hr with rfl | hr
    · exact le_refl _
    · exact hsorted.1 r hr

/-- A call sorts what was held together with what it adds, and cuts. -/
theorem exists_entries_call (h : s.WellFormed) (c : Call) :
    ∃ grown, s.entries ⊆ grown ∧ (s.call c).entries = (inOrder grown).take s.capacity := by
  cases c with
  | merge r => exact ⟨_, (entries_prefix_foldl_append s [r]).subset, entries_merge h r⟩
  | seed batch => exact ⟨_, (entries_prefix_foldl_append s batch).subset, entries_seed h batch⟩

/-- The newest of all is not cut, as long as anything fits. -/
theorem exists_mem_take_inOrder {records : List Record} (hk : 0 < k) (hr : r ∈ records) :
    ∃ x ∈ (inOrder records).take k, r.createdAt ≤ x.createdAt := by
  have hmem : r ∈ inOrder records := (inOrder_perm records).mem_iff.mpr hr
  have hsorted := inOrder_sorted records
  cases hsplit : inOrder records with
  | nil =>
    rw [hsplit] at hmem
    cases hmem
  | cons x rest =>
    rw [hsplit] at hmem
    rw [hsplit, List.pairwise_cons] at hsorted
    refine ⟨x, ?_, ?_⟩
    · obtain ⟨k, rfl⟩ : ∃ k', k = k' + 1 := ⟨k - 1, by omega⟩
      exact List.mem_cons_self
    · rcases List.mem_cons.mp hmem with rfl | hrest
      · exact le_refl _
      · exact hsorted.1 r hrest

/-- Cursors compare as instants do, and one that is absent comes first. -/
theorem cursor_le_trans {a b c : Option Instant} (hab : a ≤ b) (hbc : b ≤ c) : a ≤ c := by
  cases a with
  | none => exact Option.none_le
  | some x =>
    cases b with
    | none => cases hab
    | some y =>
      cases c with
      | none => cases hbc
      | some z => exact Option.some_le_some.mpr (le_trans (Option.some_le_some.mp hab)
          (Option.some_le_some.mp hbc))

theorem latest_le_call (h : s.WellFormed) (hcapacity : 0 < s.capacity) (c : Call) :
    s.latest ≤ (s.call c).latest := by
  have hcall : (s.call c).WellFormed := (h.calls [c]).1
  obtain ⟨grown, hgrown, hentries⟩ := exists_entries_call h c
  cases hlatest : s.latest with
  | none => exact Option.none_le
  | some newest =>
    obtain ⟨x, hx, rfl⟩ := Option.map_eq_some_iff.mp hlatest
    obtain ⟨y, hy, hxy⟩ := exists_mem_take_inOrder hcapacity (hgrown (List.mem_of_mem_head? hx))
    rw [← hentries] at hy
    exact cursor_le_trans (Option.some_le_some.mpr hxy) (createdAt_le_latest hcall hy)

/-- **The newest record is never replaced by an older one**, whatever is offered. -/
theorem latest_le_calls (h : s.WellFormed) (hcapacity : 0 < s.capacity) (cs : List Call) :
    s.latest ≤ (s.calls cs).latest := by
  induction cs generalizing s with
  | nil =>
    cases hlatest : s.latest with
    | none => exact Option.none_le
    | some newest =>
      show some newest ≤ s.latest
      rw [hlatest]
      exact Option.some_le_some.mpr (le_refl newest)
  | cons c cs ih =>
    obtain ⟨hcall, hsame⟩ := h.calls [c]
    exact cursor_le_trans (latest_le_call h hcapacity c) (ih hcall (hsame.symm ▸ hcapacity))

end ActivityFeed.Store
