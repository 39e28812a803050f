import ActivityFeed.Proofs.Store.Admission

/-!
# What one merge does, exactly

A store appends a new record, sorts, cuts, and forgets identifiers where something was cut. On a
store that is sorted already this comes to an insertion: the new record goes between those that are
at least as new and the others (`place_eq_between`), and what no longer fits is dropped from the
end. There is at most one such record, since the store was not over-full before
(`exists_erase_take_place`).

A record that was offered once is settled by that. Either it is held and refused for its
identifier, or it found the store full of records at least as new, and leaves on every later offer
what it left on the first one, down to the account of identifiers (`merge_of_full`).

Main result: `merge_calls`.
-/

namespace ActivityFeed.Store

variable {s : Store} {r : Record} {k : Nat} {records : List Record}

/-! ## The place of a record among sorted ones -/

/-- The records with one more among them, behind all that are at least as new and before all
others. -/
def between (r : Record) (records : List Record) : List Record :=
  records.filter (fun x => r.createdAt ≤ x.createdAt)
    ++ r :: records.filter (fun x => x.createdAt < r.createdAt)

theorem mem_place {x : Record} : x ∈ place r records ↔ x = r ∨ x ∈ records := by
  have hsplit : x ∈ records
      ↔ x ∈ records.takeWhile (·.isNewer r) ∨ x ∈ records.dropWhile (·.isNewer r) := by
    rw [← List.mem_append, List.takeWhile_append_dropWhile]
  rw [place, List.mem_append, List.mem_cons, hsplit]
  tauto

/-- Among sorted records those that are at least as new come first. -/
theorem place_eq_between (h : records.Pairwise fun a b => b.createdAt ≤ a.createdAt) :
    place r records = between r records := by
  induction records with
  | nil => rfl
  | cons x records ih =>
    obtain ⟨hfirst, hrest⟩ := List.pairwise_cons.mp h
    rw [place_cons]
    by_cases hx : r.createdAt ≤ x.createdAt
    · rw [if_pos (Record.isNewer_iff.mpr hx), ih hrest]
      simp [between, hx]
    · -- the first record is older, and so are all others
      have holder : ∀ y ∈ x :: records, y.createdAt < r.createdAt := by
        intro y hy
        rcases List.mem_cons.mp hy with rfl | hy
        · exact lt_of_not_ge hx
        · exact lt_of_le_of_lt (hfirst y hy) (lt_of_not_ge hx)
      have hnone : (x :: records).filter (fun y => r.createdAt ≤ y.createdAt) = [] :=
        List.filter_eq_nil_iff.mpr fun y hy => by simpa using holder y hy
      have hall : (x :: records).filter (fun y => y.createdAt < r.createdAt) = x :: records :=
        List.filter_eq_self.mpr fun y hy => by simpa using holder y hy
      rw [if_neg (mt Record.isNewer_iff.mp hx), between, hnone, hall, List.nil_append]

/-- **At most the last record is lost.** Where the records fitted before, those that are left when
one more has been placed and the end been cut are the same ones, without the last one perhaps. -/
theorem exists_erase_take_place (hfits : records.length ≤ k) (hnew : r ∉ records) :
    ∃ lost, lost.length ≤ 1 ∧ records = ((place r records).take k).erase r ++ lost := by
  obtain ⟨front, back, hplace, hrecords⟩ :
      ∃ front back, place r records = front ++ r :: back ∧ records = front ++ back :=
    ⟨_, _, rfl, List.takeWhile_append_dropWhile.symm⟩
  rw [hrecords, List.length_append] at hfits
  rw [hrecords, List.mem_append, not_or] at hnew
  rw [hplace, List.take_append]
  rcases Nat.lt_or_ge front.length k with hlt | hge
  · -- the new record is kept, and takes the room of the last one if there was no other
    obtain ⟨m, hm⟩ : ∃ m, k - front.length = m + 1 := ⟨k - front.length - 1, by omega⟩
    refine ⟨back.drop m, ?_, ?_⟩
    · rw [List.length_drop]
      omega
    · rw [List.take_of_length_le (Nat.le_of_lt hlt), hm, List.take_succ_cons,
        List.erase_append_right _ hnew.1, List.erase_cons_head, List.append_assoc,
        List.take_append_drop, hrecords]
  · -- the new record is cut itself, and there was room for the others only
    have hback : back = [] := List.length_eq_zero_iff.mp (by omega)
    refine ⟨[], Nat.zero_le _, ?_⟩
    rw [Nat.sub_eq_zero_of_le hge, List.take_zero, List.append_nil, List.append_nil,
      List.take_of_length_le (by omega), List.erase_of_not_mem hnew.1, hrecords, hback,
      List.append_nil]

/-! ## One merge, and the same again -/

theorem merge_fst_iff (h : s.WellFormed) (hnew : ¬s.contains r.id = true) :
    (s.merge r).1 = true ↔ r ∈ (s.merge r).2.entries := by
  rw [merge_fst hnew, (h.merge r).seen r.id]
  constructor
  · intro hheld
    obtain ⟨x, hx, hid⟩ := List.mem_map.mp hheld
    -- of this identifier there is no other record than the one that came
    rw [entries_merge_of_new h hnew] at hx ⊢
    rcases mem_place.mp (List.mem_of_mem_take hx) with rfl | hold
    · exact hx
    · exact absurd ((h.seen r.id).mpr (hid ▸ List.mem_map_of_mem hold)) hnew
  · exact fun hr => List.mem_map_of_mem hr

/-- A merge that says no leaves everything as it was. -/
theorem merge_of_refused (h : s.WellFormed) (hrefused : (s.merge r).1 = false) :
    (s.merge r).2.entries = s.entries ∧ ∀ id, (s.merge r).2.contains id = s.contains id := by
  by_cases hheld : s.contains r.id = true
  · rw [merge_of_contains hheld]
    exact ⟨rfl, fun _ => rfl⟩
  · cases hadmits : s.admits r with
    | true =>
      rw [(merge_of_admits h hheld hadmits).1] at hrefused
      cases hrefused
    | false => exact (merge_of_not_admits h hheld hadmits).2

/-- A full store counts its identifiers anew when it is offered a new one. -/
theorem merge_of_full (hfull : s.entries.length = s.capacity) (hnew : ¬s.contains r.id = true) :
    (s.merge r).2
      = ⟨s.capacity, (s.merge r).2.entries, (s.merge r).2.entries.map Record.id⟩ := by
  have hlength : ((s.append r).entries.mergeSort Record.isNewer).length = s.capacity + 1 := by
    rw [List.length_mergeSort, entries_append hnew, List.length_append, hfull,
      List.length_singleton]
  have hcut : (s.append r).capacity < ((s.append r).entries.mergeSort Record.isNewer).length := by
    rw [capacity_append, hlength]
    exact Nat.lt_succ_self _
  have hsettled : (s.merge r).2 = (s.append r).settle := by
    rw [merge, if_neg hnew]
  rw [hsettled, settle]
  dsimp only
  rw [if_pos hcut, capacity_append]

/-- **A record that was offered once is refused**, and nothing changes any more. -/
theorem merge_merge (h : s.WellFormed) (r : Record) :
    (s.merge r).2.merge r = (false, (s.merge r).2) := by
  by_cases hheld : (s.merge r).2.contains r.id = true
  · exact merge_of_contains hheld
  · have hnew : ¬s.contains r.id = true := by
      intro hold
      rw [merge_of_contains hold] at hheld
      exact hheld hold
    have hadmits : s.admits r = false := by
      cases hadmits : s.admits r with
      | true => exact absurd (merge_of_admits h hnew hadmits).2.1 hheld
      | false => rfl
    -- the store was full of records at least as new, and it still is
    obtain ⟨-, hentries, -⟩ := merge_of_not_admits h hnew hadmits
    have hfull := (full_of_not_admits h hadmits).1
    have hagain : (s.merge r).2.admits r = false := by
      rw [admits, hentries, capacity_merge]
      exact hadmits
    obtain ⟨hrefused, hsame, -⟩ := merge_of_not_admits (h.merge r) hheld hagain
    have hfull' : (s.merge r).2.entries.length = (s.merge r).2.capacity := by
      rw [hentries, capacity_merge, hfull]
    refine Prod.ext hrefused ?_
    calc ((s.merge r).2.merge r).2
      _ = ⟨(s.merge r).2.capacity, ((s.merge r).2.merge r).2.entries,
            ((s.merge r).2.merge r).2.entries.map Record.id⟩ := merge_of_full hfull' hheld
      _ = ⟨s.capacity, (s.merge r).2.entries, (s.merge r).2.entries.map Record.id⟩ := by
            rw [hsame, capacity_merge]
      _ = (s.merge r).2 := (merge_of_full hfull hnew).symm

/-- **The exact effect of one merge** on a store that any calls have led to. An identifier is held
if a record with it is. If that of the new record is held, the answer is no and nothing at all
changes, whatever the record says. Otherwise the records are those from before with the new one
among them, behind all that are at least as new and before the others, as many as fit; the answer is
whether the new one is one of them; and of those from before only the last one can be missing. Where
the answer is no, the records are those from before, and so are the identifiers that count as held.
A second merge of the same record is refused and leaves exactly what the first one left. -/
theorem merge_calls (capacity : Nat) (cs : List Call) (r : Record) :
    let s := (empty capacity).calls cs
    let t := (s.merge r).2
    (∀ id, s.contains id = true ↔ ∃ x ∈ s.entries, x.id = id)
      ∧ (s.contains r.id = true → s.merge r = (false, s))
      ∧ (s.contains r.id = false →
          t.entries = (s.entries.filter (fun x => r.createdAt ≤ x.createdAt)
              ++ r :: s.entries.filter (fun x => x.createdAt < r.createdAt)).take capacity
            ∧ ((s.merge r).1 = true ↔ r ∈ t.entries)
            ∧ ∃ lost, lost.length ≤ 1 ∧ s.entries = t.entries.erase r ++ lost)
      ∧ ((s.merge r).1 = false →
          t.entries = s.entries ∧ ∀ id, t.contains id = s.contains id)
      ∧ t.merge r = (false, t) := by
  intro s t
  obtain ⟨h, hcapacity⟩ := (empty_wellFormed capacity).calls cs
  have hfits : s.entries.length ≤ capacity := calc s.entries.length
    _ ≤ s.capacity := h.bounded
    _ = capacity := hcapacity
  have hseen : ∀ id, s.contains id = true ↔ ∃ x ∈ s.entries, x.id = id := fun id =>
    (h.seen id).trans List.mem_map
  refine ⟨hseen, merge_of_contains, fun hfree => ?_, merge_of_refused h, merge_merge h r⟩
  have hnew : ¬s.contains r.id = true := by simp [hfree]
  have hplace : t.entries = (place r s.entries).take capacity :=
    (entries_merge_of_new h hnew).trans (congrArg (List.take · _) hcapacity)
  refine ⟨?_, merge_fst_iff h hnew, ?_⟩
  · rw [hplace, place_eq_between h.sorted]
    rfl
  · rw [hplace]
    exact exists_erase_take_place hfits (not_mem_of_not_contains h hnew)

/-- Two records in a store for two. -/
def fullStore : Store :=
  (empty 2).calls [.merge (.new "b" ⟨1, 0⟩), .merge (.new "a" ⟨2, 0⟩)]

/-- An identifier that is held comes with a later time; a record as old as the oldest one is
refused; and a record as new as the newest one goes behind it and costs the oldest. -/
theorem merge_calls_of_full :
    let late := fullStore.merge (.new "d" ⟨2, 0⟩)
    fullStore.contains "a" = true
      ∧ fullStore.merge (.new "a" ⟨3, 0⟩) = (false, fullStore)
      ∧ (fullStore.merge (.new "c" ⟨1, 0⟩)).1 = false
      ∧ (fullStore.merge (.new "c" ⟨1, 0⟩)).2.entries = [.new "a" ⟨2, 0⟩, .new "b" ⟨1, 0⟩]
      ∧ fullStore.contains "d" = false
      ∧ late.2.entries = [.new "a" ⟨2, 0⟩, .new "d" ⟨2, 0⟩]
      ∧ late.1 = true
      ∧ late.2.merge (.new "d" ⟨2, 0⟩) = (false, late.2) := by
  intro late
  have hwell : fullStore.WellFormed := ((empty_wellFormed 2).calls _).1
  have hcapacity : fullStore.capacity = 2 := ((empty_wellFormed 2).calls _).2
  have hentries : fullStore.entries = [.new "a" ⟨2, 0⟩, .new "b" ⟨1, 0⟩] :=
    (entries_mergeAll (empty_wellFormed 2) [.new "b" ⟨1, 0⟩, .new "a" ⟨2, 0⟩]).trans (by decide)
  have hids : fullStore.entries.map Record.id = ["a", "b"] := congrArg (List.map Record.id) hentries
  have hheld : fullStore.contains "a" = true := (hwell.seen "a").mpr (hids ▸ by decide)
  have hother : ¬fullStore.contains "c" = true := mt (hwell.seen "c").mp (hids ▸ by decide)
  have hfree : fullStore.contains "d" = false :=
    Bool.eq_false_iff.mpr (mt (hwell.seen "d").mp (hids ▸ by decide))
  have hadmits : fullStore.admits (.new "c" ⟨1, 0⟩) = false := by
    rw [admits, hentries, hcapacity]
    decide
  have hrefused : (fullStore.merge (.new "c" ⟨1, 0⟩)).1 = false :=
    (merge_of_not_admits hwell hother hadmits).1
  obtain ⟨-, hsame, -⟩ := merge_calls 2 _ (.new "a" ⟨3, 0⟩)
  obtain ⟨-, -, -, hnothing, -⟩ := merge_calls 2 _ (.new "c" ⟨1, 0⟩)
  obtain ⟨-, -, hplaced, -, hagain⟩ := merge_calls 2 _ (.new "d" ⟨2, 0⟩)
  obtain ⟨hlate, hkept, -⟩ := hplaced hfree
  have hinserted : late.2.entries = [.new "a" ⟨2, 0⟩, .new "d" ⟨2, 0⟩] := by
    refine Eq.trans hlate ?_
    rw [show ((empty 2).calls _).entries = _ from hentries]
    decide
  refine ⟨hheld, hsame hheld, hrefused, (hnothing hrefused).1.trans hentries, hfree, hinserted,
    hkept.mpr ?_, hagain⟩
  exact hinserted.symm ▸ List.mem_cons_of_mem _ (List.mem_singleton_self _)

end ActivityFeed.Store
