import ActivityFeed.Proofs.Store.Invariant
import Mathlib.Data.List.Induction
import Mathlib.Data.List.Sort

/-!
# Which records a store keeps

A store never sees all that it has been offered at once. It sorts and cuts after each record, or
after each batch, and forgets what it has cut, so that an identifier which was cut may come back, be
taken for a new one, and be cut again. This module shows that nothing of that can be noticed: what a
store holds is the beginning of one stable sort of everything it was ever offered, later records of
an identifier left out.

The reason is that sorting puts a new record behind all those that are at least as new (`place`), so
that what stands among the first `k` afterwards depends on what stood among the first `k` before
(`take_place`). A record that was cut has `k` records in front of it, and when its identifier comes
back with the same time, it is placed behind the same ones.

Main result: `entries_calls`, and with it that the division of the offered records into calls does
not matter.
-/

namespace ActivityFeed

namespace Record

/-- Records of one identifier have one time. Their other contents may differ. -/
def AgreeOnTimes (records : List Record) : Prop :=
  ∀ a ∈ records, ∀ b ∈ records, a.id = b.id → a.createdAt = b.createdAt

/-- The records whose identifier has not come before. -/
def firsts (records : List Record) : List Record :=
  records.foldl (fun kept r => if r.id ∈ kept.map id then kept else kept ++ [r]) []

theorem firsts_concat (records : List Record) (r : Record) :
    firsts (records ++ [r])
      = if r.id ∈ (firsts records).map id then firsts records else firsts records ++ [r] := by
  rw [firsts, List.foldl_append]
  rfl

theorem firsts_subset (records : List Record) : firsts records ⊆ records := by
  induction records using List.reverseRecOn with
  | nil => exact List.Subset.refl _
  | append_singleton records r ih =>
    rw [firsts_concat]
    split
    · exact List.subset_append_of_subset_left _ ih
    · exact List.append_subset.mpr
        ⟨List.subset_append_of_subset_left _ ih, List.subset_append_right _ _⟩

/-- No identifier is left out altogether. -/
theorem mem_ids_firsts {records : List Record} {r : Record} (h : r ∈ records) :
    r.id ∈ (firsts records).map id := by
  induction records using List.reverseRecOn with
  | nil => cases h
  | append_singleton records x ih =>
    rw [firsts_concat]
    rcases List.mem_append.mp h with h | h
    · split
      · exact ih h
      · rw [List.map_append]
        exact List.mem_append_left _ (ih h)
    · obtain rfl := List.mem_singleton.mp h
      split
      next hold => exact hold
      next => simp

/-- Records that have all come before add nothing. -/
theorem firsts_append_of_subset {records more : List Record} (h : more ⊆ records) :
    firsts (records ++ more) = firsts records := by
  induction more using List.reverseRecOn with
  | nil => rw [List.append_nil]
  | append_singleton more r ih =>
    obtain ⟨hmore, hr⟩ := List.append_subset.mp h
    have hold : r.id ∈ (firsts records).map id := mem_ids_firsts (hr (List.mem_singleton_self r))
    rw [← List.append_assoc, firsts_concat, ih hmore, if_pos hold]

end Record

namespace Store

open Record (AgreeOnTimes firsts)

variable {s : Store} {given : List Record}

/-! ## Placing one more record -/

/-- The records with one more among them, behind all those in front that are at least as new. -/
def place (r : Record) (records : List Record) : List Record :=
  records.takeWhile (·.isNewer r) ++ r :: records.dropWhile (·.isNewer r)

theorem place_cons (r b : Record) (records : List Record) :
    place r (b :: records)
      = if b.isNewer r then b :: place r records else r :: b :: records := by
  unfold place
  by_cases h : b.isNewer r = true
  · simp [h]
  · simp [h]

theorem isNewer_trans {a b c : Record} (hab : a.isNewer b = true) (hbc : b.isNewer c = true) :
    a.isNewer c = true :=
  le_trans (Record.isNewer_iff.mp hbc) (Record.isNewer_iff.mp hab)

theorem isNewer_total (a b : Record) : (a.isNewer b || b.isNewer a) = true :=
  Bool.or_eq_true_iff.mpr (le_total b.createdAt a.createdAt)

/-- A record that comes first in a list to be sorted goes in front of all that are not newer. -/
theorem inOrder_cons (a : Record) (records : List Record) :
    inOrder (a :: records)
      = List.orderedInsert (fun a b => a.isNewer b = true) a (inOrder records) := by
  obtain ⟨front, back, hwith, hwithout, hfront⟩ := @List.mergeSort_cons _ Record.isNewer
    (fun _ _ _ => isNewer_trans) isNewer_total a records
  have hsorted := inOrder_sorted (a :: records)
  unfold inOrder at hsorted ⊢
  rw [hwith] at hsorted
  rw [hwith, hwithout]
  have hback : List.orderedInsert (fun a b => a.isNewer b = true) a back = a :: back := by
    cases back with
    | nil => rfl
    | cons b back =>
      have hb : b.createdAt ≤ a.createdAt :=
        (List.pairwise_cons.mp (List.pairwise_append.mp hsorted).2.1).1 b (List.mem_cons_self ..)
      rw [List.orderedInsert_cons, if_pos (Record.isNewer_iff.mpr hb)]
  clear hwith hwithout hsorted
  induction front with
  | nil => exact hback.symm
  | cons x front ih =>
    have hx : ¬a.isNewer x = true := by simpa using hfront x (List.mem_cons_self ..)
    rw [List.cons_append, List.cons_append, List.orderedInsert_cons, if_neg hx,
      ← ih fun y hy => hfront y (List.mem_cons_of_mem _ hy)]

/-- The first of the records and the last one find their places whichever is placed first. -/
theorem orderedInsert_place (a r : Record) (records : List Record) :
    List.orderedInsert (fun a b => a.isNewer b = true) a (place r records)
      = place r (List.orderedInsert (fun a b => a.isNewer b = true) a records) := by
  induction records with
  | nil =>
    show List.orderedInsert _ a [r] = place r [a]
    rw [List.orderedInsert_cons, place_cons]
    split <;> rfl
  | cons b records ih =>
    rw [place_cons, List.orderedInsert_cons]
    by_cases hbr : b.isNewer r = true <;> by_cases hab : a.isNewer b = true
    · rw [if_pos hbr, if_pos hab, List.orderedInsert_cons, if_pos hab, place_cons, place_cons,
        if_pos (isNewer_trans hab hbr), if_pos hbr]
    · rw [if_pos hbr, if_neg hab, List.orderedInsert_cons, if_neg hab, place_cons, if_pos hbr, ih]
    · rw [if_neg hbr, if_pos hab, List.orderedInsert_cons, List.orderedInsert_cons, if_pos hab,
        place_cons, place_cons, if_neg hbr]
    · -- `a` is older than `b`, and `b` than `r`
      have har : ¬a.isNewer r = true := fun har =>
        hbr (isNewer_trans ((Bool.or_eq_true_iff.mp (isNewer_total a b)).resolve_left hab) har)
      rw [if_neg hbr, if_neg hab, List.orderedInsert_cons, List.orderedInsert_cons, if_neg har,
        if_neg hab, place_cons, if_neg hbr]

/-- **Sorting places the last record** among the others, once they are sorted. -/
theorem inOrder_concat (records : List Record) (r : Record) :
    inOrder (records ++ [r]) = place r (inOrder records) := by
  induction records with
  | nil =>
    rw [List.nil_append, inOrder, inOrder, List.mergeSort_singleton, List.mergeSort_nil]
    rfl
  | cons a records ih => rw [List.cons_append, inOrder_cons, ih, orderedInsert_place, inOrder_cons]

/-- Which records come first after one more has been placed depends on those that came first
before. -/
theorem take_place (k : Nat) (r : Record) (records : List Record) :
    (place r (records.take k)).take k = (place r records).take k := by
  induction records generalizing k with
  | nil => rw [List.take_nil]
  | cons b records ih =>
    cases k with
    | zero => rfl
    | succ k =>
      rw [List.take_succ_cons, place_cons, place_cons]
      split
      · rw [List.take_succ_cons, List.take_succ_cons, ih]
      · have hrest : (b :: records.take k).take k = (b :: records).take k := by
          rw [← List.take_succ_cons, List.take_take, Nat.min_eq_left (Nat.le_succ k)]
        rw [List.take_succ_cons, List.take_succ_cons, hrest]

/-- A record that is placed behind `k` others is not among the first `k`. -/
theorem take_place_of_forall {k : Nat} {r : Record} {records : List Record}
    (hk : k ≤ records.length) (h : ∀ x ∈ records.take k, x.isNewer r = true) :
    (place r records).take k = records.take k := by
  induction records generalizing k with
  | nil =>
    obtain rfl := Nat.le_zero.mp hk
    rfl
  | cons b records ih =>
    cases k with
    | zero => rfl
    | succ k =>
      rw [List.take_succ_cons, List.forall_mem_cons] at h
      rw [place_cons, if_pos h.1, List.take_succ_cons, List.take_succ_cons,
        ih (Nat.le_of_succ_le_succ hk) h.2]

/-! ## What a store has of the records that it was offered -/

/-- The store would hold the first of all offered records in order, if it settled now. -/
structure Covers (s : Store) (given : List Record) : Prop extends Indexed s where
  first : (inOrder s.entries).take s.capacity = (inOrder (firsts given)).take s.capacity
  known : ∀ r ∈ s.entries, r.id ∈ given.map Record.id

theorem empty_covers (capacity : Nat) : (empty capacity).Covers [] where
  toIndexed := (empty_wellFormed capacity).toIndexed
  first := rfl
  known _ hr := by cases hr

/-- A record of an identifier that was cut comes back to a place behind all records that cut it. -/
theorem take_place_of_cut {k : Nat} {r : Record} {records : List Record}
    (htimes : ∀ x ∈ records, x.id = r.id → x.createdAt = r.createdAt)
    (hold : r.id ∈ records.map Record.id)
    (hcut : r.id ∉ ((inOrder records).take k).map Record.id) :
    (place r (inOrder records)).take k = (inOrder records).take k := by
  obtain ⟨x, hx, hid⟩ := List.mem_map.mp hold
  have hmem : x ∈ inOrder records := (inOrder_perm records).mem_iff.mpr hx
  -- the record of this identifier stands behind the cut
  have hdrop : x ∈ (inOrder records).drop k := by
    rw [← List.take_append_drop k (inOrder records), List.mem_append] at hmem
    exact hmem.resolve_left fun htake => hcut (hid ▸ List.mem_map_of_mem htake)
  have hlength : k ≤ (inOrder records).length := by
    by_contra hshort
    rw [List.drop_eq_nil_of_le (by omega)] at hdrop
    cases hdrop
  refine take_place_of_forall hlength fun y hy => ?_
  have hsorted := inOrder_sorted records
  rw [← List.take_append_drop k (inOrder records)] at hsorted
  have hyx : x.createdAt ≤ y.createdAt := (List.pairwise_append.mp hsorted).2.2 y hy x hdrop
  exact Record.isNewer_iff.mpr (htimes x hx hid ▸ hyx)

/-- One more record, whatever has become of the records of its identifier before. -/
theorem Covers.append (h : s.Covers given) {r : Record} (htimes : AgreeOnTimes (given ++ [r])) :
    (s.append r).Covers (given ++ [r]) := by
  have hfirsts := Record.firsts_concat given r
  by_cases hheld : s.contains r.id = true
  · -- held, so it was offered before
    obtain ⟨x, hx, hid⟩ := List.mem_map.mp ((h.seen r.id).mp hheld)
    obtain ⟨y, hy, hyid⟩ := List.mem_map.mp (h.known x hx)
    have hold : r.id ∈ (firsts given).map Record.id :=
      hid ▸ hyid ▸ Record.mem_ids_firsts hy
    rw [append_of_contains hheld]
    refine ⟨h.toIndexed, ?_, fun x hx => ?_⟩
    · rw [hfirsts, if_pos hold, h.first]
    · rw [List.map_append]
      exact List.mem_append_left _ (h.known x hx)
  · refine ⟨h.toIndexed.append r, ?_, fun x hx => ?_⟩
    · rw [entries_append hheld, capacity_append, inOrder_concat, ← take_place, h.first, take_place,
        hfirsts]
      split
      next hold =>
        refine take_place_of_cut (fun x hx hid => ?_) hold fun hfirst => ?_
        · exact htimes x (List.mem_append_left _ (Record.firsts_subset given hx)) r
            (List.mem_append_right _ (List.mem_singleton_self r)) hid
        · -- what comes first of the offered records is held
          rw [← h.first] at hfirst
          obtain ⟨x, hx, hid⟩ := List.mem_map.mp hfirst
          refine hheld ((h.seen r.id).mpr (hid ▸ List.mem_map_of_mem ?_))
          exact (inOrder_perm s.entries).mem_iff.mp (List.mem_of_mem_take hx)
      next => rw [inOrder_concat]
    · rw [entries_append hheld, List.mem_append, List.mem_singleton] at hx
      rw [List.map_append, List.mem_append]
      exact hx.imp (h.known x) fun heq : x = r => by simp [heq]

theorem Covers.foldl_append (h : s.Covers given) {batch : List Record}
    (htimes : AgreeOnTimes (given ++ batch)) :
    (batch.foldl Store.append s).Covers (given ++ batch) := by
  induction batch generalizing s given with
  | nil =>
    rw [List.append_nil]
    exact h
  | cons r rest ih =>
    have hsplit : given ++ r :: rest = given ++ [r] ++ rest := by simp
    rw [hsplit] at htimes ⊢
    have hone : AgreeOnTimes (given ++ [r]) := fun a ha b hb =>
      htimes a (List.mem_append_left _ ha) b (List.mem_append_left _ hb)
    exact ih (h.append hone) htimes

/-- Settling cuts what need not be known. -/
theorem Covers.settle (h : s.Covers given) : s.settle.Covers given where
  toIndexed := h.toIndexed.settle.toIndexed
  first := by
    have hwell := h.toIndexed.settle
    rw [inOrder_of_sorted hwell.sorted, List.take_of_length_le hwell.bounded, entries_settle,
      capacity_settle, h.first]
  known r hr := by
    rw [entries_settle] at hr
    exact h.known r ((inOrder_perm s.entries).mem_iff.mp (List.mem_of_mem_take hr))

/-! ## Whole calls -/

/-- The records that a call offers. -/
def Call.records : Call → List Record
  | .merge record => [record]
  | .seed batch => batch

/-- The records that several calls offer, in order. -/
def offered (cs : List Call) : List Record :=
  cs.flatMap Call.records

theorem offered_append (cs cs' : List Call) : offered (cs ++ cs') = offered cs ++ offered cs' :=
  List.flatMap_append

theorem Covers.seed (h : s.Covers given) {batch : List Record}
    (htimes : AgreeOnTimes (given ++ batch)) :
    (s.seed batch).2.Covers (given ++ batch) := by
  have hgrown := h.foldl_append htimes
  unfold Store.seed
  dsimp only
  split
  next => exact hgrown.settle
  next hnone =>
    -- nothing was added, so the accounts of identifiers are of the same entries
    have hsame : s.entries = (batch.foldl Store.append s).entries :=
      (entries_prefix_foldl_append s batch).eq_of_length_le (by omega)
    have hcapacity := capacity_foldl_append s batch
    refine ⟨h.toIndexed, ?_, ?_⟩
    · rw [hsame, ← hcapacity]
      exact hgrown.first
    · rw [hsame]
      exact hgrown.known

theorem Covers.merge (h : s.Covers given) {r : Record} (htimes : AgreeOnTimes (given ++ [r])) :
    (s.merge r).2.Covers (given ++ [r]) := by
  have hgrown := h.append htimes
  unfold Store.merge
  split
  next hheld =>
    rw [append_of_contains hheld] at hgrown
    exact hgrown
  next => exact hgrown.settle

theorem Covers.calls (h : s.Covers given) {cs : List Call}
    (htimes : AgreeOnTimes (given ++ offered cs)) :
    (s.calls cs).Covers (given ++ offered cs) := by
  induction cs generalizing s given with
  | nil =>
    rw [offered, List.flatMap_nil, List.append_nil]
    exact h
  | cons c rest ih =>
    rw [offered, List.flatMap_cons, ← List.append_assoc] at htimes ⊢
    have hone : AgreeOnTimes (given ++ c.records) := fun a ha b hb =>
      htimes a (List.mem_append_left _ ha) b (List.mem_append_left _ hb)
    have hstep : (s.call c).Covers (given ++ c.records) := by
      cases c with
      | merge r => exact h.merge hone
      | seed batch => exact h.seed hone
    exact ih hstep htimes

theorem Covers.entries (h : s.Covers given) (hwell : s.WellFormed) :
    s.entries = (inOrder (firsts given)).take s.capacity := by
  rw [← h.first, inOrder_of_sorted hwell.sorted, List.take_of_length_le hwell.bounded]

/-- What a store holds after calls, by what they offered. -/
theorem entries_calls_empty (capacity : Nat) {cs : List Call}
    (htimes : AgreeOnTimes (offered cs)) :
    ((empty capacity).calls cs).entries
      = (inOrder (firsts (offered cs))).take capacity := by
  obtain ⟨hwell, hcapacity⟩ := (empty_wellFormed capacity).calls cs
  have hcovers : ((empty capacity).calls cs).Covers (offered cs) :=
    (empty_covers capacity).calls htimes
  rw [hcovers.entries hwell, hcapacity]
  rfl

theorem contains_congr {t : Store} (hs : s.WellFormed) (ht : t.WellFormed)
    (h : s.entries = t.entries) (id : String) : s.contains id = t.contains id := by
  rw [Bool.eq_iff_iff, hs.seen, ht.seen, h]

/-- **A store keeps exactly the newest records.** Let calls offer records in which one identifier
always comes with one time. Then what is held is the beginning, as long as the capacity, of the
stable sort by time, newest first, of the offered records without the later ones of each identifier.
So calls that offer the same records in the same order, in other batches or one by one, leave the
same records and the same identifiers; and a batch that is seeded twice leaves what it left the
first time, even if some of it was cut. -/
theorem entries_calls (capacity : Nat) {cs : List Call}
    (htimes : AgreeOnTimes (offered cs)) :
    ((empty capacity).calls cs).entries
        = ((firsts (offered cs)).mergeSort Record.isNewer).take capacity
      ∧ (∀ cs' : List Call, offered cs' = offered cs →
          ((empty capacity).calls cs').entries = ((empty capacity).calls cs).entries
            ∧ ∀ id, ((empty capacity).calls cs').contains id
                = ((empty capacity).calls cs).contains id)
      ∧ ∀ batch : List Record, AgreeOnTimes (offered cs ++ batch) →
          ((empty capacity).calls (cs ++ [.seed batch, .seed batch])).entries
            = ((empty capacity).calls (cs ++ [.seed batch])).entries := by
  refine ⟨entries_calls_empty capacity htimes, fun cs' hsame => ?_, fun batch hbatch => ?_⟩
  · have hentries : ((empty capacity).calls cs').entries = ((empty capacity).calls cs).entries := by
      rw [entries_calls_empty capacity htimes, entries_calls_empty capacity (hsame ▸ htimes), hsame]
    have hwell := fun cs => ((empty_wellFormed capacity).calls cs).1
    exact ⟨hentries, contains_congr (hwell cs') (hwell cs) hentries⟩
  · have honce : offered (cs ++ [.seed batch]) = offered cs ++ batch := by
      rw [offered_append]
      simp [offered, Call.records]
    have htwice : offered (cs ++ [.seed batch, .seed batch]) = offered cs ++ batch ++ batch := by
      rw [offered_append]
      simp [offered, Call.records]
    have hnothing : offered cs ++ batch ++ batch ⊆ offered cs ++ batch :=
      List.append_subset.mpr ⟨List.Subset.refl _, List.subset_append_right _ _⟩
    rw [entries_calls_empty capacity, entries_calls_empty capacity, honce, htwice,
      Record.firsts_append_of_subset (List.subset_append_right _ _)]
    · rw [honce]
      exact hbatch
    · rw [htwice]
      exact fun a ha b hb => hbatch a (hnothing ha) b (hnothing hb)

/-- A record that was cut by a newer one comes back with other contents, in a batch that is seeded
twice. -/
theorem entries_calls_of_cut :
    let old := { Record.new "a" ⟨1, 0⟩ with message := some "first" }
    let again := { Record.new "a" ⟨1, 0⟩ with message := some "second" }
    let cs := [Call.merge old, .merge (.new "b" ⟨2, 0⟩)]
    AgreeOnTimes (offered cs)
      ∧ AgreeOnTimes (offered cs ++ [again, .new "c" ⟨2, 0⟩])
      ∧ ((empty 1).calls cs).entries = [.new "b" ⟨2, 0⟩]
      ∧ ((empty 1).calls
          (cs ++ [.seed [again, .new "c" ⟨2, 0⟩], .seed [again, .new "c" ⟨2, 0⟩]])).entries
        = ((empty 1).calls (cs ++ [.seed [again, .new "c" ⟨2, 0⟩]])).entries := by
  intro old again cs
  have htimes : AgreeOnTimes (offered cs) := by
    unfold AgreeOnTimes
    decide
  have hbatch : AgreeOnTimes (offered cs ++ [again, .new "c" ⟨2, 0⟩]) := by
    unfold AgreeOnTimes
    decide
  obtain ⟨hentries, -, htwice⟩ := entries_calls 1 htimes
  have hsort : [old, .new "b" ⟨2, 0⟩].mergeSort Record.isNewer = [.new "b" ⟨2, 0⟩, old] :=
    (inOrder_concat [old] _).trans (by rw [inOrder_of_sorted (List.pairwise_singleton _ _)]; rfl)
  exact ⟨htimes, hbatch, hentries.trans (congrArg (List.take 1) hsort), htwice _ hbatch⟩

end Store

end ActivityFeed
