import ActivityFeed.Proofs.Store.Kept
import Mathlib.Data.List.Dedup

/-!
# The order of arrival does not matter

The page of a snapshot and the records of a stream race each other, records come twice, and what was
cut in one run comes last in another. None of this can be noticed afterwards, as long as records can
be told apart: an identifier names one record, and no two identifiers share a time. Then the first
records of each identifier are the same ones in every run, whatever came first (`mem_firsts`), and
there is only one way to sort them (`inOrder_unique`).

Main result: `calls_of_same_records`.
-/

namespace ActivityFeed

namespace Record

/-- Records that can be told apart by their identifiers, and by their times. -/
structure ToldApart (records : List Record) : Prop where
  /-- Under one identifier there is one record. -/
  named : ∀ a ∈ records, ∀ b ∈ records, a.id = b.id → a = b
  /-- Different identifiers have different times. -/
  timed : ∀ a ∈ records, ∀ b ∈ records, a.id ≠ b.id → a.createdAt ≠ b.createdAt

variable {records : List Record}

theorem ToldApart.eq_of_createdAt (h : ToldApart records) {a b : Record} (ha : a ∈ records)
    (hb : b ∈ records) (htime : a.createdAt = b.createdAt) : a = b := by
  apply h.named a ha b hb
  by_contra hid
  exact h.timed a ha b hb hid htime

theorem ToldApart.agreeOnTimes (h : ToldApart records) : AgreeOnTimes records := by
  intro a ha b hb hid
  rw [h.named a ha b hb hid]

theorem ToldApart.subset {part : List Record} (h : ToldApart records) (hsub : part ⊆ records) :
    ToldApart part where
  named a ha b hb := h.named a (hsub ha) b (hsub hb)
  timed a ha b hb := h.timed a (hsub ha) b (hsub hb)

theorem nodup_ids_firsts (records : List Record) : ((firsts records).map id).Nodup := by
  induction records using List.reverseRecOn with
  | nil => exact List.nodup_nil
  | append_singleton records r ih =>
    rw [firsts_concat]
    split
    next => exact ih
    next hnew =>
      rw [List.map_append, List.map_singleton, ← List.concat_eq_append]
      exact ih.concat hnew

/-- If an identifier names one record, it does not matter which of its records came first. -/
theorem ToldApart.mem_firsts (h : ToldApart records) {r : Record} :
    r ∈ firsts records ↔ r ∈ records := by
  constructor
  · intro hr
    exact firsts_subset records hr
  · intro hr
    obtain ⟨x, hx, hid⟩ := List.mem_map.mp (mem_ids_firsts hr)
    have hsame : x = r := h.named x (firsts_subset records hx) r hr hid
    exact hsame ▸ hx

end Record

namespace Store

open Record (ToldApart firsts)

/-- There is one way to sort records that have different times. -/
theorem inOrder_unique {xs ys : List Record} (happart : ToldApart xs) (hx : xs.Nodup)
    (hy : ys.Nodup) (hsame : ∀ r, r ∈ xs ↔ r ∈ ys) : inOrder xs = inOrder ys := by
  have hperm : (inOrder xs).Perm (inOrder ys) := calc
    (inOrder xs).Perm xs := inOrder_perm xs
    xs.Perm ys := (List.perm_ext_iff_of_nodup hx hy).mpr hsame
    ys.Perm (inOrder ys) := (inOrder_perm ys).symm
  apply hperm.eq_of_pairwise _ (inOrder_sorted xs) (inOrder_sorted ys)
  intro a b ha hb hba hab
  have ha' : a ∈ xs := (inOrder_perm xs).mem_iff.mp ha
  have hb' : b ∈ xs := (hsame b).mpr ((inOrder_perm ys).mem_iff.mp hb)
  exact happart.eq_of_createdAt ha' hb' (le_antisymm hab hba)

/-- What calls leave is settled by which records they offer. -/
theorem entries_of_offered (capacity : Nat) {records : List Record} (happart : ToldApart records)
    {cs : List Call} (hcs : ∀ r, r ∈ offered cs ↔ r ∈ records) :
    ((empty capacity).calls cs).entries = (inOrder records.dedup).take capacity := by
  have hoffered : ToldApart (offered cs) := happart.subset fun r hr => (hcs r).mp hr
  have hfirsts : ToldApart (firsts (offered cs)) :=
    hoffered.subset (Record.firsts_subset (offered cs))
  have hsame : ∀ r, r ∈ firsts (offered cs) ↔ r ∈ records.dedup := by
    intro r
    rw [hoffered.mem_firsts, hcs, List.mem_dedup]
  have hnodup : (firsts (offered cs)).Nodup :=
    (Record.nodup_ids_firsts (offered cs)).of_map Record.id
  rw [entries_calls_empty capacity hoffered.agreeOnTimes,
    inOrder_unique hfirsts hnodup records.nodup_dedup hsame]

/-- **The order of arrival does not matter.** Let two runs offer the same records, which can be told
apart, to a store without records: in whatever order, each of them as often as one likes, in
whatever batches and single records. Then both hold the newest of these records, the same ones in
the same order, count the same identifiers as held, and have the same cursor. -/
theorem calls_of_same_records (capacity : Nat) {records : List Record}
    (happart : ToldApart records) {cs cs' : List Call}
    (hcs : ∀ r, r ∈ offered cs ↔ r ∈ records) (hcs' : ∀ r, r ∈ offered cs' ↔ r ∈ records) :
    let s := (empty capacity).calls cs
    let t := (empty capacity).calls cs'
    s.entries = (records.dedup.mergeSort Record.isNewer).take capacity
      ∧ t.entries = s.entries
      ∧ (∀ id, t.contains id = s.contains id)
      ∧ t.latest = s.latest := by
  intro s t
  have hs : s.entries = (inOrder records.dedup).take capacity :=
    entries_of_offered capacity happart hcs
  have ht : t.entries = (inOrder records.dedup).take capacity :=
    entries_of_offered capacity happart hcs'
  have hentries : t.entries = s.entries := ht.trans hs.symm
  have hwell := fun cs => ((empty_wellFormed capacity).calls cs).1
  refine ⟨hs, hentries, contains_congr (hwell cs') (hwell cs) hentries, ?_⟩
  rw [latest, latest, hentries]

/-- The oldest record is in the page that one run starts with, where it is cut at once and comes
back; in the other run it comes last. -/
theorem calls_of_same_records_of_cut :
    let a := Record.new "a" ⟨1, 0⟩
    let b := Record.new "b" ⟨2, 0⟩
    let c := { Record.new "c" ⟨2, 1⟩ with message := some "latest" }
    let cs := [Call.seed [a, c, b], .merge a, .merge c]
    let cs' := [Call.merge c, .seed [b, c, b], .merge a]
    ToldApart [a, b, c]
      ∧ (∀ r, r ∈ offered cs ↔ r ∈ [a, b, c])
      ∧ (∀ r, r ∈ offered cs' ↔ r ∈ [a, b, c])
      ∧ ((empty 2).calls cs).entries = [c, b]
      ∧ ((empty 2).calls cs').entries = [c, b]
      ∧ ((empty 2).calls cs').contains "a" = ((empty 2).calls cs).contains "a"
      ∧ ((empty 2).calls cs').latest = ((empty 2).calls cs).latest := by
  intro a b c cs cs'
  have happart : ToldApart [a, b, c] := by
    constructor
    · decide
    · decide
  have hcs : ∀ r, r ∈ offered cs ↔ r ∈ [a, b, c] := by
    intro r
    simp only [cs, offered, Call.records, List.flatMap_cons, List.flatMap_nil, List.mem_append,
      List.mem_cons, List.not_mem_nil]
    tauto
  have hcs' : ∀ r, r ∈ offered cs' ↔ r ∈ [a, b, c] := by
    intro r
    simp only [cs', offered, Call.records, List.flatMap_cons, List.flatMap_nil, List.mem_append,
      List.mem_cons, List.not_mem_nil]
    tauto
  -- sorting is not evaluated: a sorted list with the same members is the sorted list
  have hsort : [a, b, c].dedup.mergeSort Record.isNewer = [c, b, a] := calc
    inOrder [a, b, c].dedup = inOrder [a, b, c] := by rw [List.dedup_eq_self.mpr (by decide)]
    _ = inOrder [c, b, a] :=
      inOrder_unique happart (by decide) (by decide) fun _ => List.mem_reverse.symm
    _ = [c, b, a] := inOrder_of_sorted (by decide)
  obtain ⟨hnewest, hentries, hcontains, hlatest⟩ := calls_of_same_records 2 happart hcs hcs'
  rw [hsort] at hnewest
  exact ⟨happart, hcs, hcs', hnewest, hentries.trans hnewest, hcontains "a", hlatest⟩

end Store

end ActivityFeed
