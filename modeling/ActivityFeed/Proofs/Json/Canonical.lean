import ActivityFeed.Json.Basic

/-!
# What the members of an object denote

The canonical members of an object are a map in the form of a list: sorted by key, one member for a
key. So they are determined by what is found under each key (`eq_of_lookup`), and the order in which
the members were written does not matter if no key was written twice (`lookup_canonicalMembers`).
The canonical value is a canonical one again (`canonical_canonical`).
-/

namespace ActivityFeed.Json

/-! ## Induction on trees -/

/-- What holds of an array or object if it holds of its items or members, holds of every tree. -/
@[elab_as_elim]
theorem tree_induction {P : Json → Prop} (null : P .null) (bool : ∀ value, P (.bool value))
    (number : ∀ value, P (.number value)) (string : ∀ value, P (.string value))
    (array : ∀ items : List Json, (∀ v ∈ items, P v) → P (.array items))
    (object : ∀ members : Members, (∀ m ∈ members, P m.2) → P (.object members)) (v : Json) :
    P v :=
  @Json.rec P (fun items => ∀ v ∈ items, P v) (fun members => ∀ m ∈ members, P m.2)
    (fun m => P m.2) null bool number string array object
    (List.forall_mem_nil _) (fun _ _ hfirst hrest => List.forall_mem_cons.mpr ⟨hfirst, hrest⟩)
    (List.forall_mem_nil _) (fun _ _ hfirst hrest => List.forall_mem_cons.mpr ⟨hfirst, hrest⟩)
    (fun _ _ hvalue => hvalue) v

namespace Members

/-- Members in the order of their keys, none of which comes twice. -/
def Sorted (members : Members) : Prop :=
  members.Pairwise fun a b => a.1 < b.1

theorem lt_of_not_lt_of_ne {k l : String} (hlt : ¬k < l) (hne : k ≠ l) : l < k :=
  Decidable.byContradiction fun h =>
    hne (String.le_antisymm (String.not_lt.mp h) (String.not_lt.mp hlt))

/-! ## Looking up -/

theorem lookup_cons_ite (key l : String) (value : Json) (rest : Members) :
    ((key, value) :: rest : Members).lookup l = if l = key then some value else rest.lookup l := by
  rw [List.lookup_cons]
  by_cases h : l = key
  · rw [if_pos h, beq_iff_eq.mpr h]
  · rw [if_neg h, beq_eq_false_iff_ne.mpr h]

theorem lookup_insert (key : String) (value : Json) (members : Members) (l : String) :
    (insert key value members).lookup l = if l = key then some value else members.lookup l := by
  induction members with
  | nil => exact lookup_cons_ite key l value []
  | cons m rest ih =>
    obtain ⟨k, v⟩ := m
    rw [insert]
    split
    · exact lookup_cons_ite key l value _
    · split
      next hsame =>
        subst hsame
        rw [lookup_cons_ite, lookup_cons_ite]
        split <;> rfl
      next hother =>
        rw [lookup_cons_ite, lookup_cons_ite, ih]
        by_cases hl : l = k
        · have hlk : l ≠ key := fun heq => hother (heq.symm.trans hl)
          rw [if_pos hl, if_neg hlk, if_pos hl]
        · rw [if_neg hl, if_neg hl]

theorem lookup_filter (p : String → Bool) (members : Members) (l : String) :
    (members.filter fun m => p m.1).lookup l = if p l then members.lookup l else none := by
  induction members with
  | nil => simp
  | cons m rest ih =>
    obtain ⟨k, v⟩ := m
    by_cases hk : p k = true
    · rw [List.filter_cons, if_pos hk, lookup_cons_ite, lookup_cons_ite, ih]
      by_cases hl : l = k
      · simp [hl, hk]
      · simp [hl]
    · rw [List.filter_cons, if_neg hk, ih, lookup_cons_ite]
      by_cases hl : l = k
      · simp [hl, hk]
      · simp [hl]

theorem lookup_of_not_mem {members : Members} {l : String} (h : l ∉ members.map Prod.fst) :
    members.lookup l = none := by
  rw [List.lookup_eq_none_iff]
  intro m hm
  have hne : l ≠ m.1 := by
    rintro rfl
    exact h (List.mem_map_of_mem hm)
  simpa using hne

/-- What is found under a key stands there. -/
theorem mem_of_lookup {members : Members} {l : String} {v : Json}
    (h : members.lookup l = some v) : (l, v) ∈ members := by
  obtain ⟨before, after, rfl, -⟩ := List.lookup_eq_some_iff.mp h
  simp

/-- Under a key below all others nothing is found. -/
theorem lookup_of_lt {members : Members} {l : String} (h : ∀ m ∈ members, l < m.1) :
    members.lookup l = none := by
  refine lookup_of_not_mem fun hmem => ?_
  obtain ⟨m, hm, rfl⟩ := List.mem_map.mp hmem
  exact String.lt_irrefl _ (h m hm)

/-! ## Sorted members -/

theorem mem_insert {key : String} {value : Json} {members : Members} {m : String × Json}
    (h : m ∈ insert key value members) : m = (key, value) ∨ m ∈ members := by
  induction members with
  | nil => exact Or.inl (List.mem_singleton.mp h)
  | cons n rest ih =>
    obtain ⟨k, v⟩ := n
    rw [insert] at h
    split at h
    · exact List.mem_cons.mp h
    · split at h
      · rcases List.mem_cons.mp h with h | h
        · exact Or.inl h
        · exact Or.inr (List.mem_cons_of_mem _ h)
      · rcases List.mem_cons.mp h with h | h
        · exact Or.inr (h ▸ List.mem_cons_self ..)
        · exact (ih h).imp_right (List.mem_cons_of_mem _)

theorem sorted_insert (key : String) (value : Json) {members : Members} (h : Sorted members) :
    Sorted (insert key value members) := by
  induction members with
  | nil => exact List.pairwise_singleton _ _
  | cons m rest ih =>
    obtain ⟨k, v⟩ := m
    obtain ⟨hfirst, hrest⟩ := List.pairwise_cons.mp h
    rw [insert]
    split
    next hlt =>
      refine List.pairwise_cons.mpr ⟨fun n hn => ?_, h⟩
      rcases List.mem_cons.mp hn with rfl | hn
      · exact hlt
      · exact String.lt_trans hlt (hfirst n hn)
    next hlt =>
      split
      next hsame =>
        subst hsame
        exact List.pairwise_cons.mpr ⟨hfirst, hrest⟩
      next hother =>
        refine List.pairwise_cons.mpr ⟨fun n hn => ?_, ih hrest⟩
        rcases mem_insert hn with rfl | hn
        · exact lt_of_not_lt_of_ne hlt hother
        · exact hfirst n hn

theorem Sorted.nodup {members : Members} (h : Sorted members) :
    (members.map Prod.fst).Nodup := by
  refine List.pairwise_map.mpr (h.imp ?_)
  intro a b hlt heq
  rw [heq] at hlt
  exact String.lt_irrefl _ hlt

/-- A key that is found in sorted members does not stand before all of them. -/
theorem not_lt_of_lookup {key l : String} {value w : Json} {rest : Members}
    (h : Sorted ((key, value) :: rest)) (hfound : ((key, value) :: rest).lookup l = some w) :
    ¬l < key := by
  intro hlt
  have hnone : ((key, value) :: rest).lookup l = none := by
    refine lookup_of_lt fun m hm => ?_
    rcases List.mem_cons.mp hm with rfl | hm
    · exact hlt
    · exact String.lt_trans hlt ((List.pairwise_cons.mp h).1 m hm)
  rw [hnone] at hfound
  cases hfound

/-- **Sorted members are known by what is found in them.** -/
theorem eq_of_lookup {a b : Members} (ha : Sorted a) (hb : Sorted b)
    (h : ∀ l, a.lookup l = b.lookup l) : a = b := by
  have hfirst : ∀ (k : String) (v : Json) (rest : Members),
      ((k, v) :: rest : Members).lookup k = some v :=
    fun k v rest => (lookup_cons_ite k k v rest).trans (if_pos rfl)
  induction a generalizing b with
  | nil =>
    cases b with
    | nil => rfl
    | cons n bs => exact absurd ((h n.1).trans (hfirst n.1 n.2 bs)) (by simp)
  | cons m as ih =>
    cases b with
    | nil => exact absurd ((h m.1).symm.trans (hfirst m.1 m.2 as)) (by simp)
    | cons n bs =>
      obtain ⟨k, v⟩ := m
      obtain ⟨l, w⟩ := n
      -- the smaller of the two first keys would be found on one side only
      have hkey : k = l := by
        have hk := not_lt_of_lookup hb ((h k).symm.trans (hfirst k v as))
        have hl := not_lt_of_lookup ha ((h l).trans (hfirst l w bs))
        exact String.le_antisymm (String.not_lt.mp hl) (String.not_lt.mp hk)
      subst hkey
      have hvalue : v = w :=
        Option.some.inj ((hfirst k v as).symm.trans ((h k).trans (hfirst k w bs)))
      subst hvalue
      obtain ⟨hk, has⟩ := List.pairwise_cons.mp ha
      obtain ⟨hl, hbs⟩ := List.pairwise_cons.mp hb
      have hrest : as = bs := by
        refine ih has hbs fun j => ?_
        by_cases hj : j = k
        · subst hj
          rw [lookup_of_lt hk, lookup_of_lt hl]
        · have hfound := h j
          rwa [lookup_cons_ite, lookup_cons_ite, if_neg hj, if_neg hj] at hfound
      rw [hrest]

end Members

/-! ## Canonical members -/

theorem sorted_canonicalMembers {sorted : Members} (h : Members.Sorted sorted)
    (members : Members) : Members.Sorted (canonicalMembers sorted members) := by
  induction members generalizing sorted with
  | nil =>
    rw [canonicalMembers]
    exact h
  | cons m rest ih =>
    rw [canonicalMembers]
    exact ih (Members.sorted_insert _ _ h)

/-- Where no key comes twice the canonical members are found under the keys of the members, in
whatever order these come. -/
theorem lookup_canonicalMembers (sorted : Members) {members : Members}
    (h : (members.map Prod.fst).Nodup) (l : String) :
    (canonicalMembers sorted members).lookup l
      = ((members.lookup l).map canonical).or (sorted.lookup l) := by
  induction members generalizing sorted with
  | nil =>
    rw [canonicalMembers]
    simp
  | cons m rest ih =>
    obtain ⟨k, v⟩ := m
    obtain ⟨hfresh, hrest⟩ := List.nodup_cons.mp h
    rw [canonicalMembers, ih _ hrest, Members.lookup_insert, Members.lookup_cons_ite]
    by_cases hl : l = k
    · simp [hl, Members.lookup_of_not_mem hfresh]
    · simp [hl]

theorem canonicalMembers_append (sorted as bs : Members) :
    canonicalMembers sorted (as ++ bs) = canonicalMembers (canonicalMembers sorted as) bs := by
  induction as generalizing sorted with
  | nil => rfl
  | cons m as ih => exact ih _

/-- What is put among the members later than a key and under other keys does not concern it. -/
theorem lookup_canonicalMembers_of_not_mem (sorted : Members) {members : Members} {l : String}
    (h : l ∉ members.map Prod.fst) :
    (canonicalMembers sorted members).lookup l = sorted.lookup l := by
  induction members generalizing sorted with
  | nil => rfl
  | cons m rest ih =>
    rw [List.map_cons, List.mem_cons, not_or] at h
    rw [canonicalMembers, ih _ h.2, Members.lookup_insert, if_neg h.1]

/-- **The last member of a key** is the one that is found under it. -/
theorem lookup_canonicalMembers_last (sorted : Members) (before : Members) {after : Members}
    {key : String} (h : key ∉ after.map Prod.fst) (value : Json) :
    (canonicalMembers sorted (before ++ (key, value) :: after)).lookup key
      = some value.canonical := by
  rw [canonicalMembers_append, canonicalMembers, lookup_canonicalMembers_of_not_mem _ h,
    Members.lookup_insert, if_pos rfl]

/-! ## Canonical values -/

theorem canonicalItems_eq_map (items : List Json) : canonicalItems items = items.map canonical := by
  induction items with
  | nil => rfl
  | cons v items ih => rw [canonicalItems, ih, List.map_cons]

/-- A member that stands among sorted ones stood there before or was put there. -/
theorem mem_canonicalMembers {sorted members : Members} {m : String × Json}
    (h : m ∈ canonicalMembers sorted members) :
    m ∈ sorted ∨ ∃ n ∈ members, m = (n.1, n.2.canonical) := by
  induction members generalizing sorted with
  | nil => exact Or.inl h
  | cons n rest ih =>
    rw [canonicalMembers] at h
    rcases ih h with hsorted | ⟨l, hl, rfl⟩
    · rcases Members.mem_insert hsorted with rfl | hsorted
      · exact Or.inr ⟨n, List.mem_cons_self .., rfl⟩
      · exact Or.inl hsorted
    · exact Or.inr ⟨l, List.mem_cons_of_mem _ hl, rfl⟩

/-- Sorted members stay as they are if their values are canonical. -/
theorem canonicalMembers_of_sorted {members : Members} (hsorted : Members.Sorted members)
    (hvalues : ∀ m ∈ members, m.2.canonical = m.2) : canonicalMembers [] members = members := by
  refine Members.eq_of_lookup (sorted_canonicalMembers .nil _) hsorted fun l => ?_
  rw [lookup_canonicalMembers [] hsorted.nodup, List.lookup_nil, Option.or_none]
  cases hfound : members.lookup l with
  | none => rfl
  | some v => exact congrArg some (hvalues (l, v) (Members.mem_of_lookup hfound))

/-- **A canonical value is its own canonical form.** -/
theorem canonical_canonical (v : Json) : v.canonical.canonical = v.canonical := by
  induction v using tree_induction with
  | null | bool | number | string => rfl
  | array items ih =>
    rw [canonical, canonical, canonicalItems_eq_map, canonicalItems_eq_map, List.map_map]
    exact congrArg array (List.map_congr_left ih)
  | object members ih =>
    rw [canonical, canonical]
    refine congrArg object (canonicalMembers_of_sorted (sorted_canonicalMembers .nil _) ?_)
    intro m hm
    rcases mem_canonicalMembers hm with hnone | ⟨n, hn, rfl⟩
    · cases hnone
    · exact ih n hn

variable {members : Members}

theorem canonicalMembers_of_canonical (h : (Json.object members).canonical = .object members) :
    canonicalMembers [] members = members := by
  rw [canonical] at h
  exact object.inj h

theorem sorted_of_canonical (h : (Json.object members).canonical = .object members) :
    Members.Sorted members := by
  rw [← canonicalMembers_of_canonical h]
  exact sorted_canonicalMembers .nil _

/-- The members of a canonical object are canonical. -/
theorem canonical_of_mem (h : (Json.object members).canonical = .object members)
    {m : String × Json} (hm : m ∈ members) : m.2.canonical = m.2 := by
  rw [← canonicalMembers_of_canonical h] at hm
  rcases mem_canonicalMembers hm with hnone | ⟨n, -, rfl⟩
  · cases hnone
  · exact canonical_canonical n.2

/-- Some of the members of a canonical object are a canonical object. -/
theorem canonical_filter (h : (Json.object members).canonical = .object members)
    (p : String × Json → Bool) :
    (Json.object (members.filter p)).canonical = .object (members.filter p) := by
  rw [canonical]
  refine congrArg object (canonicalMembers_of_sorted ((sorted_of_canonical h).filter p) ?_)
  exact fun m hm => canonical_of_mem h (List.mem_filter.mp hm).1

end ActivityFeed.Json
