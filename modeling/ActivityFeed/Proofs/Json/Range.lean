import ActivityFeed.Proofs.Binary64.Canonical
import ActivityFeed.Proofs.Json.Canonical
import ActivityFeed.Proofs.Json.Context

/-!
# What a text can bring

A tree is read back from its own text if its numbers are whole ones of 64 bits and it is no deeper
than a reader goes. A tree that was read has these bounds already, floating-point numbers apart:
no digit is taken that would make a whole number longer than 64 bits (`Numeral.feed_le`), and so it
is with all that a reader holds (`Stage.Effect.inRange`). Floating-point numbers are rounded to the
one form that they have, so that trees of the same numbers are the same trees. The canonical value
has the numbers of its tree and no others, and it is no deeper.

Main results: `inRange_of_read`, and `isWhole_of_inRange` for the values that can be written again.
-/

namespace ActivityFeed.Json

/-! ## The numbers of a tree -/

mutual

/-- The numbers of a tree. -/
def numbers : Json → List Number
  | .number n => [n]
  | .array items => itemNumbers items
  | .object members => memberNumbers members
  | _ => []

/-- The numbers of the items. -/
def itemNumbers : List Json → List Number
  | [] => []
  | v :: rest => numbers v ++ itemNumbers rest

/-- The numbers of the members. -/
def memberNumbers : List (String × Json) → List Number
  | [] => []
  | (_, v) :: rest => numbers v ++ memberNumbers rest

end

/-- A whole number has 64 bits, signed or not, and any other number is in its one form. -/
def Number.InRange : Number → Prop
  | .integer n => -9223372036854775808 ≤ n ∧ n ≤ Text.maxWord
  | .float f => f.IsCanonical

/-- All numbers of a tree are in range. -/
def InRange (v : Json) : Prop :=
  ∀ n ∈ v.numbers, n.InRange

theorem mem_itemNumbers {n : Number} {items : List Json} :
    n ∈ itemNumbers items ↔ ∃ v ∈ items, n ∈ v.numbers := by
  induction items with
  | nil => simp [itemNumbers]
  | cons v items ih => simp [itemNumbers, ih]

theorem mem_memberNumbers {n : Number} {members : Members} :
    n ∈ memberNumbers members ↔ ∃ m ∈ members, n ∈ m.2.numbers := by
  induction members with
  | nil => simp [memberNumbers]
  | cons m members ih => simp [memberNumbers, ih]

/-- **A tree in range without floating-point numbers** can be read back. -/
theorem isWhole_of_inRange {v : Json} (hrange : v.InRange) (hfloats : ∀ f, .float f ∉ v.numbers) :
    v.isWhole = true := by
  induction v using tree_induction with
  | null | bool | string => rfl
  | number value =>
    cases value with
    | integer n =>
      have hn : Number.InRange (.integer n) := hrange _ (List.mem_singleton_self _)
      simpa [isWhole, Number.InRange] using hn
    | float f => exact absurd (List.mem_singleton_self _) (hfloats f)
  | array items ih =>
    refine (itemsWhole_iff items).mpr fun v hv => ih v hv ?_ ?_
    · exact fun n hn => hrange n (mem_itemNumbers.mpr ⟨v, hv, hn⟩)
    · exact fun f hf => hfloats f (mem_itemNumbers.mpr ⟨v, hv, hf⟩)
  | object members ih =>
    refine (membersWhole_iff members).mpr fun m hm => ih m hm ?_ ?_
    · exact fun n hn => hrange n (mem_memberNumbers.mpr ⟨m, hm, hn⟩)
    · exact fun f hf => hfloats f (mem_memberNumbers.mpr ⟨m, hm, hf⟩)

/-! ## The canonical value -/

/-- The canonical value has no numbers of its own. -/
theorem mem_numbers_of_canonical {n : Number} {v : Json} (h : n ∈ v.canonical.numbers) :
    n ∈ v.numbers := by
  induction v using tree_induction with
  | null | bool | string | number => exact h
  | array items ih =>
    rw [canonical, canonicalItems_eq_map] at h
    obtain ⟨v, hv, hn⟩ := mem_itemNumbers.mp h
    obtain ⟨w, hw, rfl⟩ := List.mem_map.mp hv
    exact mem_itemNumbers.mpr ⟨w, hw, ih w hw hn⟩
  | object members ih =>
    rw [canonical] at h
    obtain ⟨m, hm, hn⟩ := mem_memberNumbers.mp h
    rcases mem_canonicalMembers hm with hnone | ⟨l, hl, rfl⟩
    · cases hnone
    · exact mem_memberNumbers.mpr ⟨l, hl, ih l hl hn⟩

theorem itemDepth_le_iff {items : List Json} {d : Nat} :
    itemDepth items ≤ d ↔ ∀ v ∈ items, v.depth ≤ d := by
  induction items with
  | nil => simp [itemDepth]
  | cons v items ih => rw [itemDepth, Nat.max_le, ih, List.forall_mem_cons]

theorem memberDepth_le_iff {members : Members} {d : Nat} :
    memberDepth members ≤ d ↔ ∀ m ∈ members, m.2.depth ≤ d := by
  induction members with
  | nil => simp [memberDepth]
  | cons m members ih => rw [memberDepth, Nat.max_le, ih, List.forall_mem_cons]

/-- The canonical value is no deeper than its tree. -/
theorem depth_canonical_le (v : Json) : v.canonical.depth ≤ v.depth := by
  induction v using tree_induction with
  | null | bool | string | number => exact Nat.le_refl _
  | array items ih =>
    rw [canonical, canonicalItems_eq_map, depth, depth]
    refine Nat.succ_le_succ (itemDepth_le_iff.mpr fun v hv => ?_)
    obtain ⟨w, hw, rfl⟩ := List.mem_map.mp hv
    exact Nat.le_trans (ih w hw) (itemDepth_le_iff.mp (Nat.le_refl _) w hw)
  | object members ih =>
    rw [canonical, depth, depth]
    refine Nat.succ_le_succ (memberDepth_le_iff.mpr fun m hm => ?_)
    rcases mem_canonicalMembers hm with hnone | ⟨l, hl, rfl⟩
    · cases hnone
    · exact Nat.le_trans (ih l hl) (memberDepth_le_iff.mp (Nat.le_refl _) l hl)

/-! ## Numbers that are read -/

theorem le_nine_of_digitOf? {b : UInt8} {d : Nat} (h : digitOf? b = some d) : d ≤ 9 := by
  unfold digitOf? at h
  split at h
  next hrange =>
    cases h
    have hnine : b.toNat ≤ 57 :=
      UInt8.le_iff_toNat_le.mp (of_decide_eq_true (Bool.and_eq_true_iff.mp hrange).2)
    omega
  next => cases h

namespace Numeral

variable {n n' : Numeral} {b : UInt8} {d : Nat}

theorem significand_afterDigits {pointed : Bool} (h : n.afterDigits pointed b = some n') :
    n'.significand = n.significand := by
  unfold afterDigits at h
  split at h
  · cases h
    rfl
  · split at h <;> cases h
    rfl

theorem significand_exponentDigit (h : n.exponentDigit d = .ok n') :
    n'.significand = n.significand := by
  unfold exponentDigit at h
  dsimp only at h
  split at h
  · cases h
    rfl
  · split at h <;> cases h
    rfl

theorem fractionDigit_le (d : Nat) (hn : n.significand ≤ Text.maxWord) :
    (n.fractionDigit d).significand ≤ Text.maxWord := by
  unfold fractionDigit
  dsimp only
  split
  next hlonger => exact hlonger
  next => exact hn

/-- **A digit is left out where it would make the significand longer than 64 bits.** -/
theorem feed_le (h : n.feed b = .ok (some n')) (hn : n.significand ≤ Text.maxWord) :
    n'.significand ≤ Text.maxWord := by
  have hafter : ∀ {pointed : Bool}, n.afterDigits pointed b = some n' →
      n'.significand ≤ Text.maxWord :=
    fun hsome => significand_afterDigits hsome ▸ hn
  have hexponent : ∀ {d : Nat}, (n.exponentDigit d).map some = .ok (some n') →
      n'.significand ≤ Text.maxWord := by
    intro d hsome
    cases hdigit : n.exponentDigit d with
    | error => simp [hdigit, Except.map] at hsome
    | ok m =>
      rw [hdigit] at hsome
      cases hsome
      exact significand_exponentDigit hdigit ▸ hn
  -- what is no digit leaves the significand, and a digit is added where there is room for it
  cases hd : digitOf? b with
  | none =>
    cases hphase : n.phase <;> simp only [feed, hphase, hd] at h
    case zero | whole | overlong | fraction | rounded => exact hafter (Except.ok.inj h)
    case exponentMark =>
      split at h
      · cases h
        exact hn
      · split at h <;> cases h
        exact hn
    all_goals cases h
  | some d =>
    have hdigit := le_nine_of_digitOf? hd
    cases hphase : n.phase <;> simp only [feed, hphase, hd] at h
    case sign =>
      cases d with
      | zero =>
        cases h
        exact hn
      | succ d =>
        cases h
        exact Nat.le_trans hdigit (by decide)
    case whole =>
      split at h
      next hlonger =>
        cases h
        exact hlonger
      next =>
        cases h
        exact hn
    case point | fraction =>
      cases h
      exact fractionDigit_le d hn
    case exponentMark | exponentSign | exponent => exact hexponent h
    case zero => cases h
    case overlong | rounded | vanished =>
      cases h
      exact hn

theorem inRange_signed (negative : Bool) {f : Binary64} (hf : f.IsCanonical) :
    (signed negative f).InRange := by
  cases negative
  · exact hf
  · exact Binary64.isCanonical_neg hf

theorem inRange_of_value? {v : Number} (h : n.value? = some v)
    (hn : n.significand ≤ Text.maxWord) : v.InRange := by
  have hscaled : ∀ {k : Int}, (Binary64.scaleTen? (Binary64.ofNat n.significand) k).map
      (signed n.negative) = some v → v.InRange := by
    intro k hk
    obtain ⟨f, hf, rfl⟩ := Option.map_eq_some_iff.mp hk
    exact inRange_signed _ (Binary64.isCanonical_scaleTen? (Binary64.isCanonical_ofNat _) hf)
  -- only digits alone make a whole number
  have hdigits : (if !n.negative then some (.integer n.significand)
      else if n.significand = 0 || 2 ^ (63 : Nat) < n.significand then
        some (signed true (Binary64.ofNat n.significand))
      else some (.integer (-(n.significand : Int)))) = some v → v.InRange := by
    intro hsome
    split at hsome
    · cases hsome
      exact ⟨by omega, Int.ofNat_le.mpr hn⟩
    · split at hsome
      · cases hsome
        exact inRange_signed true (Binary64.isCanonical_ofNat _)
      next hfits =>
        cases hsome
        simp only [Bool.or_eq_true, decide_eq_true_eq, not_or, Nat.not_lt] at hfits
        have hbits : n.significand ≤ 9223372036854775808 := hfits.2
        exact ⟨by omega, by omega⟩
  unfold value? at h
  cases hphase : n.phase <;> simp only [hphase] at h
  case zero | whole => exact hdigits h
  case vanished =>
    cases h
    exact inRange_signed _ (Binary64.isCanonical_zero false)
  all_goals exact hscaled h

end Numeral

/-! ## What a reader holds -/

/-- The numbers of what an open array or object holds. -/
def Opened.numbers : Opened → List Number
  | .array items => itemNumbers items
  | .object members _ => memberNumbers members

theorem mem_numbers_whole {o : Opened} {n : Number} : n ∈ o.whole.numbers ↔ n ∈ o.numbers := by
  cases o with
  | array items => simp [Opened.whole, numbers, Opened.numbers, mem_itemNumbers]
  | object members => simp [Opened.whole, numbers, Opened.numbers, mem_memberNumbers]

theorem numbers_named (o : Opened) (key : String) : (o.named key).numbers = o.numbers := by
  cases o <;> rfl

namespace Stage

/-- The numbers that a reader holds are in range, and the one that it reads has 64 bits. -/
def InRange (s : Stage) : Prop :=
  (∀ o ∈ s.opened, ∀ n ∈ o.numbers, n.InRange)
    ∧ match s.mode with
      | .number n => n.significand ≤ Text.maxWord
      | .finished v _ => v.InRange
      | _ => True

variable {s t : Stage} {b : UInt8} {x : List UInt8} {v : Json} {opened : List Opened}

theorem inRange_delivered (hv : v.InRange) (h : ∀ o ∈ opened, ∀ n ∈ o.numbers, n.InRange) :
    (delivered v opened).InRange := by
  rcases opened with _ | ⟨o, rest⟩
  · exact ⟨h, hv⟩
  · rw [List.forall_mem_cons] at h
    cases o with
    | array items =>
      refine ⟨List.forall_mem_cons.mpr ⟨fun n hn => ?_, h.2⟩, trivial⟩
      rcases List.mem_append.mp hn with hn | hn
      · exact hv n hn
      · exact h.1 n hn
    | object members key =>
      refine ⟨List.forall_mem_cons.mpr ⟨fun n hn => ?_, h.2⟩, trivial⟩
      rcases List.mem_append.mp hn with hn | hn
      · exact hv n hn
      · exact h.1 n hn

theorem inRange_of_isNamed (h : IsNamed v) : v.InRange := by
  rcases h with rfl | rfl | rfl <;> exact List.forall_mem_nil _

/-- **Whatever an octet does, the numbers stay in range.** -/
theorem Effect.inRange (h : Effect b s t) (hnested : s.Nested) (hs : s.InRange) : t.InRange := by
  induction h with
  | blank | trailing | ignored => exact hs
  | name | spell | quote | quoteKey | char | nextItem | nextKey | colon => exact ⟨hs.1, trivial⟩
  | spelled => exact inRange_delivered (inRange_of_isNamed hnested.2) hs.1
  | sign => exact ⟨hs.1, Nat.zero_le _⟩
  | digit _ h => exact ⟨hs.1, Nat.le_trans (le_nine_of_digitOf? h) (by decide)⟩
  | longer h => exact ⟨hs.1, Numeral.feed_le h hs.2⟩
  | ended _ hvalue _ ih =>
    refine ih (nested_delivered _ _) (inRange_delivered ?_ hs.1)
    exact List.forall_mem_singleton.mpr (Numeral.inRange_of_value? hvalue hs.2)
  | text => exact inRange_delivered (List.forall_mem_nil _) hs.1
  | @key o opened _ text =>
    obtain ⟨ho, hopened⟩ := List.forall_mem_cons.mp hs.1
    exact ⟨List.forall_mem_cons.mpr ⟨numbers_named o text ▸ ho, hopened⟩, trivial⟩
  | array | object =>
    exact ⟨List.forall_mem_cons.mpr ⟨List.forall_mem_nil _, hs.1⟩, trivial⟩
  | close =>
    obtain ⟨ho, hopened⟩ := List.forall_mem_cons.mp hs.1
    exact inRange_delivered (fun n hn => ho n (mem_numbers_whole.mp hn)) hopened

theorem Reads.inRange (h : Reads s x v) (hnested : s.Nested) (hs : s.InRange) : v.InRange := by
  induction x generalizing s with
  | nil =>
    rcases h.nil hnested with rfl | ⟨n, w, rfl, -, hvalue, rfl⟩
    · exact hs.2
    · exact List.forall_mem_singleton.mpr (Numeral.inRange_of_value? hvalue hs.2)
  | cons b x ih =>
    obtain ⟨t, heffect, hnext, hrest⟩ := h.cons hnested
    exact ih hrest hnext (heffect.inRange hnested hs)

end Stage

/-- **The whole numbers of what is read have 64 bits**, and the others are canonical. -/
theorem inRange_of_read {x : List UInt8} {v : Json} (h : read x = .ok ⟨v, none⟩) : v.InRange :=
  (Stage.reads_of_read h).inRange trivial ⟨List.forall_mem_nil _, trivial⟩

/-! ## Values of texts -/

/-- What the value of a text is like, and what its members are like. -/
structure IsBrought (v : Json) : Prop where
  canonical : v.canonical = v
  range : v.InRange
  depth : v.depth ≤ Reader.maxDepth

/-- **The value of a text** is canonical, and it keeps the bounds of what is read. -/
theorem isBrought_of_parseText {text : String} {v : Json} (h : parseText text = .ok v) :
    v.IsBrought := by
  rw [parseText_eq] at h
  split at h
  next => cases h
  next tree hread =>
    obtain ⟨w, trailing⟩ := tree
    cases trailing with
    | some p => cases h
    | none =>
      cases h
      exact
        { canonical := canonical_canonical w
          range := fun n hn => inRange_of_read hread n (mem_numbers_of_canonical hn)
          depth := Nat.le_trans (depth_canonical_le w) (depth_le_of_read hread) }

variable {members : Members}

theorem IsBrought.of_mem (h : (Json.object members).IsBrought) {m : String × Json}
    (hm : m ∈ members) : m.2.IsBrought where
  canonical := canonical_of_mem h.canonical hm
  range n hn := h.range n (mem_memberNumbers.mpr ⟨m, hm, hn⟩)
  depth := by
    have hmember : m.2.depth ≤ memberDepth members := memberDepth_le_iff.mp (Nat.le_refl _) m hm
    exact Nat.le_trans hmember (Nat.le_of_succ_le h.depth)

theorem IsBrought.filter (h : (Json.object members).IsBrought) (p : String × Json → Bool) :
    (Json.object (members.filter p)).IsBrought where
  canonical := canonical_filter h.canonical p
  range n hn := by
    obtain ⟨m, hm, hn⟩ := mem_memberNumbers.mp hn
    exact (h.of_mem (List.mem_filter.mp hm).1).range n hn
  depth := by
    refine Nat.le_trans (Nat.succ_le_succ (memberDepth_le_iff.mpr fun m hm => ?_)) h.depth
    exact memberDepth_le_iff.mp (Nat.le_refl _) m (List.mem_filter.mp hm).1

end ActivityFeed.Json
