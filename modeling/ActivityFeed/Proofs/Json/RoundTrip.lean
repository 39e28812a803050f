import ActivityFeed.Proofs.Json.Tokens

/-!
# Compact JSON is read as the tree that it was written from

The reader is followed over the compact text of a tree by induction on the tree. A value leads from
any state in which one may come to the state in which it has been delivered (`delivered`), and the
items of an array and the members of an object do so one after the other. Only a number is not
delivered at its own last octet, but at the one behind it or at the end of the text; `Stands` says
that it might as well have been.

Main results: `read_compact` gives the tree back, its members in the order in which they were
written, and `isPrinted_chars` says that no control character, in particular no line end, is
ever written.
-/

namespace ActivityFeed.Json

open Text.Utf8 (encode)

/-! ## The trees that are read back -/

mutual

/-- Whether all numbers of a tree are whole ones of 64 bits, signed or not. -/
def isWhole : Json → Bool
  | .number (.integer n) => -9223372036854775808 ≤ n && n ≤ Text.maxWord
  | .number (.float _) => false
  | .array items => itemsWhole items
  | .object members => membersWhole members
  | _ => true

/-- `isWhole` of every item. -/
def itemsWhole : List Json → Bool
  | [] => true
  | v :: rest => isWhole v && itemsWhole rest

/-- `isWhole` of every member. -/
def membersWhole : List (String × Json) → Bool
  | [] => true
  | (_, v) :: rest => isWhole v && membersWhole rest

end

theorem itemsWhole_iff (items : List Json) :
    itemsWhole items = true ↔ ∀ v ∈ items, v.isWhole = true := by
  induction items with
  | nil => simp [itemsWhole]
  | cons v items ih => simp [itemsWhole, ih]

theorem membersWhole_iff (members : Members) :
    membersWhole members = true ↔ ∀ m ∈ members, m.2.isWhole = true := by
  induction members with
  | nil => simp [membersWhole]
  | cons m rest ih => simp [membersWhole, ih]

mutual

/-- How many arrays and objects are open at once in the text of a tree. -/
def depth : Json → Nat
  | .array items => itemDepth items + 1
  | .object members => memberDepth members + 1
  | _ => 0

/-- The depth of the deepest item. -/
def itemDepth : List Json → Nat
  | [] => 0
  | v :: rest => max (depth v) (itemDepth rest)

/-- The depth of the deepest member. -/
def memberDepth : List (String × Json) → Nat
  | [] => 0
  | (_, v) :: rest => max (depth v) (memberDepth rest)

end

/-! ## What a reader does, wherever it stands -/

/-- A reader without its place. -/
structure Stage where
  opened : List Opened
  mode : Mode

namespace Stage

/-- The reader at a place. -/
def at_ (s : Stage) (p : Position) : Reader :=
  ⟨p, s.opened, s.mode⟩

/-- An octet is accepted. -/
def Step (s : Stage) (b : UInt8) (t : Stage) : Prop :=
  ∀ p, (s.at_ p).feed b = .ok (t.at_ (p.after b))

theorem foldlM_of_leads {s t : Stage} {x : List UInt8} (h : Leads Step s x t) :
    ∀ p, ∃ p', x.foldlM Reader.feed (s.at_ p) = .ok (t.at_ p') := by
  induction h with
  | nil s => exact fun p => ⟨p, rfl⟩
  | cons first _ ih =>
    intro p
    obtain ⟨p', hp'⟩ := ih (p.after _)
    exact ⟨p', by rw [List.foldlM_cons, first p]; exact hp'⟩

/-- The octets that may stand behind a value in the compact form. -/
def IsDelimiter (b : UInt8) : Prop :=
  b = octet ',' ∨ b = octet ']' ∨ b = octet '\x7d'

/-- Behind a value two stages cannot be told apart. -/
structure Stands (s t : Stage) : Prop where
  feed : ∀ p b, IsDelimiter b → (s.at_ p).feed b = (t.at_ p).feed b
  finish : ∀ p, (s.at_ p).finish = (t.at_ p).finish

theorem Stands.refl (s : Stage) : s.Stands s :=
  ⟨fun _ _ _ => rfl, fun _ => rfl⟩

theorem Stands.step {s t u : Stage} (h : s.Stands t) {b : UInt8} (hb : IsDelimiter b)
    (ht : t.Step b u) : s.Step b u :=
  fun p => (h.feed p b hb).trans (ht p)

/-- A value has been delivered to the innermost array or object, or is the whole. -/
def delivered (v : Json) : List Opened → Stage
  | [] => ⟨[], .finished v none⟩
  | .array items :: rest => ⟨.array (v :: items) :: rest, .afterItem⟩
  | .object members key :: rest => ⟨.object ((key, v) :: members) key :: rest, .afterMember⟩

theorem deliver_eq (p : Position) (opened : List Opened) (mode : Mode) (v : Json) :
    Reader.deliver ⟨p, opened, mode⟩ v = (delivered v opened).at_ p := by
  rcases opened with _ | ⟨_ | _, rest⟩ <;> rfl

/-! ## Single octets -/

/-- The modes in which a value may come. -/
def AwaitsValue (mode : Mode) : Prop :=
  mode = .value ∨ mode = .firstItem ∨ mode = .nextItem

theorem step_start {opened : List Opened} {mode : Mode} (hmode : AwaitsValue mode) {b : UInt8}
    (hblank : isBlank b = false) (hclose : b ≠ octet ']') {t : Stage}
    (h : ∀ p, Reader.startValue ⟨p, opened, mode⟩ b = .ok (t.at_ p)) : Step ⟨opened, mode⟩ b t := by
  intro p
  have hstart := h (p.after b)
  unfold at_ Reader.feed
  rcases hmode with rfl | rfl | rfl
  all_goals
    simp only [Reader.feedBetween, hblank, beq_iff_eq, hclose, Bool.false_eq_true, if_false, hstart]
    rfl

/-! ## Literals, strings and numbers -/

theorem leads_null {opened : List Opened} {mode : Mode} (hmode : AwaitsValue mode) :
    Leads Step ⟨opened, mode⟩ (encode "null".toList) (delivered .null opened) :=
  .cons (step_start hmode rfl (by decide) (t := ⟨opened, .literal _ _⟩) fun _ => rfl)
    (.cons (t := ⟨opened, .literal [octet 'l', octet 'l'] .null⟩) (fun _ => rfl)
      (.cons (t := ⟨opened, .literal [octet 'l'] .null⟩) (fun _ => rfl)
        (.single fun p => congrArg _ (deliver_eq _ opened _ _))))

theorem leads_bool {opened : List Opened} {mode : Mode} (hmode : AwaitsValue mode) (value : Bool) :
    Leads Step ⟨opened, mode⟩ (encode (chars (.bool value))) (delivered (.bool value) opened) := by
  cases value with
  | true =>
    exact .cons (step_start hmode rfl (by decide) (t := ⟨opened, .literal _ _⟩) fun _ => rfl)
      (.cons (t := ⟨opened, .literal [octet 'u', octet 'e'] (.bool true)⟩) (fun _ => rfl)
        (.cons (t := ⟨opened, .literal [octet 'e'] (.bool true)⟩) (fun _ => rfl)
          (.single fun p => congrArg _ (deliver_eq _ opened _ _))))
  | false =>
    exact .cons (step_start hmode rfl (by decide) (t := ⟨opened, .literal _ _⟩) fun _ => rfl)
      (.cons (t := ⟨opened, .literal [octet 'l', octet 's', octet 'e'] (.bool false)⟩)
        (fun _ => rfl)
        (.cons (t := ⟨opened, .literal [octet 's', octet 'e'] (.bool false)⟩) (fun _ => rfl)
          (.cons (t := ⟨opened, .literal [octet 'e'] (.bool false)⟩) (fun _ => rfl)
            (.single fun p => congrArg _ (deliver_eq _ opened _ _)))))

theorem step_quotation {opened : List Opened} {isKey : Bool} {q longer : Quotation} {b : UInt8}
    (h : Quotation.Step q b longer) :
    Step ⟨opened, .string isKey q⟩ b ⟨opened, .string isKey longer⟩ := by
  intro p
  unfold Quotation.Step at h
  simp only [at_, Reader.feed, h]

/-- What is between the quotes is read alike in keys and in values. -/
theorem leads_holding (opened : List Opened) (isKey : Bool) (s : String) :
    Leads Step ⟨opened, .string isKey .empty⟩ (encode (s.toList.flatMap escapeChar))
      ⟨opened, .string isKey (.holding s)⟩ :=
  Leads.map (f := fun q => (⟨opened, .string isKey q⟩ : Stage)) step_quotation
    (Quotation.leads_holding s)

theorem leads_string {opened : List Opened} {mode : Mode} (hmode : AwaitsValue mode) (s : String) :
    Leads Step ⟨opened, mode⟩ (encode (stringText s)) (delivered (.string s) opened) := by
  have hopen : Step ⟨opened, mode⟩ (octet '"') ⟨opened, .string false .empty⟩ :=
    step_start hmode rfl (by decide) fun _ => rfl
  have hclose : Step ⟨opened, .string false (.holding s)⟩ (octet '"')
      (delivered (.string s) opened) := by
    intro p
    simp only [at_, Reader.feed, Quotation.feed_quote, Bool.false_eq_true, if_false, deliver_eq]
  rw [encode_stringText]
  exact .cons hopen ((leads_holding opened false s).append (.single hclose))

/-- The modes in which a key may come. -/
def AwaitsKey (mode : Mode) : Prop :=
  mode = .firstKey ∨ mode = .nextKey

theorem leads_key {opened : List Opened} {mode : Mode} (hmode : AwaitsKey mode)
    (members : Members) (before key : String) :
    Leads Step ⟨.object members before :: opened, mode⟩ (encode (stringText key))
      ⟨.object members key :: opened, .colon⟩ := by
  have hopen : Step ⟨.object members before :: opened, mode⟩ (octet '"')
      ⟨.object members before :: opened, .string true .empty⟩ := by
    intro p
    rcases hmode with rfl | rfl <;> rfl
  have hclose : Step ⟨.object members before :: opened, .string true (.holding key)⟩ (octet '"')
      ⟨.object members key :: opened, .colon⟩ := by
    intro p
    simp only [at_, Reader.feed, Quotation.feed_quote, if_true, Reader.nameMember]
  rw [encode_stringText]
  exact .cons hopen ((leads_holding _ true key).append (.single hclose))

theorem step_numeral {opened : List Opened} {n longer : Numeral} {b : UInt8}
    (h : Numeral.Step n b longer) : Step ⟨opened, .number n⟩ b ⟨opened, .number longer⟩ := by
  intro p
  unfold Numeral.Step at h
  simp only [at_, Reader.feed, h]

theorem step_digit {opened : List Opened} {mode : Mode} (hmode : AwaitsValue mode) {b : UInt8}
    {d : Nat} (h : digitOf? b = some d) :
    Step ⟨opened, mode⟩ b ⟨opened, .number (.ofDigits false d)⟩ := by
  have hrange : 0x30 ≤ b.toNat ∧ b.toNat ≤ 0x39 := by
    unfold digitOf? at h
    split at h
    next hb => simpa [UInt8.le_iff_toNat_le] using hb
    next => cases h
  have hother : ∀ c : Char, c.toNat < 0x30 ∨ (0x39 < c.toNat ∧ c.toNat < 256) → b ≠ octet c := by
    intro c hc heq
    have hb : b.toNat = c.toNat := by rw [heq, octet, Text.Utf8.toNat_ofNat (by omega)]
    omega
  have hblank : isBlank b = false := by
    simp only [isBlank, Bool.or_eq_false_iff, beq_eq_false_iff_ne]
    exact ⟨⟨⟨hother ' ' (by decide), hother '\n' (by decide)⟩, hother '\t' (by decide)⟩,
      hother '\r' (by decide)⟩
  refine step_start hmode hblank (hother _ (by decide)) fun p => ?_
  unfold Reader.startValue
  simp only [beq_iff_eq, hother 'n' (by decide), hother 't' (by decide), hother 'f' (by decide),
    hother '-' (by decide), hother '"' (by decide), hother '[' (by decide),
    hother '\x7b' (by decide), if_false, h]
  cases d <;> rfl

/-- An octet that ends a number is read as if the number had been delivered before. -/
theorem feed_of_ended {n : Numeral} {v : Number} {b : UInt8} (hends : n.feed b = .ok none)
    (hvalue : n.value? = some v) (opened : List Opened) (p : Position) :
    (at_ ⟨opened, .number n⟩ p).feed b = ((delivered (.number v) opened).at_ p).feed b := by
  -- wherever a value has been delivered, the next octet stands between tokens
  have hlater : ((delivered (.number v) opened).at_ p).feed b
      = (((delivered (.number v) opened).at_ (p.after b)).feedBetween b).mapError
        fun reason => ⟨reason, p.after b⟩ := by
    rcases opened with _ | ⟨_ | _, rest⟩ <;> rfl
  rw [hlater]
  simp only [at_, Reader.feed, hends, hvalue, deliver_eq]

theorem feed_delimiter {n : Numeral} (h : n.isComplete = true) {b : UInt8} (hb : IsDelimiter b) :
    n.feed b = .ok none := by
  obtain ⟨phase, _, _, _, _, _⟩ := n
  cases phase with
  | sign | point | exponentMark | exponentSign => cases h
  | _ => rcases hb with rfl | rfl | rfl <;> rfl

/-- A number that may end here ends at a delimiter, or with the text. -/
theorem stands_number {opened : List Opened} {n : Numeral} {v : Number}
    (hcomplete : n.isComplete = true) (hvalue : n.value? = some v) :
    Stands ⟨opened, .number n⟩ (delivered (.number v) opened) where
  feed p _ hb := feed_of_ended (feed_delimiter hcomplete hb) hvalue opened p
  finish p := by
    simp only [at_, Reader.finish, hcomplete, hvalue, Bool.not_true, Bool.false_eq_true, if_false,
      deliver_eq]
    rcases opened with _ | ⟨_ | _, rest⟩ <;> rfl

theorem leads_number {opened : List Opened} {mode : Mode} (hmode : AwaitsValue mode) {n : Int}
    (hlow : -9223372036854775808 ≤ n) (hhigh : n ≤ Text.maxWord) :
    ∃ s, Leads Step ⟨opened, mode⟩ (encode (integerText n)) s
      ∧ s.Stands (delivered (.number (.integer n)) opened) := by
  have hcomplete : ∀ negative m, (Numeral.ofDigits negative m).isComplete = true := by
    intro negative m
    by_cases hm : m = 0 <;> simp [Numeral.ofDigits, Numeral.isComplete, hm]
  obtain ⟨c, cs, d, hdigits, hc, hd, hleads⟩ :=
    Numeral.leads_toDigits (decide (n < 0)) n.natAbs (by unfold Text.maxWord at *; omega)
  have hrest := Leads.map (f := fun m => (⟨opened, .number m⟩ : Stage)) step_numeral hleads
  have hencode : encode (c :: cs) = octet c :: encode cs := by
    rw [← List.singleton_append, Text.Utf8.encode_append, hc, List.singleton_append]
  unfold integerText
  by_cases hneg : n < 0
  · rw [if_pos hneg, hdigits, encode_ascii_cons (by decide), hencode]
    rw [decide_eq_true hneg] at hrest
    have hsign : Step ⟨opened, mode⟩ (octet '-') ⟨opened, .number (.empty true)⟩ :=
      step_start hmode rfl (by decide) fun _ => rfl
    have hvalue : (Numeral.ofDigits true n.natAbs).value? = some (.integer n) := by
      rw [Numeral.value?_ofDigits_negative (by omega) (by omega)]
      congr 2
      omega
    exact ⟨_, .cons hsign (.cons (step_numeral (Numeral.step_sign true hd)) hrest),
      stands_number (hcomplete true _) hvalue⟩
  · rw [if_neg hneg, hdigits, hencode]
    rw [decide_eq_false hneg] at hrest
    have hvalue : (Numeral.ofDigits false n.natAbs).value? = some (.integer n) := by
      rw [Numeral.value?_ofDigits]
      congr 2
      omega
    exact ⟨_, .cons (step_digit hmode hd) hrest, stands_number (hcomplete false _) hvalue⟩

/-! ## Whole trees -/

theorem step_close_array {opened : List Opened} {items : List Json} {mode : Mode}
    (hmode : mode = .firstItem ∨ mode = .afterItem) :
    Step ⟨.array items :: opened, mode⟩ (octet ']') (delivered (.array items.reverse) opened) := by
  intro p
  rcases hmode with rfl | rfl <;> exact congrArg _ (deliver_eq _ opened _ _)

theorem step_close_object {opened : List Opened} {members : Members} {key : String} {mode : Mode}
    (hmode : mode = .firstKey ∨ mode = .afterMember) :
    Step ⟨.object members key :: opened, mode⟩ (octet '\x7d')
      (delivered (.object members.reverse) opened) := by
  intro p
  rcases hmode with rfl | rfl <;> exact congrArg _ (deliver_eq _ opened _ _)

theorem step_open {opened : List Opened} {mode : Mode} (hmode : AwaitsValue mode)
    (hroom : opened.length < Reader.maxDepth) :
    Step ⟨opened, mode⟩ (octet '[') ⟨.array [] :: opened, .firstItem⟩
      ∧ Step ⟨opened, mode⟩ (octet '\x7b') ⟨.object [] "" :: opened, .firstKey⟩ := by
  constructor
  · refine step_start hmode rfl (by decide) fun p => ?_
    exact if_pos hroom
  · refine step_start hmode rfl (by decide) fun p => ?_
    exact if_pos hroom

/-- A key and a colon stand in front of the value of a member. -/
theorem leads_named {opened : List Opened} {held : Members} {before key : String} {mode : Mode}
    (hmode : AwaitsKey mode) {v : Json} {s : Stage}
    (hvalue : Leads Step ⟨.object held key :: opened, .value⟩ (encode v.chars) s) :
    Leads Step ⟨.object held before :: opened, mode⟩ (encode (stringText key ++ ':' :: v.chars))
      s := by
  have hcolon : Step ⟨.object held key :: opened, .colon⟩ (octet ':')
      ⟨.object held key :: opened, .value⟩ := fun _ => rfl
  rw [Text.Utf8.encode_append, encode_ascii_cons (by decide)]
  exact (leads_key hmode held before key).append (.cons hcolon hvalue)

mutual

/-- **The compact text of a tree leads to its delivery.** -/
theorem leads_chars : ∀ (v : Json) (opened : List Opened) (mode : Mode), AwaitsValue mode →
    v.isWhole = true → opened.length + v.depth ≤ Reader.maxDepth →
    ∃ s, Leads Step ⟨opened, mode⟩ (encode v.chars) s ∧ s.Stands (delivered v opened)
  | .null, _, _, hmode, _, _ => ⟨_, leads_null hmode, .refl _⟩
  | .bool value, _, _, hmode, _, _ => ⟨_, leads_bool hmode value, .refl _⟩
  | .number (.integer n), _, _, hmode, hwhole, _ => by
    simp only [isWhole, Bool.and_eq_true, decide_eq_true_eq] at hwhole
    exact leads_number hmode hwhole.1 hwhole.2
  | .number (.float _), _, _, _, hwhole, _ => by cases hwhole
  | .string s, _, _, hmode, _, _ => ⟨_, leads_string hmode s, .refl _⟩
  | .array items, opened, mode, hmode, hwhole, hdepth => by
    rw [depth] at hdepth
    have hopen := (@step_open opened mode hmode (by omega)).1
    by_cases hnil : items = []
    · -- an empty array is closed where its first item might have come
      subst hnil
      exact ⟨_, .cons hopen (.single (step_close_array (Or.inl rfl))), .refl _⟩
    · obtain ⟨s, hleads, hstands⟩ := leads_itemChars items hnil opened [] .firstItem
        (Or.inr (Or.inl rfl)) hwhole (by omega)
      have hclose := hstands.step (Or.inr (Or.inl rfl)) (step_close_array (Or.inr rfl))
      rw [List.append_nil, List.reverse_reverse] at hclose
      refine ⟨_, ?_, .refl _⟩
      rw [chars, List.cons_append, encode_ascii_cons (by decide), Text.Utf8.encode_append]
      exact .cons hopen (hleads.append (.single hclose))
  | .object members, opened, mode, hmode, hwhole, hdepth => by
    rw [depth] at hdepth
    have hopen := (@step_open opened mode hmode (by omega)).2
    by_cases hnil : members = []
    · subst hnil
      exact ⟨_, .cons hopen (.single (step_close_object (Or.inl rfl))), .refl _⟩
    · obtain ⟨s, last, hleads, hstands⟩ := leads_memberChars members hnil opened [] "" .firstKey
        (Or.inl rfl) hwhole (by omega)
      have hclose := hstands.step (Or.inr (Or.inr rfl)) (step_close_object (Or.inr rfl))
      rw [List.append_nil, List.reverse_reverse] at hclose
      refine ⟨_, ?_, .refl _⟩
      rw [chars, List.cons_append, encode_ascii_cons (by decide), Text.Utf8.encode_append]
      exact .cons hopen (hleads.append (.single hclose))

/-- The items of an array come after those that it holds. -/
theorem leads_itemChars : ∀ items : List Json, items ≠ [] → ∀ (opened : List Opened)
    (held : List Json) (mode : Mode), AwaitsValue mode → itemsWhole items = true →
    opened.length + 1 + itemDepth items ≤ Reader.maxDepth →
    ∃ s, Leads Step ⟨.array held :: opened, mode⟩ (encode (itemChars items)) s
      ∧ s.Stands ⟨.array (items.reverse ++ held) :: opened, .afterItem⟩
  | [], hne, _, _, _, _, _, _ => absurd rfl hne
  | [v], _, opened, held, mode, hmode, hwhole, hdepth => by
    simp only [itemsWhole, Bool.and_true] at hwhole
    simp only [itemDepth] at hdepth
    exact leads_chars v (.array held :: opened) mode hmode hwhole
      (by rw [List.length_cons]; omega)
  | v :: w :: rest, _, opened, held, mode, hmode, hwhole, hdepth => by
    rw [itemsWhole, Bool.and_eq_true] at hwhole
    rw [itemDepth] at hdepth
    obtain ⟨s, hfirst, hstands⟩ := leads_chars v (.array held :: opened) mode hmode hwhole.1
      (by rw [List.length_cons]; omega)
    have hcomma : Step s (octet ',') ⟨.array (v :: held) :: opened, .nextItem⟩ :=
      hstands.step (Or.inl rfl) fun _ => rfl
    obtain ⟨t, hlater, hlast⟩ := leads_itemChars (w :: rest) (List.cons_ne_nil w rest) opened
      (v :: held) .nextItem (Or.inr (Or.inr rfl)) hwhole.2 (by omega)
    refine ⟨t, ?_, by simpa using hlast⟩
    rw [itemChars, Text.Utf8.encode_append, encode_ascii_cons (by decide)]
    · exact hfirst.append (.cons hcomma hlater)
    · exact List.cons_ne_nil w rest

/-- The members of an object come after those that it holds. -/
theorem leads_memberChars : ∀ members : Members, members ≠ [] → ∀ (opened : List Opened)
    (held : Members) (before : String) (mode : Mode), AwaitsKey mode →
    membersWhole members = true → opened.length + 1 + memberDepth members ≤ Reader.maxDepth →
    ∃ s last, Leads Step ⟨.object held before :: opened, mode⟩ (encode (memberChars members)) s
      ∧ s.Stands ⟨.object (members.reverse ++ held) last :: opened, .afterMember⟩
  | [], hne, _, _, _, _, _, _, _ => absurd rfl hne
  | [(key, v)], _, opened, held, before, mode, hmode, hwhole, hdepth => by
    simp only [membersWhole, Bool.and_true] at hwhole
    simp only [memberDepth] at hdepth
    obtain ⟨s, hvalue, hstands⟩ := leads_chars v (.object held key :: opened) .value (Or.inl rfl)
      hwhole (by rw [List.length_cons]; omega)
    exact ⟨s, key, leads_named hmode hvalue, hstands⟩
  | (key, v) :: next :: rest, _, opened, held, before, mode, hmode, hwhole, hdepth => by
    rw [membersWhole, Bool.and_eq_true] at hwhole
    rw [memberDepth] at hdepth
    obtain ⟨s, hvalue, hstands⟩ := leads_chars v (.object held key :: opened) .value (Or.inl rfl)
      hwhole.1 (by rw [List.length_cons]; omega)
    have hcomma : Step s (octet ',') ⟨.object ((key, v) :: held) key :: opened, .nextKey⟩ :=
      hstands.step (Or.inl rfl) fun _ => rfl
    obtain ⟨t, last, hlater, hlast⟩ := leads_memberChars (next :: rest)
      (List.cons_ne_nil next rest) opened ((key, v) :: held) key .nextKey (Or.inr rfl) hwhole.2
      (by omega)
    refine ⟨t, last, ?_, by simpa using hlast⟩
    rw [memberChars, Text.Utf8.encode_append, encode_ascii_cons (by decide)]
    · exact (leads_named hmode hvalue).append (.cons hcomma hlater)
    · exact List.cons_ne_nil next rest

end

/-- What leads to the delivery of a value to nobody is the text of that value. -/
theorem read_of_leads {x : List UInt8} {v : Json} {s : Stage}
    (hleads : Leads Step ⟨[], .value⟩ x s) (hstands : s.Stands (delivered v [])) :
    read x = .ok ⟨v, none⟩ := by
  obtain ⟨p, hfold⟩ := foldlM_of_leads hleads .start
  show x.foldlM Reader.feed (at_ ⟨[], .value⟩ .start) >>= Reader.finish = _
  rw [hfold]
  exact hstands.finish p

end Stage

/-- **The compact text of a tree is read as that tree**, if its numbers are whole ones of 64 bits
and no more of it is open at once than the reader allows. -/
theorem read_compact {v : Json} (hwhole : v.isWhole = true) (hdepth : v.depth ≤ Reader.maxDepth) :
    read (Text.Utf8.ofString v.compact) = .ok ⟨v, none⟩ := by
  obtain ⟨s, hleads, hstands⟩ :=
    Stage.leads_chars v [] .value (Or.inl rfl) hwhole (by simpa using hdepth)
  rw [compact, Text.Utf8.ofString_ofList]
  exact Stage.read_of_leads hleads hstands

theorem parseText_eq (text : String) :
    parseText text = match read (Text.Utf8.ofString text) with
      | .error fault => .error fault
      | .ok reading => reading.check.map fun _ => reading.value.canonical := by
  unfold parseText parse
  cases read (Text.Utf8.ofString text) with
  | error fault => rfl
  | ok reading =>
    show (reading.check >>= fun _ => Except.ok reading.value.canonical) = reading.check.map _
    cases reading.check <;> rfl

theorem parseText_compact {v : Json} (hwhole : v.isWhole = true)
    (hdepth : v.depth ≤ Reader.maxDepth) : parseText v.compact = .ok v.canonical := by
  rw [parseText, parse, read_compact hwhole hdepth]
  rfl

/-! ## No line ends -/

/-- A character that is no control character of ASCII, so that it neither ends a line nor starts
one. -/
def IsPrinted (c : Char) : Prop :=
  0x20 ≤ c.toNat

instance : DecidablePred IsPrinted := fun c => inferInstanceAs (Decidable (0x20 ≤ c.toNat))

theorem isPrinted_of_all {cs : List Char} (h : (cs.all fun c => decide (IsPrinted c)) = true) :
    ∀ c ∈ cs, IsPrinted c := by
  simpa using h

theorem isPrinted_escapeChar (c : Char) : ∀ d ∈ escapeChar c, IsPrinted d := by
  have hdigits : ∀ n < 32, (['\\', 'u', '0', '0', Nat.digitChar (n / 16),
      Nat.digitChar (n % 16)].all fun d => decide (IsPrinted d)) = true := by
    decide
  unfold escapeChar
  split
  · exact isPrinted_of_all rfl
  · exact isPrinted_of_all rfl
  · exact isPrinted_of_all rfl
  · exact isPrinted_of_all rfl
  · exact isPrinted_of_all rfl
  · split
    · exact isPrinted_of_all rfl
    · split
      · exact isPrinted_of_all rfl
      · split
        next hlow => exact isPrinted_of_all (hdigits c.toNat hlow)
        next hprinted =>
          intro d hd
          rw [List.mem_singleton.mp hd]
          exact Nat.le_of_not_lt hprinted

theorem isPrinted_stringText (s : String) : ∀ c ∈ stringText s, IsPrinted c := by
  intro c hc
  simp only [stringText, List.mem_append, List.mem_cons, List.mem_flatMap, List.not_mem_nil,
    or_false] at hc
  rcases hc with (rfl | ⟨d, -, hd⟩) | rfl
  · decide
  · exact isPrinted_escapeChar d c hd
  · decide

theorem isPrinted_integerText (n : Int) : ∀ c ∈ integerText n, IsPrinted c := by
  have hdigits : ∀ c ∈ Nat.toDigits 10 n.natAbs, IsPrinted c := by
    intro c hc
    have hdigit := Nat.isDigit_of_mem_toDigits (by decide) (by decide) hc
    exact Nat.le_trans (by decide) (Char.isDigit_iff_toNat.mp hdigit).1
  unfold integerText
  split
  · intro c hc
    rcases List.mem_cons.mp hc with rfl | hc
    · decide
    · exact hdigits c hc
  · exact hdigits

mutual

theorem isPrinted_chars : ∀ v : Json, v.isWhole = true → ∀ c ∈ v.chars, IsPrinted c
  | .null, _ => isPrinted_of_all rfl
  | .bool true, _ => isPrinted_of_all rfl
  | .bool false, _ => isPrinted_of_all rfl
  | .number (.integer n), _ => isPrinted_integerText n
  | .number (.float _), hwhole => by cases hwhole
  | .string s, _ => isPrinted_stringText s
  | .array items, hwhole => by
    intro c hc
    simp only [chars, List.mem_append, List.mem_cons, List.not_mem_nil, or_false] at hc
    rcases hc with (rfl | hc) | rfl
    · decide
    · exact isPrinted_itemChars items hwhole c hc
    · decide
  | .object members, hwhole => by
    intro c hc
    simp only [chars, List.mem_append, List.mem_cons, List.not_mem_nil, or_false] at hc
    rcases hc with (rfl | hc) | rfl
    · decide
    · exact isPrinted_memberChars members hwhole c hc
    · decide

theorem isPrinted_itemChars :
    ∀ items : List Json, itemsWhole items = true → ∀ c ∈ itemChars items, IsPrinted c
  | [], _ => by simp [itemChars]
  | [v], hwhole => by
    rw [itemsWhole, Bool.and_eq_true] at hwhole
    exact isPrinted_chars v hwhole.1
  | v :: w :: rest, hwhole => by
    rw [itemsWhole, Bool.and_eq_true] at hwhole
    intro c hc
    simp only [itemChars, List.mem_append, List.mem_cons] at hc
    rcases hc with hc | rfl | hc
    · exact isPrinted_chars v hwhole.1 c hc
    · decide
    · exact isPrinted_itemChars (w :: rest) hwhole.2 c hc

theorem isPrinted_memberChars :
    ∀ members : Members, membersWhole members = true → ∀ c ∈ memberChars members, IsPrinted c
  | [], _ => by simp [memberChars]
  | [(key, v)], hwhole => by
    rw [membersWhole, Bool.and_eq_true] at hwhole
    intro c hc
    simp only [memberChars, List.mem_append, List.mem_cons] at hc
    rcases hc with hc | rfl | hc
    · exact isPrinted_stringText key c hc
    · decide
    · exact isPrinted_chars v hwhole.1 c hc
  | (key, v) :: next :: rest, hwhole => by
    rw [membersWhole, Bool.and_eq_true] at hwhole
    intro c hc
    simp only [memberChars, List.mem_append, List.mem_cons] at hc
    rcases hc with (hc | rfl | hc) | rfl | hc
    · exact isPrinted_stringText key c hc
    · decide
    · exact isPrinted_chars v hwhole.1 c hc
    · decide
    · exact isPrinted_memberChars (next :: rest) hwhole.2 c hc

end

end ActivityFeed.Json
