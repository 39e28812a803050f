import ActivityFeed.Proofs.Json.Canonical
import ActivityFeed.Proofs.Json.Context

/-!
# The texts of JSON values

`IsText` is the grammar of JSON: it says which octets are the text of which value. Items and members
stand in a row with commas between them (`Row`), and there may be blanks around each (`Padded`).
What a number and a string are, octet by octet, is left to the machines that read them.

The reader follows the grammar: the text of a value leads to its delivery wherever a value may come
(`leads_of_isText`), with all that is in it delivered before. Behind a number the reader has still
to be told that the number has ended (`Behind`); a blank, a delimiter or the end of the text says
so, and so does any other octet that does not go on with the number.

Main result: `read_of_begins`. That nothing else is read is shown with what a reader holds.
-/

namespace ActivityFeed.Json

variable {x y : List UInt8} {v : Json}

/-! ## The grammar -/

/-- Blanks between tokens. -/
def IsBlanks (x : List UInt8) : Prop :=
  ∀ b ∈ x, isBlank b = true

/-- How far a number has been read behind some octets, of which a minus sign may be the first. -/
def Numeral.Reached (x : List UInt8) (n : Numeral) : Prop :=
  Leads Step (.empty false) x n ∨ ∃ y, x = octet '-' :: y ∧ Leads Step (.empty true) y n

/-- The text of a number. -/
def IsNumber (x : List UInt8) (w : Number) : Prop :=
  ∃ n, Numeral.Reached x n ∧ n.isComplete = true ∧ n.value? = some w

/-- The text of a string, with its quotes. -/
def IsString (x : List UInt8) (s : String) : Prop :=
  ∃ y q, x = octet '"' :: y ++ [octet '"'] ∧ Leads Quotation.Step .empty y q
    ∧ q.feed (octet '"') = .closed s

section

variable {α : Type} (P : List UInt8 → α → Prop)

/-- A text with blanks around it. -/
inductive Padded : List UInt8 → α → Prop
  | mk {before core after : List UInt8} {a : α} (hbefore : IsBlanks before) (h : P core a)
    (hafter : IsBlanks after) : Padded (before ++ core ++ after) a

/-- Texts with commas between them. -/
inductive Row : List UInt8 → List α → Prop
  | one {x : List UInt8} {a : α} (h : P x a) : Row x [a]
  | more {x y : List UInt8} {a : α} {as : List α} (h : P x a) (rest : Row y as) :
    Row (x ++ octet ',' :: y) (a :: as)

end

/-- The text of a member: its key, a colon and its value. -/
inductive IsMember (P : List UInt8 → Json → Prop) : List UInt8 → String × Json → Prop
  | mk {x y : List UInt8} {key : String} {v : Json} (hkey : Padded IsString x key)
    (hvalue : Padded P y v) : IsMember P (x ++ octet ':' :: y) (key, v)

/-- The text of a value. -/
inductive IsText : List UInt8 → Json → Prop
  | name {b : UInt8} {rest : List UInt8} {v : Json} (h : (b, rest, v) ∈ Stage.names) :
    IsText (b :: rest) v
  | number {x : List UInt8} {w : Number} (h : IsNumber x w) : IsText x (.number w)
  | string {x : List UInt8} {s : String} (h : IsString x s) : IsText x (.string s)
  | noItems {x : List UInt8} (h : IsBlanks x) :
    IsText (octet '[' :: x ++ [octet ']']) (.array [])
  | items {x : List UInt8} {items : List Json} (h : Row (Padded IsText) x items) :
    IsText (octet '[' :: x ++ [octet ']']) (.array items)
  | noMembers {x : List UInt8} (h : IsBlanks x) :
    IsText (octet '\x7b' :: x ++ [octet '\x7d']) (.object [])
  | members {x : List UInt8} {members : Members} (h : Row (IsMember IsText) x members) :
    IsText (octet '\x7b' :: x ++ [octet '\x7d']) (.object members)

/-- What stands behind the text of a value does not go on with it, as digits would with a number. -/
def Stops (core : List UInt8) (v : Json) (rest : List UInt8) : Prop :=
  ∀ w, v = .number w → ∀ b later, rest = b :: later →
    ∃ n, Numeral.Reached core n ∧ n.feed b = .ok none

/-- A whole text is that of a value, with blanks around it. No more arrays and objects are open at
once than the reader allows. -/
def IsWholeText (x : List UInt8) (v : Json) : Prop :=
  Padded IsText x v ∧ v.depth ≤ Reader.maxDepth

/-- A text begins with that of a value, whatever follows it. -/
def Begins (x : List UInt8) (v : Json) : Prop :=
  ∃ before core rest, x = before ++ core ++ rest ∧ IsBlanks before ∧ IsText core v
    ∧ v.depth ≤ Reader.maxDepth ∧ Stops core v rest

/-! ## Numbers -/

namespace Numeral

variable {n m : Numeral} {b : UInt8}

theorem leads_unique {s t u : Numeral} (ht : Leads Step s x t) (hu : Leads Step s x u) : t = u := by
  induction ht with
  | nil =>
    cases hu
    rfl
  | cons first _ ih =>
    cases hu with
    | cons first' later =>
      have hsame := first.symm.trans first'
      cases hsame
      exact ih later

/-- Octets say how far a number has been read. -/
theorem Reached.unique (hn : Reached x n) (hm : Reached x m) : n = m := by
  have hsign : ∀ {y k}, ¬Leads Step (.empty false) (octet '-' :: y) k := fun h => by
    cases h with
    | cons first _ => cases first
  rcases hn with hn | ⟨y, rfl, hn⟩ <;> rcases hm with hm | ⟨z, hz, hm⟩
  · exact leads_unique hn hm
  · subst hz
    exact absurd hn hsign
  · exact absurd hm hsign
  · cases hz
    exact leads_unique hn hm

/-- A digit of an exponent never ends it. -/
theorem exponentDigit_ne_none (n : Numeral) (d : Nat) :
    (n.exponentDigit d).map some ≠ .ok none := by
  cases n.exponentDigit d <;> nofun

/-- A number that ends before an octet may end there. -/
theorem isComplete_of_ends (h : n.feed b = .ok none) : n.isComplete = true := by
  obtain ⟨phase, negative, significand, scale, exponentNegative, written⟩ := n
  cases phase with
  | sign =>
    cases hd : digitOf? b with
    | none => simp [feed, hd] at h
    | some d => cases d <;> simp [feed, hd] at h
  | point => cases hd : digitOf? b <;> simp [feed, hd] at h
  | exponentMark =>
    cases hd : digitOf? b with
    | none =>
      simp only [feed, hd] at h
      split at h
      · cases h
      · split at h <;> cases h
    | some d =>
      simp only [feed, hd] at h
      exact absurd h (exponentDigit_ne_none _ d)
  | exponentSign =>
    cases hd : digitOf? b with
    | none => simp [feed, hd] at h
    | some d =>
      simp only [feed, hd] at h
      exact absurd h (exponentDigit_ne_none _ d)
  | _ => rfl

/-- Behind a number that may end there, a blank ends it. -/
theorem feed_blank (h : n.isComplete = true) (hb : isBlank b = true) : n.feed b = .ok none := by
  have hblank : b = 0x20 ∨ b = 0x0A ∨ b = 0x09 ∨ b = 0x0D := by
    simpa [isBlank, or_assoc] using hb
  obtain ⟨phase, _, _, _, _, _⟩ := n
  cases phase with
  | sign | point | exponentMark | exponentSign => cases h
  | _ => rcases hblank with rfl | rfl | rfl | rfl <;> rfl

end Numeral

/-! ## The reader follows the grammar -/

namespace Stage

variable {opened : List Opened} {mode : Mode} {s t : Stage} {b : UInt8}

/-- Where a reader is behind the text of a value: the value has been delivered, or it is a number
that may end there. -/
inductive Behind (x : List UInt8) (v : Json) (opened : List Opened) : Stage → Prop
  | done : Behind x v opened (delivered v opened)
  | number {n : Numeral} {w : Number} (hv : v = .number w) (hn : Numeral.Reached x n)
    (hcomplete : n.isComplete = true) (hvalue : n.value? = some w) :
    Behind x v opened ⟨opened, .number n⟩

theorem Behind.stands (h : Behind x v opened s) : s.Stands (delivered v opened) := by
  cases h with
  | done => exact .refl _
  | number hv _ hcomplete hvalue =>
    subst hv
    exact stands_number hcomplete hvalue

/-- Blanks behind a value do not matter, and the first of them ends a number. -/
theorem Behind.leads_blanks (h : Behind x v opened s) (hy : IsBlanks y) :
    ∃ t, Leads Step s y t ∧ t.Stands (delivered v opened) := by
  cases y with
  | nil => exact ⟨s, .nil s, h.stands⟩
  | cons b y =>
    obtain ⟨hb, hrest⟩ := List.forall_mem_cons.mp hy
    have hbetween := isBetween_delivered v opened
    cases h with
    | done => exact ⟨_, Stage.leads_blanks hbetween hy, .refl _⟩
    | number hv _ hcomplete hvalue =>
      subst hv
      refine ⟨_, .cons (fun p => ?_) (Stage.leads_blanks hbetween hrest), .refl _⟩
      rw [feed_of_ended (Numeral.feed_blank hcomplete hb) hvalue]
      exact step_blank hbetween hb p

/-! ### Tokens -/

theorem quiet_delivered (v : Json) (opened : List Opened) :
    ∀ w p, (delivered v opened).mode ≠ .finished w (some p) := by
  rcases opened with _ | ⟨_ | _, rest⟩ <;> nofun

theorem leads_literal {rest : List UInt8} (hne : rest ≠ []) (v : Json) (opened : List Opened) :
    Leads Step ⟨opened, .literal rest v⟩ rest (delivered v opened) := by
  induction rest with
  | nil => exact absurd rfl hne
  | cons b rest ih =>
    cases rest with
    | nil => exact .single (Effect.spelled.step (quiet_delivered v opened))
    | cons c rest => exact .cons (Effect.spell.step nofun) (ih (List.cons_ne_nil c rest))

theorem leads_name (hmode : AwaitsValue mode) {rest : List UInt8} (h : (b, rest, v) ∈ names) :
    Leads Step ⟨opened, mode⟩ (b :: rest) (delivered v opened) :=
  .cons ((Effect.name hmode h).step nofun) (leads_literal (of_mem_names h).1 v opened)

/-- A number without a sign begins with a digit. -/
theorem digit_of_step {negative : Bool} {n : Numeral} (h : Numeral.Step (.empty negative) b n) :
    ∃ d, digitOf? b = some d ∧ n = .ofDigits negative d := by
  cases hd : digitOf? b with
  | none =>
    simp only [Numeral.Step, Numeral.feed, Numeral.empty, hd] at h
    cases h
  | some d =>
    have hsame := h.symm.trans (Numeral.step_sign negative hd)
    cases hsame
    exact ⟨d, rfl, rfl⟩

theorem leads_number_of_reached (hmode : AwaitsValue mode) {n : Numeral}
    (hn : Numeral.Reached x n) (hcomplete : n.isComplete = true) :
    Leads Step ⟨opened, mode⟩ x ⟨opened, .number n⟩ := by
  have hlater : ∀ {m : Numeral} {y : List UInt8}, Leads Numeral.Step m y n →
      Leads Step ⟨opened, .number m⟩ y ⟨opened, .number n⟩ :=
    Leads.map (f := fun m => (⟨opened, .number m⟩ : Stage)) step_numeral
  rcases hn with hn | ⟨y, rfl, hn⟩
  · cases hn with
    | nil => cases hcomplete
    | cons first later =>
      obtain ⟨d, hd, rfl⟩ := digit_of_step first
      exact .cons ((Effect.digit hmode hd).step nofun) (hlater later)
  · exact .cons ((Effect.sign hmode rfl).step nofun) (hlater hn)

theorem leads_string_of_isString (hmode : AwaitsValue mode) {k : String} (h : IsString x k) :
    Leads Step ⟨opened, mode⟩ x (delivered (.string k) opened) := by
  obtain ⟨y, q, rfl, hleads, hclosed⟩ := h
  have hinside := Leads.map
    (f := fun q => (⟨opened, .string false q⟩ : Stage)) step_quotation hleads
  exact .cons ((Effect.quote hmode rfl).step nofun)
    (hinside.append (.single ((Effect.text hclosed).step (quiet_delivered _ opened))))

theorem leads_key_of_isString (opened : List Opened) (hmode : AwaitsKey mode) {k : String}
    (h : IsString x k) (held : Members) (before : String) :
    Leads Step ⟨.object held before :: opened, mode⟩ x ⟨.object held k :: opened, .colon⟩ := by
  obtain ⟨y, q, rfl, hleads, hclosed⟩ := h
  have hinside := Leads.map
    (f := fun q => (⟨.object held before :: opened, .string true q⟩ : Stage)) step_quotation hleads
  exact .cons ((Effect.quoteKey hmode rfl).step nofun)
    (hinside.append (.single ((Effect.key hclosed).step nofun)))

theorem leads_padded_key (opened : List Opened) (hmode : AwaitsKey mode) {k : String}
    (h : Padded IsString x k) (held : Members) (before : String) :
    Leads Step ⟨.object held before :: opened, mode⟩ x ⟨.object held k :: opened, .colon⟩ := by
  have hbetween : mode.isBetween = true := by
    rcases hmode with rfl | rfl <;> rfl
  obtain ⟨hbefore, hcore, hafter⟩ := h
  have hkey := leads_key_of_isString opened hmode hcore held before
  exact ((leads_blanks hbetween hbefore).append hkey).append (leads_blanks rfl hafter)

/-! ### Values -/

/-- The texts of a value lead to its delivery wherever a value may come, if there is room. -/
def LeadsToDelivery (v : Json) : Prop :=
  ∀ (x : List UInt8) (opened : List Opened) (mode : Mode), IsText x v → AwaitsValue mode →
    opened.length + v.depth ≤ Reader.maxDepth →
      ∃ s, Leads Step ⟨opened, mode⟩ x s ∧ Behind x v opened s

theorem LeadsToDelivery.padded (hv : LeadsToDelivery v) (h : Padded IsText x v)
    (opened : List Opened) (hmode : AwaitsValue mode)
    (hroom : opened.length + v.depth ≤ Reader.maxDepth) :
    ∃ s, Leads Step ⟨opened, mode⟩ x s ∧ s.Stands (delivered v opened) := by
  obtain ⟨hbefore, hcore, hafter⟩ := h
  obtain ⟨s, hleads, hbehind⟩ := hv _ _ _ hcore hmode hroom
  obtain ⟨t, hblanks, hstands⟩ := hbehind.leads_blanks hafter
  exact ⟨t, ((leads_blanks (isBetween_of_awaitsValue hmode) hbefore).append hleads).append hblanks,
    hstands⟩

theorem leads_items (opened : List Opened) {items : List Json} (h : Row (Padded IsText) x items)
    (hitems : ∀ v ∈ items, LeadsToDelivery v) (held : List Json) (hmode : AwaitsValue mode)
    (hroom : opened.length + 1 + itemDepth items ≤ Reader.maxDepth) :
    ∃ s, Leads Step ⟨.array held :: opened, mode⟩ x s
      ∧ s.Stands ⟨.array (items.reverse ++ held) :: opened, .afterItem⟩ := by
  induction h generalizing held mode with
  | @one x v h =>
    simp only [itemDepth] at hroom
    exact (hitems v (List.mem_singleton_self v)).padded h (.array held :: opened) hmode
      (by rw [List.length_cons]; omega)
  | @more x y v items h rest ih =>
    obtain ⟨hv, hitems⟩ := List.forall_mem_cons.mp hitems
    rw [itemDepth] at hroom
    obtain ⟨s, hfirst, hstands⟩ := hv.padded h (.array held :: opened) hmode
      (by rw [List.length_cons]; omega)
    have hcomma : Step s (octet ',') ⟨.array (v :: held) :: opened, .nextItem⟩ :=
      hstands.step (Or.inl rfl) fun _ => rfl
    obtain ⟨t, hlater, hlast⟩ := ih hitems (v :: held) (Or.inr (Or.inr rfl)) (by omega)
    exact ⟨t, hfirst.append (.cons hcomma hlater), by simpa using hlast⟩

theorem leads_of_isMember (opened : List Opened) {m : String × Json} (h : IsMember IsText x m)
    (hm : LeadsToDelivery m.2) (held : Members) (before : String) (hmode : AwaitsKey mode)
    (hroom : opened.length + 1 + m.2.depth ≤ Reader.maxDepth) :
    ∃ s, Leads Step ⟨.object held before :: opened, mode⟩ x s
      ∧ s.Stands ⟨.object (m :: held) m.1 :: opened, .afterMember⟩ := by
  obtain ⟨hkey, hvalue⟩ := h
  obtain ⟨s, hleads, hstands⟩ := hm.padded hvalue (.object held _ :: opened) (Or.inl rfl)
    (by rw [List.length_cons]; omega)
  exact ⟨s, (leads_padded_key opened hmode hkey held before).append
    (.cons ((Effect.colon rfl).step nofun) hleads), hstands⟩

theorem leads_members (opened : List Opened) {members : Members}
    (h : Row (IsMember IsText) x members) (hmembers : ∀ m ∈ members, LeadsToDelivery m.2)
    (held : Members) (before : String) (hmode : AwaitsKey mode)
    (hroom : opened.length + 1 + memberDepth members ≤ Reader.maxDepth) :
    ∃ s last, Leads Step ⟨.object held before :: opened, mode⟩ x s
      ∧ s.Stands ⟨.object (members.reverse ++ held) last :: opened, .afterMember⟩ := by
  induction h generalizing held before mode with
  | @one x m h =>
    simp only [memberDepth] at hroom
    obtain ⟨s, hleads, hstands⟩ := leads_of_isMember opened h
      (hmembers m (List.mem_singleton_self m)) held before hmode (by omega)
    exact ⟨s, m.1, hleads, hstands⟩
  | @more x y m members h rest ih =>
    obtain ⟨hm, hmembers⟩ := List.forall_mem_cons.mp hmembers
    rw [memberDepth] at hroom
    obtain ⟨s, hfirst, hstands⟩ := leads_of_isMember opened h hm held before hmode (by omega)
    have hcomma : Step s (octet ',') ⟨.object (m :: held) m.1 :: opened, .nextKey⟩ :=
      hstands.step (Or.inl rfl) fun _ => rfl
    obtain ⟨t, last, hlater, hlast⟩ := ih hmembers (m :: held) m.1 (Or.inr rfl) (by omega)
    exact ⟨t, last, hfirst.append (.cons hcomma hlater), by simpa using hlast⟩

/-- **The text of a value leads to its delivery.** -/
theorem leads_of_isText (v : Json) : LeadsToDelivery v := by
  -- a number is delivered by what comes after it, and everything else by its last octet
  induction v using tree_induction with
  | null | bool =>
    intro x opened mode h hmode _
    cases h with
    | name h => exact ⟨_, leads_name hmode h, .done⟩
  | number w =>
    intro x opened mode h hmode _
    cases h with
    | name h => exact absurd (of_mem_names h).2 (by simp [IsNamed])
    | number h =>
      obtain ⟨n, hn, hcomplete, hvalue⟩ := h
      exact ⟨_, leads_number_of_reached hmode hn hcomplete, .number rfl hn hcomplete hvalue⟩
  | string k =>
    intro x opened mode h hmode _
    cases h with
    | name h => exact absurd (of_mem_names h).2 (by simp [IsNamed])
    | string h => exact ⟨_, leads_string_of_isString hmode h, .done⟩
  | array items ih =>
    intro x opened mode h hmode hroom
    rw [depth] at hroom
    have hopen := (@step_open opened mode hmode (by omega)).1
    cases h with
    | name h => exact absurd (of_mem_names h).2 (by simp [IsNamed])
    | noItems hblanks =>
      exact ⟨_, .cons hopen ((leads_blanks rfl hblanks).append
        (.single (step_close_array (Or.inl rfl)))), .done⟩
    | items hrow =>
      obtain ⟨s, hleads, hstands⟩ :=
        leads_items opened hrow ih [] (Or.inr (Or.inl rfl)) (by omega)
      have hclose := hstands.step (Or.inr (Or.inl rfl)) (step_close_array (Or.inr rfl))
      rw [List.append_nil, List.reverse_reverse] at hclose
      exact ⟨_, .cons hopen (hleads.append (.single hclose)), .done⟩
  | object members ih =>
    intro x opened mode h hmode hroom
    rw [depth] at hroom
    have hopen := (@step_open opened mode hmode (by omega)).2
    cases h with
    | name h => exact absurd (of_mem_names h).2 (by simp [IsNamed])
    | noMembers hblanks =>
      exact ⟨_, .cons hopen ((leads_blanks rfl hblanks).append
        (.single (step_close_object (Or.inl rfl)))), .done⟩
    | members hrow =>
      obtain ⟨s, last, hleads, hstands⟩ :=
        leads_members opened hrow ih [] "" (Or.inl rfl) (by omega)
      have hclose := hstands.step (Or.inr (Or.inr rfl)) (step_close_object (Or.inr rfl))
      rw [List.append_nil, List.reverse_reverse] at hclose
      exact ⟨_, .cons hopen (hleads.append (.single hclose)), .done⟩

/-! ### What follows a value -/

/-- Behind the whole nothing is at fault. -/
theorem finish_of_finished (v : Json) (trailing : Option Position) (rest : List UInt8)
    (p : Position) : ∃ trailing',
      (rest.foldlM Reader.feed (at_ ⟨[], .finished v trailing⟩ p) >>= Reader.finish)
        = .ok ⟨v, trailing'⟩ := by
  induction rest generalizing trailing p with
  | nil => exact ⟨trailing, rfl⟩
  | cons b rest ih =>
    have hfeed : ∃ later, (at_ ⟨[], .finished v trailing⟩ p).feed b
        = .ok (at_ ⟨[], .finished v later⟩ (p.after b)) := by
      rw [feed_of_isBetween rfl, Reader.feedBetween]
      split
      · exact ⟨trailing, rfl⟩
      · cases trailing with
        | none => exact ⟨some (p.after b), rfl⟩
        | some q => exact ⟨some q, rfl⟩
    obtain ⟨later, hlater⟩ := hfeed
    rw [List.foldlM_cons, hlater]
    exact ih later (p.after b)

theorem Behind.finish (h : Behind x v [] s) {rest : List UInt8} (hstops : Stops x v rest)
    (p : Position) : ∃ trailing,
      (rest.foldlM Reader.feed (s.at_ p) >>= Reader.finish) = .ok ⟨v, trailing⟩ := by
  cases h with
  | done => exact finish_of_finished v none rest p
  | @number n w hv hn hcomplete hvalue =>
    cases rest with
    | nil =>
      subst hv
      exact ⟨none, (stands_number hcomplete hvalue).finish p⟩
    | cons b rest =>
      obtain ⟨m, hm, hends⟩ := hstops w hv b rest rfl
      cases hm.unique hn
      subst hv
      obtain ⟨trailing, hfinish⟩ := finish_of_finished (.number w) none (b :: rest) p
      refine ⟨trailing, ?_⟩
      rw [List.foldlM_cons, feed_of_ended hends hvalue, ← List.foldlM_cons]
      exact hfinish

end Stage

/-- **A text that begins with a value** is read as that value, whatever follows. -/
theorem read_of_begins (h : Begins x v) : ∃ trailing, read x = .ok ⟨v, trailing⟩ := by
  obtain ⟨before, core, rest, rfl, hbefore, hcore, hdepth, hstops⟩ := h
  obtain ⟨s, hleads, hbehind⟩ := Stage.leads_of_isText v core [] .value hcore (Or.inl rfl)
    (by simpa using hdepth)
  have hfront : Leads Stage.Step ⟨[], .value⟩ (before ++ core) s :=
    (Stage.leads_blanks rfl hbefore).append hleads
  obtain ⟨p, hfold⟩ := Stage.foldlM_of_leads hfront .start
  obtain ⟨trailing, hfinish⟩ := hbehind.finish hstops p
  refine ⟨trailing, ?_⟩
  show (before ++ core ++ rest).foldlM Reader.feed (Stage.at_ ⟨[], .value⟩ .start)
    >>= Reader.finish = _
  rw [List.foldlM_append, hfold]
  exact hfinish

/-- A whole text is read as its value, and nothing is left of it. -/
theorem read_of_isWholeText (h : IsWholeText x v) : read x = .ok ⟨v, none⟩ := by
  obtain ⟨s, hleads, hstands⟩ := (Stage.leads_of_isText v).padded h.1 [] (Or.inl rfl)
    (by simpa using h.2)
  exact Stage.read_of_leads hleads hstands

end ActivityFeed.Json
