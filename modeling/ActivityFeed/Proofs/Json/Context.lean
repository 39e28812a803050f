import ActivityFeed.Proofs.Json.Effect

/-!
# A text is read alike wherever it stands

What a reader does with a text that it has for itself, it does with the same text as an item or as a
member: the effects are the same on top of whatever is open already (`Effect.within`). Only the room
may run out. How much of it a text needs can be told from the value, for the nesting that a reader
has seen (`reach`) is found again in the value that comes of it (`Reads.reach_le`).

Main results: `leads_of_reads` for a value, `leads_key_of_reads` for the text of a string that
stands as a key, and `depth_le_of_read`.
-/

namespace ActivityFeed.Json

/-! ## Nesting -/

/-- How deep what an open array or object holds is. -/
def Opened.depth : Opened → Nat
  | .array items => itemDepth items
  | .object members _ => memberDepth members

theorem itemDepth_append (as bs : List Json) :
    itemDepth (as ++ bs) = max (itemDepth as) (itemDepth bs) := by
  induction as with
  | nil => simp [itemDepth]
  | cons v as ih => rw [List.cons_append, itemDepth, itemDepth, ih, Nat.max_assoc]

theorem memberDepth_append (as bs : Members) :
    memberDepth (as ++ bs) = max (memberDepth as) (memberDepth bs) := by
  induction as with
  | nil => simp [memberDepth]
  | cons m as ih => rw [List.cons_append, memberDepth, memberDepth, ih, Nat.max_assoc]

theorem itemDepth_reverse (items : List Json) : itemDepth items.reverse = itemDepth items := by
  induction items with
  | nil => rfl
  | cons v items ih =>
    rw [List.reverse_cons, itemDepth_append, ih, itemDepth, itemDepth, itemDepth, Nat.max_comm,
      Nat.max_zero]

theorem memberDepth_reverse (members : Members) :
    memberDepth members.reverse = memberDepth members := by
  induction members with
  | nil => rfl
  | cons m members ih =>
    rw [List.reverse_cons, memberDepth_append, ih, memberDepth, memberDepth, memberDepth,
      Nat.max_comm, Nat.max_zero]

theorem depth_whole (o : Opened) : o.whole.depth = o.depth + 1 := by
  cases o with
  | array items => rw [Opened.whole, depth, itemDepth_reverse, Opened.depth]
  | object members => rw [Opened.whole, depth, memberDepth_reverse, Opened.depth]

theorem depth_named (o : Opened) (key : String) : (o.named key).depth = o.depth := by
  cases o <;> rfl

namespace Stage

/-- The deepest nesting seen in what is open. -/
def openedReach : List Opened → Nat
  | [] => 0
  | o :: rest => max (openedReach rest) (rest.length + 1 + o.depth)

/-- The deepest nesting that a reader has seen. -/
def reach (s : Stage) : Nat :=
  match s.mode with
  | .finished v _ => v.depth
  | _ => openedReach s.opened

variable {s t : Stage} {b : UInt8} {x : List UInt8} {base opened : List Opened} {mode : Mode}
  {v : Json}

theorem length_le_openedReach (opened : List Opened) : opened.length ≤ openedReach opened := by
  cases opened with
  | nil => exact Nat.le_refl 0
  | cons o rest =>
    rw [openedReach, List.length_cons]
    omega

theorem length_le_reach (hnested : s.Nested) : s.opened.length ≤ s.reach := by
  obtain ⟨opened, mode⟩ := s
  cases mode with
  | finished v trailing =>
    have hnone : opened = [] := hnested
    rw [hnone]
    exact Nat.zero_le _
  | _ => exact length_le_openedReach opened

theorem reach_delivered (v : Json) (opened : List Opened) :
    (delivered v opened).reach = max (openedReach opened) (opened.length + v.depth) := by
  rcases opened with _ | ⟨items | ⟨members, key⟩, rest⟩
  · simp [delivered, reach, openedReach]
  · simp only [delivered, reach, openedReach, Opened.depth, itemDepth, List.length_cons]
    omega
  · simp only [delivered, reach, openedReach, Opened.depth, memberDepth, List.length_cons]
    omega

theorem length_opened_delivered (v : Json) (opened : List Opened) :
    (delivered v opened).opened.length = opened.length := by
  rcases opened with _ | ⟨_ | _, rest⟩ <;> rfl

/-- A value that holds no others reaches no deeper than what it is delivered to. -/
theorem reach_delivered_of_depth (hv : v.depth = 0) (opened : List Opened) :
    (delivered v opened).reach = openedReach opened := by
  have hlength := length_le_openedReach opened
  rw [reach_delivered, hv]
  omega

theorem reach_of_awaitsValue (hmode : AwaitsValue mode) (opened : List Opened) :
    (Stage.mk opened mode).reach = openedReach opened := by
  rcases hmode with rfl | rfl | rfl <;> rfl

/-- **An effect leaves the reach as it is, or opens one more.** -/
theorem Effect.reach (h : Effect b s t) (hnested : s.Nested) :
    t.reach = s.reach
      ∨ s.opened.length < Reader.maxDepth ∧ t.reach = max s.reach (s.opened.length + 1) := by
  induction h with
  | blank | spell | longer | char | nextItem | nextKey | colon | trailing | ignored =>
    exact Or.inl rfl
  | name hmode | sign hmode | digit hmode | quote hmode =>
    exact Or.inl (reach_of_awaitsValue hmode _).symm
  | quoteKey hmode => rcases hmode with rfl | rfl <;> exact Or.inl rfl
  | spelled =>
    rcases hnested.2 with rfl | rfl | rfl <;> exact Or.inl (reach_delivered_of_depth rfl _)
  | text => exact Or.inl (reach_delivered_of_depth rfl _)
  | ended _ _ _ ih =>
    have hlater := ih (nested_delivered _ _)
    rw [reach_delivered_of_depth rfl, length_opened_delivered] at hlater
    exact hlater
  | key =>
    refine Or.inl ?_
    show openedReach _ = openedReach _
    rw [openedReach, openedReach, depth_named]
  | array hmode _ hroom | object hmode _ hroom =>
    refine Or.inr ⟨hroom, ?_⟩
    rw [reach_of_awaitsValue hmode]
    rfl
  | @close o opened mode h =>
    have hsource : (Stage.mk (o :: opened) mode).reach = openedReach (o :: opened) := by
      rcases h with ⟨-, rfl | rfl⟩ | ⟨-, rfl | rfl⟩ <;> rfl
    refine Or.inl ?_
    rw [hsource, reach_delivered, depth_whole, openedReach]
    omega

theorem reach_of_reads_nil (h : Reads s [] v) (hnested : s.Nested) : s.reach = v.depth := by
  rcases h.nil hnested with rfl | ⟨n, w, rfl, -, -, rfl⟩ <;> rfl

/-- **What a reader has seen of nesting** is in the value that it reads. -/
theorem Reads.reach_le (h : Reads s x v) (hnested : s.Nested) : s.reach ≤ v.depth := by
  induction x generalizing s with
  | nil => exact Nat.le_of_eq (reach_of_reads_nil h hnested)
  | cons b x ih =>
    obtain ⟨t, heffect, hnext, hrest⟩ := h.cons hnested
    have hlater := ih hrest hnext
    rcases heffect.reach hnested with hreach | ⟨-, hreach⟩ <;> omega

theorem Reads.depth_le (h : Reads s x v) (hnested : s.Nested) (hs : s.reach ≤ Reader.maxDepth) :
    v.depth ≤ Reader.maxDepth := by
  induction x generalizing s with
  | nil => rwa [← reach_of_reads_nil h hnested]
  | cons b x ih =>
    obtain ⟨t, heffect, hnext, hrest⟩ := h.cons hnested
    apply ih hrest hnext
    rcases heffect.reach hnested with hreach | ⟨hroom, hreach⟩ <;> omega

/-! ## On top of what is open already -/

/-- What a reader of a text by itself is on top of what is open already. -/
def within (base : List Opened) (s : Stage) : Stage :=
  match s.mode with
  | .finished v _ => delivered v base
  | mode => ⟨s.opened ++ base, mode⟩

theorem within_delivered (v : Json) (opened : List Opened) :
    (delivered v opened).within base = delivered v (opened ++ base) := by
  rcases opened with _ | ⟨_ | _, rest⟩ <;> rfl

theorem within_of_awaitsValue (hmode : AwaitsValue mode) (opened : List Opened) :
    (Stage.mk opened mode).within base = ⟨opened ++ base, mode⟩ := by
  rcases hmode with rfl | rfl | rfl <;> rfl

theorem isBetween_within (h : s.mode.isBetween = true) :
    (s.within base).mode.isBetween = true := by
  obtain ⟨opened, mode⟩ := s
  cases mode with
  | finished v trailing => exact isBetween_delivered v base
  | _ => exact h

theorem within_quiet (h : ∀ v p, s.mode ≠ .finished v (some p)) :
    ∀ v p, (s.within base).mode ≠ .finished v (some p) := by
  obtain ⟨opened, mode⟩ := s
  cases mode with
  | finished v trailing =>
    rcases base with _ | ⟨_ | _, rest⟩ <;> nofun
  | _ => exact h

/-- **The effects are the same wherever a text stands**, as long as there is room. -/
theorem Effect.within (h : Effect b s t) (hquiet : ∀ v p, t.mode ≠ .finished v (some p))
    (hroom : t.opened.length + base.length ≤ Reader.maxDepth) :
    Effect b (s.within base) (t.within base) := by
  -- only opening looks at how much is open, and only closing looks at what is
  induction h with
  | blank hblank h => exact .blank hblank (isBetween_within h)
  | name hmode h =>
    rw [within_of_awaitsValue hmode]
    exact .name hmode h
  | spell => exact .spell
  | spelled =>
    rw [within_delivered]
    exact .spelled
  | sign hmode hb =>
    rw [within_of_awaitsValue hmode]
    exact .sign hmode hb
  | digit hmode h =>
    rw [within_of_awaitsValue hmode]
    exact .digit hmode h
  | longer h => exact .longer h
  | ended h hvalue _ ih =>
    rw [within_delivered] at ih
    exact .ended h hvalue (ih hquiet hroom)
  | quote hmode hb =>
    rw [within_of_awaitsValue hmode]
    exact .quote hmode hb
  | quoteKey hmode hb =>
    rcases hmode with rfl | rfl
    · exact .quoteKey (Or.inl rfl) hb
    · exact .quoteKey (Or.inr rfl) hb
  | char h => exact .char h
  | text h =>
    rw [within_delivered]
    exact .text h
  | key h => exact .key h
  | array hmode hb =>
    rw [within_of_awaitsValue hmode]
    refine .array hmode hb ?_
    rw [List.length_cons] at hroom
    rw [List.length_append]
    omega
  | object hmode hb =>
    rw [within_of_awaitsValue hmode]
    refine .object hmode hb ?_
    rw [List.length_cons] at hroom
    rw [List.length_append]
    omega
  | @close o opened mode h =>
    have hsource : (Stage.mk (o :: opened) mode).within base = ⟨o :: (opened ++ base), mode⟩ := by
      rcases h with ⟨-, rfl | rfl⟩ | ⟨-, rfl | rfl⟩ <;> rfl
    rw [hsource, within_delivered]
    exact .close h
  | nextItem hb => exact .nextItem hb
  | nextKey hb => exact .nextKey hb
  | colon hb => exact .colon hb
  | trailing | ignored => exact absurd rfl (hquiet _ _)

/-- The next octet of a text has its effect there, for the room that is needed now is needed by the
value. -/
theorem Reads.cons_within (h : Reads s (b :: x) v) (hnested : s.Nested)
    (hroom : base.length + v.depth ≤ Reader.maxDepth) :
    ∃ t, Step (s.within base) b (t.within base) ∧ t.Nested ∧ Reads t x v := by
  obtain ⟨t, heffect, hnext, hrest⟩ := h.cons hnested
  have hlength : t.opened.length + base.length ≤ Reader.maxDepth := by
    have hnow := length_le_reach hnext
    have hlater := hrest.reach_le hnext
    omega
  have hsame := heffect.within hrest.ne_trailing hlength
  exact ⟨t, hsame.step (within_quiet hrest.ne_trailing), hnext, hrest⟩

theorem Reads.leads (h : Reads s x v) (hnested : s.Nested)
    (hroom : base.length + v.depth ≤ Reader.maxDepth) :
    ∃ t, Leads Step (s.within base) x t ∧ t.Stands (delivered v base) := by
  induction x generalizing s with
  | nil =>
    rcases h.nil hnested with rfl | ⟨n, w, rfl, hcomplete, hvalue, rfl⟩
    · exact ⟨_, .nil _, .refl _⟩
    · exact ⟨_, .nil _, stands_number hcomplete hvalue⟩
  | cons b x ih =>
    obtain ⟨next, hstep, hnext, hrest⟩ := h.cons_within hnested hroom
    obtain ⟨t, hleads, hstands⟩ := ih hrest hnext
    exact ⟨t, .cons hstep hleads, hstands⟩

/-! ## The first octet -/

theorem isBetween_of_awaitsValue (hmode : AwaitsValue mode) : mode.isBetween = true := by
  rcases hmode with rfl | rfl | rfl <;> rfl

/-- In all modes in which a value may come, it begins in the same way. -/
theorem step_of_value (hmode : AwaitsValue mode) (hblank : isBlank b = false)
    (h : Step ⟨opened, .value⟩ b t) : Step ⟨opened, mode⟩ b t := by
  intro p
  have hvalue := h p
  rw [feed_of_isBetween rfl] at hvalue
  have hstart : Reader.startValue ⟨p.after b, opened, .value⟩ b = .ok (t.at_ (p.after b)) := by
    simpa [Reader.feedBetween, hblank, at_] using eq_ok_of_mapError hvalue
  have hbracket : b ≠ octet ']' := ne_bracket_of_startValue hstart
  have hbetween : (at_ ⟨opened, mode⟩ (p.after b)).feedBetween b = .ok (t.at_ (p.after b)) := by
    rw [← hstart]
    rcases hmode with rfl | rfl | rfl <;> simp [Reader.feedBetween, hblank, hbracket, at_] <;> rfl
  rw [feed_of_isBetween (isBetween_of_awaitsValue hmode), hbetween]
  rfl

theorem step_blank (h : s.mode.isBetween = true) (hblank : isBlank b = true) : Step s b s := by
  intro p
  rw [feed_of_isBetween h, Reader.feedBetween, if_pos hblank]
  rfl

/-- A text of which an octet has been read goes on from there. -/
theorem Reads.of_step (h : Reads s (b :: x) v) (hstep : Step s b t) : Reads t x v := by
  obtain ⟨p, r, hfold, hfinish⟩ := h
  rw [List.foldlM_cons, hstep p] at hfold
  exact ⟨_, r, hfold, hfinish⟩

theorem not_reads_nil_of_value : ¬Reads ⟨opened, .value⟩ [] v := by
  rintro ⟨p, r, hfold, hfinish⟩
  cases hfold
  cases hfinish

/-- **A text that spells a value by itself** does so wherever a value may come. -/
theorem leads_of_reads (base : List Opened) (h : Reads ⟨[], .value⟩ x v) (hmode : AwaitsValue mode)
    (hroom : base.length + v.depth ≤ Reader.maxDepth) :
    ∃ t, Leads Step ⟨base, mode⟩ x t ∧ t.Stands (delivered v base) := by
  induction x with
  | nil => exact absurd h not_reads_nil_of_value
  | cons b x ih =>
    by_cases hblank : isBlank b = true
    · obtain ⟨t, hleads, hstands⟩ := ih (h.of_step (step_blank rfl hblank))
      exact ⟨t, .cons (step_blank (isBetween_of_awaitsValue hmode) hblank) hleads, hstands⟩
    · obtain ⟨next, hstep, hnext, hrest⟩ := h.cons_within trivial hroom
      have hfirst : Step ⟨base, mode⟩ b (next.within base) :=
        step_of_value hmode (by simpa using hblank) hstep
      obtain ⟨t, hleads, hstands⟩ := hrest.leads hnext hroom
      exact ⟨t, .cons hfirst hleads, hstands⟩

/-! ## The text of a key -/

/-- Behind the whole there are only blanks. -/
theorem Reads.finished {w : Json} (h : Reads ⟨[], .finished w none⟩ x v) :
    v = w ∧ ∀ b ∈ x, isBlank b = true := by
  induction x with
  | nil =>
    rcases h.nil rfl with h | ⟨_, _, h, -⟩
    · cases h
      exact ⟨rfl, fun _ hb => absurd hb List.not_mem_nil⟩
    · cases h
  | cons b x ih =>
    by_cases hblank : isBlank b = true
    · obtain ⟨hv, hrest⟩ := ih (h.of_step (step_blank rfl hblank))
      exact ⟨hv, List.forall_mem_cons.mpr ⟨hblank, hrest⟩⟩
    · obtain ⟨p, r, hfold, hfinish⟩ := h
      have hfeed : (at_ ⟨[], .finished w none⟩ p).feed b
          = .ok (at_ ⟨[], .finished w (some (p.after b))⟩ (p.after b)) := by
        rw [feed_of_isBetween rfl, Reader.feedBetween, if_neg hblank]
        rfl
      rw [List.foldlM_cons, hfeed] at hfold
      exact absurd ⟨_, r, hfold, hfinish⟩ not_reads_of_trailing

theorem leads_blanks (hbetween : s.mode.isBetween = true) (h : ∀ b ∈ x, isBlank b = true) :
    Leads Step s x s := by
  induction x with
  | nil => exact .nil s
  | cons b x ih =>
    obtain ⟨hfirst, hrest⟩ := List.forall_mem_cons.mp h
    exact .cons (step_blank hbetween hfirst) (ih hrest)

/-- A name gives the value that it stands for, and nothing else. -/
theorem Reads.literal {rest : List UInt8} {w : Json} (h : Reads ⟨[], .literal rest w⟩ x v)
    (hnested : Nested ⟨[], .literal rest w⟩) : v = w := by
  induction x generalizing rest with
  | nil => rcases h.nil hnested with h | ⟨_, _, h, -⟩ <;> cases h
  | cons b x ih =>
    obtain ⟨t, heffect, hnext, hrest⟩ := h.cons hnested
    cases heffect with
    | spell => exact ih hrest hnext
    | spelled => exact hrest.finished.1
    | blank _ hbetween => cases hbetween
    | name hmode | sign hmode | digit hmode | quote hmode | array hmode | object hmode =>
      rcases hmode with h | h | h <;> cases h
    | quoteKey hmode => rcases hmode with h | h <;> cases h

/-- A number gives a number. -/
theorem Reads.number {n : Numeral} (h : Reads ⟨[], .number n⟩ x v) : ∃ w, v = .number w := by
  induction x generalizing n with
  | nil =>
    rcases h.nil trivial with h | ⟨_, w, -, -, -, rfl⟩
    · cases h
    · exact ⟨w, rfl⟩
  | cons b x ih =>
    obtain ⟨t, heffect, -, hrest⟩ := h.cons trivial
    cases heffect with
    | longer => exact ih hrest
    | @ended _ _ w _ hends hvalue =>
      obtain ⟨p, r, hfold, hfinish⟩ := h
      rw [List.foldlM_cons, feed_of_ended hends hvalue, ← List.foldlM_cons] at hfold
      exact ⟨w, (Reads.finished ⟨p, r, hfold, hfinish⟩).1⟩
    | blank _ hbetween => cases hbetween
    | name hmode | sign hmode | digit hmode | quote hmode | array hmode | object hmode =>
      rcases hmode with h | h | h <;> cases h
    | quoteKey hmode => rcases hmode with h | h <;> cases h

/-- What is between the quotes is read alike in values and in keys. -/
theorem Reads.leads_key {q : Quotation} {held : Members} {before k : String}
    (h : Reads ⟨[], .string false q⟩ x (.string k)) :
    Leads Step ⟨.object held before :: base, .string true q⟩ x
      ⟨.object held k :: base, .colon⟩ := by
  induction x generalizing q with
  | nil => rcases h.nil trivial with h | ⟨_, _, h, -⟩ <;> cases h
  | cons b x ih =>
    obtain ⟨t, heffect, -, hrest⟩ := h.cons trivial
    cases heffect with
    | char hfeed => exact .cons (step_quotation hfeed) (ih hrest)
    | @text _ _ s hfeed =>
      obtain ⟨hs, hblanks⟩ := hrest.finished
      cases hs
      have hstep : Step ⟨.object held before :: base, .string true q⟩ b
          ⟨.object held k :: base, .colon⟩ :=
        (Effect.key hfeed).step nofun
      exact .cons hstep (leads_blanks rfl hblanks)
    | blank _ hbetween => cases hbetween
    | name hmode | sign hmode | digit hmode | quote hmode | array hmode | object hmode =>
      rcases hmode with h | h | h <;> cases h
    | quoteKey hmode => rcases hmode with h | h <;> cases h

/-- **A text that spells a string by itself** names the next member wherever a key may come. -/
theorem leads_key_of_reads (base : List Opened) {k : String}
    (h : Reads ⟨[], .value⟩ x (.string k)) (hmode : AwaitsKey mode) (held : Members)
    (before : String) :
    Leads Step ⟨.object held before :: base, mode⟩ x ⟨.object held k :: base, .colon⟩ := by
  have hbetween : mode.isBetween = true := by
    rcases hmode with rfl | rfl <;> rfl
  induction x with
  | nil => exact absurd h not_reads_nil_of_value
  | cons b x ih =>
    by_cases hblank : isBlank b = true
    · exact .cons (step_blank hbetween hblank) (ih (h.of_step (step_blank rfl hblank)))
    · obtain ⟨t, heffect, hnext, hrest⟩ := h.cons trivial
      -- only a quote begins a string
      cases heffect with
      | quote _ hb => exact .cons ((Effect.quoteKey hmode hb).step nofun) hrest.leads_key
      | blank hb => exact absurd hb hblank
      | name _ hname =>
        have hnamed := (of_mem_names hname).2
        rw [← hrest.literal hnext] at hnamed
        rcases hnamed with h | h | h <;> cases h
      | sign | digit =>
        obtain ⟨w, hw⟩ := hrest.number
        cases hw
      | array | object => cases hrest.reach_le hnext
      | quoteKey hkey => rcases hkey with h | h <;> cases h

end Stage

/-! ## How deep a text may be -/

theorem depth_le_of_read {x : List UInt8} {v : Json} (h : read x = .ok ⟨v, none⟩) :
    v.depth ≤ Reader.maxDepth :=
  (Stage.reads_of_read h).depth_le trivial (Nat.zero_le _)

end ActivityFeed.Json
