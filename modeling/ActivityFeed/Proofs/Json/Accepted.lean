import ActivityFeed.Proofs.Json.Grammar

/-!
# Nothing but JSON is read

A reader holds what it has read, and `Partial` says which texts can have led it there: the arrays
and objects that are open have the texts of what they hold behind their brackets (`Awaiting`), and
the mode says what stands behind that. Each octet that is taken makes the text one of the next stage
(`Effect.isPartial`). So where a value has been read the text begins with a text of that value.

Main results: `read_eq_ok_iff` for whole texts and `exists_read_iff` for those that begin with a
value.
-/

namespace ActivityFeed.Json

variable {x y z : List UInt8} {v : Json}

/-! ## Rows that grow -/

section

variable {α : Type} {P : List UInt8 → α → Prop} {a : α} {as : List α}

theorem Row.concat (h : Row P x as) (ha : P y a) : Row P (x ++ octet ',' :: y) (as ++ [a]) := by
  induction h with
  | one h => exact .more h (.one ha)
  | more h _ ih =>
    rw [List.append_assoc, List.cons_append, List.cons_append]
    exact .more h ih

/-- What may stand behind the last of a row may stand behind the row. -/
theorem Row.append (hP : ∀ x a, P x a → P (x ++ y) a) (h : Row P x as) : Row P (x ++ y) as := by
  induction h with
  | one h => exact .one (hP _ _ h)
  | more h _ ih =>
    rw [List.append_assoc, List.cons_append]
    exact .more h ih

/-- What stands in front of one more of a row: nothing, or the row so far and a comma. -/
inductive Led (P : List UInt8 → α → Prop) : List UInt8 → List α → Prop
  | first : Led P [] []
  | later {x : List UInt8} {as : List α} (h : Row P x as) : Led P (x ++ [octet ',']) as

theorem Led.row (h : Led P x as) (ha : P y a) : Row P (x ++ y) (as ++ [a]) := by
  cases h with
  | first => exact .one ha
  | later h =>
    rw [List.append_assoc, List.singleton_append]
    exact h.concat ha

theorem IsBlanks.append (hx : IsBlanks x) (hy : IsBlanks y) : IsBlanks (x ++ y) := by
  intro b hb
  rcases List.mem_append.mp hb with hb | hb
  · exact hx b hb
  · exact hy b hb

theorem Padded.append (h : Padded P x a) (hy : IsBlanks y) : Padded P (x ++ y) a := by
  obtain ⟨hbefore, hcore, hafter⟩ := h
  rw [List.append_assoc]
  exact .mk hbefore hcore (hafter.append hy)

end

theorem IsMember.append {P : List UInt8 → Json → Prop} {m : String × Json} (h : IsMember P x m)
    (hy : IsBlanks y) : IsMember P (x ++ y) m := by
  obtain ⟨hkey, hvalue⟩ := h
  rw [List.append_assoc, List.cons_append]
  exact .mk hkey (hvalue.append hy)

theorem isBlanks_nil : IsBlanks [] :=
  List.forall_mem_nil _

theorem isBlanks_singleton {b : UInt8} (h : isBlank b = true) : IsBlanks [b] := by
  simpa [IsBlanks] using h

/-- At the end of a text nothing goes on. -/
theorem stops_nil : Stops x v [] := by
  intro w hw b later hlater
  cases hlater

/-- What comes later does not go on with a value that has stopped. -/
theorem Stops.append (h : Stops x v y) (hne : y ≠ []) (later : List UInt8) :
    Stops x v (y ++ later) := by
  obtain ⟨c, y, rfl⟩ := List.exists_cons_of_ne_nil hne
  rintro w hw _ _ ⟨⟩
  exact h w hw c y rfl

/-- A blank behind a value does not go on with it. -/
theorem IsText.stops_of_blanks (h : IsText x v) (hy : IsBlanks y)
    (hended : ∀ w, v = .number w → y ≠ []) (later : List UInt8) : Stops x v (y ++ later) := by
  rintro w rfl b rest hb
  obtain ⟨c, y, rfl⟩ := List.exists_cons_of_ne_nil (hended w rfl)
  cases hb
  have hblank := hy b (List.mem_cons_self ..)
  cases h with
  | name hname => exact absurd (Stage.of_mem_names hname).2 (by simp [Stage.IsNamed])
  | number h =>
    obtain ⟨n, hn, hcomplete, -⟩ := h
    exact ⟨n, hn, Numeral.feed_blank hcomplete hblank⟩

/-- One more octet of a number. -/
theorem Numeral.Reached.more {n m : Numeral} {b : UInt8} (h : Reached x n) (hstep : Step n b m) :
    Reached (x ++ [b]) m := by
  rcases h with h | ⟨y, rfl, h⟩
  · exact Or.inl (h.append (.single hstep))
  · exact Or.inr ⟨y ++ [b], rfl, h.append (.single hstep)⟩

/-- Only a quote ends a string. -/
theorem Quotation.eq_quote_of_closed {q : Quotation} {b : UInt8} {s : String}
    (h : q.feed b = .closed s) : b = octet '"' := by
  unfold feed at h
  split at h
  next =>
    split at h
    next hb => exact beq_iff_eq.mp hb
    next =>
      split at h
      next => cases h
      next => split at h <;> cases h
  next =>
    split at h
    next => cases h
    next => split at h <;> cases h
  next =>
    split at h
    next => cases h
    next =>
      split at h
      next =>
        unfold pushUnit at h
        split at h
        next => split at h <;> cases h
        next =>
          split at h
          next => cases h
          next => split at h <;> cases h
      next => cases h
  next => split at h <;> cases h
  next => split at h <;> cases h

/-! ## Texts that lead to a stage -/

namespace Stage

variable {opened : List Opened} {mode : Mode} {s t : Stage} {b : UInt8}

/-- A text up to where a value may come, apart from blanks. -/
inductive Awaiting : List Opened → List UInt8 → Prop
  | whole : Awaiting [] []
  | item {opened : List Opened} {x y z : List UInt8} {held : List Json} (h : Awaiting opened x)
    (hz : IsBlanks z) (hy : Led (Padded IsText) y held.reverse) :
    Awaiting (.array held :: opened) (x ++ z ++ octet '[' :: y)
  | member {opened : List Opened} {x y z k : List UInt8} {held : Members} {key : String}
    (h : Awaiting opened x) (hz : IsBlanks z) (hy : Led (IsMember IsText) y held.reverse)
    (hk : Padded IsString k key) :
    Awaiting (.object held key :: opened) (x ++ z ++ octet '\x7b' :: y ++ k ++ [octet ':'])

/-- A text up to where a key of an object may come, apart from blanks. -/
inductive AwaitingKey (opened : List Opened) (held : Members) : List UInt8 → Prop
  | mk {x y z : List UInt8} (h : Awaiting opened x) (hz : IsBlanks z)
    (hy : Led (IsMember IsText) y held.reverse) :
    AwaitingKey opened held (x ++ z ++ octet '\x7b' :: y)

/-- A text that can have led to a stage. -/
inductive Partial : List UInt8 → Stage → Prop
  | value {opened : List Opened} {x z : List UInt8} (h : Awaiting opened x) (hz : IsBlanks z) :
    Partial (x ++ z) ⟨opened, .value⟩
  | firstItem {opened : List Opened} {x z w : List UInt8} (h : Awaiting opened x)
    (hz : IsBlanks z) (hw : IsBlanks w) :
    Partial (x ++ z ++ octet '[' :: w) ⟨.array [] :: opened, .firstItem⟩
  | nextItem {opened : List Opened} {x z : List UInt8} (h : Awaiting opened x) (hz : IsBlanks z) :
    Partial (x ++ z) ⟨opened, .nextItem⟩
  | items {opened : List Opened} {x y z : List UInt8} {held : List Json} (h : Awaiting opened x)
    (hz : IsBlanks z) (hy : Row (Padded IsText) y held.reverse) :
    Partial (x ++ z ++ octet '[' :: y) ⟨.array held :: opened, .afterItem⟩
  | members {opened : List Opened} {x y z : List UInt8} {held : Members} {key : String}
    (h : Awaiting opened x) (hz : IsBlanks z) (hy : Row (IsMember IsText) y held.reverse) :
    Partial (x ++ z ++ octet '\x7b' :: y) ⟨.object held key :: opened, .afterMember⟩
  | firstKey {opened : List Opened} {x z w : List UInt8} {before : String}
    (h : Awaiting opened x) (hz : IsBlanks z) (hw : IsBlanks w) :
    Partial (x ++ z ++ octet '\x7b' :: w) ⟨.object [] before :: opened, .firstKey⟩
  | nextKey {opened : List Opened} {x z : List UInt8} {held : Members} {before : String}
    (h : AwaitingKey opened held x) (hz : IsBlanks z) :
    Partial (x ++ z) ⟨.object held before :: opened, .nextKey⟩
  | colon {opened : List Opened} {x k : List UInt8} {held : Members} {key : String}
    (h : AwaitingKey opened held x) (hk : Padded IsString k key) :
    Partial (x ++ k) ⟨.object held key :: opened, .colon⟩
  | literal {opened : List Opened} {x y z rest : List UInt8} {b : UInt8} {v : Json}
    (h : Awaiting opened x) (hz : IsBlanks z) (hname : (b, y ++ rest, v) ∈ names) :
    Partial (x ++ z ++ b :: y) ⟨opened, .literal rest v⟩
  | number {opened : List Opened} {x y z : List UInt8} {n : Numeral} (h : Awaiting opened x)
    (hz : IsBlanks z) (hn : Numeral.Reached y n) : Partial (x ++ z ++ y) ⟨opened, .number n⟩
  | string {opened : List Opened} {x y z : List UInt8} {q : Quotation} (h : Awaiting opened x)
    (hz : IsBlanks z) (hq : Leads Quotation.Step .empty y q) :
    Partial (x ++ z ++ octet '"' :: y) ⟨opened, .string false q⟩
  | keyString {opened : List Opened} {x y z : List UInt8} {held : Members} {before : String}
    {q : Quotation} (h : AwaitingKey opened held x) (hz : IsBlanks z)
    (hq : Leads Quotation.Step .empty y q) :
    Partial (x ++ z ++ octet '"' :: y) ⟨.object held before :: opened, .string true q⟩
  | finished {before core after : List UInt8} {v : Json} (hbefore : IsBlanks before)
    (h : IsText core v) (hafter : IsBlanks after)
    (hended : ∀ w, v = .number w → after ≠ []) :
    Partial (before ++ core ++ after) ⟨[], .finished v none⟩
  | trailing {before core rest : List UInt8} {v : Json} {p : Position} (hbefore : IsBlanks before)
    (h : IsText core v) (hrest : rest ≠ []) (hstops : Stops core v rest) :
    Partial (before ++ core ++ rest) ⟨[], .finished v (some p)⟩

theorem Partial.of_eq (h : Partial x s) (heq : x = y) : Partial y s :=
  heq ▸ h

theorem Partial.awaiting (hmode : AwaitsValue mode) (h : Partial x ⟨opened, mode⟩) :
    ∃ y z, x = y ++ z ∧ Awaiting opened y ∧ IsBlanks z := by
  rcases hmode with rfl | rfl | rfl
  · cases h with
    | value h hz => exact ⟨_, _, rfl, h, hz⟩
  · cases h with
    | firstItem h hz hw => exact ⟨_, _, by simp, .item h hz .first, hw⟩
  · cases h with
    | nextItem h hz => exact ⟨_, _, rfl, h, hz⟩

theorem Partial.awaitingKey (hmode : AwaitsKey mode) (h : Partial x ⟨opened, mode⟩) :
    ∃ rest held before y z, opened = .object held before :: rest ∧ x = y ++ z
      ∧ AwaitingKey rest held y ∧ IsBlanks z := by
  rcases hmode with rfl | rfl
  · cases h with
    | firstKey h hz hw => exact ⟨_, [], _, _, _, rfl, by simp, .mk h hz .first, hw⟩
  · cases h with
    | nextKey h hz => exact ⟨_, _, _, _, _, rfl, rfl, h, hz⟩

/-- Behind the text of a value the value has been delivered. A number that is the whole has to be
ended first. -/
theorem Awaiting.isPartial_delivered (h : Awaiting opened x) (hz : IsBlanks z) (hy : IsText y v)
    (hopen : opened = [] → ∀ w, v ≠ .number w) : Partial (x ++ z ++ y) (delivered v opened) := by
  have hpadded : Padded IsText (z ++ y) v := by
    simpa using Padded.mk hz hy isBlanks_nil
  cases h with
  | whole =>
    refine (Partial.finished hz hy isBlanks_nil fun w hw => ?_).of_eq (by simp)
    exact absurd hw (hopen rfl w)
  | item h hz' hled =>
    have hrow := hled.row hpadded
    rw [← List.reverse_cons] at hrow
    exact (Partial.items h hz' hrow).of_eq (by simp)
  | @member _ _ _ _ _ held key h hz' hled hk =>
    have hmember : IsMember IsText _ (key, v) := .mk hk hpadded
    have hrow := hled.row hmember
    rw [← List.reverse_cons] at hrow
    exact (Partial.members h hz' hrow).of_eq (by simp)

/-- Blanks behind a text are blanks between its tokens. -/
theorem Partial.blank (h : Partial x s) (hbetween : s.mode.isBetween = true)
    (hb : isBlank b = true) : Partial (x ++ [b]) s := by
  have hblanks := isBlanks_singleton hb
  cases h with
  | value h hz => exact (Partial.value h (hz.append hblanks)).of_eq (by simp)
  | firstItem h hz hw => exact (Partial.firstItem h hz (hw.append hblanks)).of_eq (by simp)
  | nextItem h hz => exact (Partial.nextItem h (hz.append hblanks)).of_eq (by simp)
  | items h hz hy =>
    exact (Partial.items h hz (hy.append fun _ _ hx => hx.append hblanks)).of_eq (by simp)
  | members h hz hy =>
    exact (Partial.members h hz (hy.append fun _ _ hx => hx.append hblanks)).of_eq (by simp)
  | firstKey h hz hw => exact (Partial.firstKey h hz (hw.append hblanks)).of_eq (by simp)
  | nextKey h hz => exact (Partial.nextKey h (hz.append hblanks)).of_eq (by simp)
  | colon h hk => exact (Partial.colon h (hk.append hblanks)).of_eq (by simp)
  | finished hbefore h hafter =>
    exact (Partial.finished hbefore h (hafter.append hblanks) fun _ _ => by simp).of_eq (by simp)
  | trailing hbefore h hrest hstops =>
    exact (Partial.trailing hbefore h (List.append_ne_nil_of_left_ne_nil hrest _)
      (Stops.append hstops hrest [b])).of_eq (by simp)
  | literal | number | string | keyString => cases hbetween

/-- What is closed is the text of an array or of an object. -/
theorem Partial.close {o : Opened} (h : Partial x ⟨o :: opened, mode⟩) (hcloses : Closes b mode) :
    Partial (x ++ [b]) (delivered o.whole opened) := by
  rcases hcloses with ⟨rfl, rfl | rfl⟩ | ⟨rfl, rfl | rfl⟩
  · cases h with
    | firstItem h hz hw =>
      exact (h.isPartial_delivered hz (.noItems hw) fun _ => nofun).of_eq (by simp)
  · cases h with
    | items h hz hy => exact (h.isPartial_delivered hz (.items hy) fun _ => nofun).of_eq (by simp)
  · cases h with
    | firstKey h hz hw =>
      exact (h.isPartial_delivered hz (.noMembers hw) fun _ => nofun).of_eq (by simp)
  · cases h with
    | members h hz hy =>
      exact (h.isPartial_delivered hz (.members hy) fun _ => nofun).of_eq (by simp)

/-- A number is ended by an octet, which is then taken itself. -/
theorem Partial.ended {n : Numeral} {w : Number} (h : Partial x ⟨opened, .number n⟩)
    (hends : n.feed b = .ok none) (hvalue : n.value? = some w)
    (heffect : Effect b (delivered (.number w) opened) t)
    (hlater : Partial x (delivered (.number w) opened) → Partial (x ++ [b]) t) :
    Partial (x ++ [b]) t := by
  cases h with
  | number h hz hn =>
    have htext : IsText _ (.number w) := .number ⟨n, hn, Numeral.isComplete_of_ends hends, hvalue⟩
    cases h with
    | item h hz' hy =>
      exact hlater ((Awaiting.item h hz' hy).isPartial_delivered hz htext nofun)
    | member h hz' hy hk =>
      exact hlater ((Awaiting.member h hz' hy hk).isPartial_delivered hz htext nofun)
    | whole =>
      -- only what stands behind a number that is the whole tells that it has ended
      replace heffect : Effect b ⟨[], .finished (.number w) none⟩ t := heffect
      cases heffect with
      | blank hb =>
        exact (Partial.finished hz htext (isBlanks_singleton hb) fun _ _ => by simp).of_eq (by simp)
      | trailing =>
        refine (Partial.trailing hz htext (List.cons_ne_nil b []) ?_).of_eq (by simp)
        rintro _ _ _ _ ⟨⟩
        exact ⟨n, hn, hends⟩
      | name hmode | sign hmode | digit hmode | quote hmode | array hmode | object hmode =>
        rcases hmode with h | h | h <;> cases h
      | quoteKey hmode => rcases hmode with h | h <;> cases h

/-- **One octet more.** What is taken makes the text one of the next stage. -/
theorem Effect.isPartial (h : Effect b s t) (hs : Partial x s) : Partial (x ++ [b]) t := by
  -- only an octet that ends a number does something more, which is what the induction is for
  induction h generalizing x with
  | blank hb hbetween => exact hs.blank hbetween hb
  | name hmode hname =>
    obtain ⟨y, z, rfl, h, hz⟩ := hs.awaiting hmode
    exact Partial.literal (y := []) h hz hname
  | @spell _ c rest v =>
    cases hs with
    | @literal _ _ y _ _ first _ h hz hname =>
      have hlonger : (first, (y ++ [b]) ++ c :: rest, v) ∈ names := by simpa using hname
      exact (Partial.literal h hz hlonger).of_eq (by simp)
  | spelled =>
    cases hs with
    | literal h hz hname =>
      -- a name is no number, so anything may follow it
      refine (h.isPartial_delivered hz (.name hname) fun _ w hw => ?_).of_eq (by simp)
      have hnamed := (of_mem_names hname).2
      rw [hw] at hnamed
      rcases hnamed with h | h | h <;> cases h
  | sign hmode hb =>
    obtain ⟨y, z, rfl, h, hz⟩ := hs.awaiting hmode
    exact .number h hz (Or.inr ⟨[], by rw [hb], .nil _⟩)
  | digit hmode hd =>
    obtain ⟨y, z, rfl, h, hz⟩ := hs.awaiting hmode
    exact .number h hz (Or.inl (.single (Numeral.step_sign false hd)))
  | longer hfeed =>
    cases hs with
    | number h hz hn => exact (Partial.number h hz (Numeral.Reached.more hn hfeed)).of_eq (by simp)
  | ended hends hvalue heffect ih => exact hs.ended hends hvalue heffect ih
  | quote hmode hb =>
    obtain ⟨y, z, rfl, h, hz⟩ := hs.awaiting hmode
    rw [hb]
    exact .string h hz (.nil _)
  | quoteKey hmode hb =>
    obtain ⟨rest, held, before, y, z, rfl, rfl, h, hz⟩ := hs.awaitingKey hmode
    rw [hb]
    exact .keyString h hz (.nil _)
  | char hfeed =>
    cases hs with
    | string h hz hq => exact (Partial.string h hz (hq.append (.single hfeed))).of_eq (by simp)
    | keyString h hz hq =>
      exact (Partial.keyString h hz (hq.append (.single hfeed))).of_eq (by simp)
  | text hfeed =>
    cases hs with
    | string h hz hq =>
      cases Quotation.eq_quote_of_closed hfeed
      have htext : IsText _ (.string _) := .string ⟨_, _, rfl, hq, hfeed⟩
      exact (h.isPartial_delivered hz htext fun _ => nofun).of_eq (by simp)
  | key hfeed =>
    cases hs with
    | keyString h hz hq =>
      cases Quotation.eq_quote_of_closed hfeed
      have hk : IsString _ _ := ⟨_, _, rfl, hq, hfeed⟩
      exact (Partial.colon h (.mk hz hk isBlanks_nil)).of_eq (by simp)
  | array hmode hb =>
    obtain ⟨y, z, rfl, h, hz⟩ := hs.awaiting hmode
    rw [hb]
    exact .firstItem h hz isBlanks_nil
  | object hmode hb =>
    obtain ⟨y, z, rfl, h, hz⟩ := hs.awaiting hmode
    rw [hb]
    exact .firstKey h hz isBlanks_nil
  | close hcloses => exact hs.close hcloses
  | nextItem hb =>
    cases hs with
    | items h hz hy =>
      rw [hb]
      exact (Partial.nextItem (.item h hz (.later hy)) isBlanks_nil).of_eq (by simp)
  | nextKey hb =>
    cases hs with
    | members h hz hy =>
      rw [hb]
      exact (Partial.nextKey (.mk h hz (.later hy)) isBlanks_nil).of_eq (by simp)
  | colon hb =>
    cases hs with
    | colon h hk =>
      obtain ⟨h, hz, hy⟩ := h
      rw [hb]
      exact (Partial.value (.member h hz hy hk) isBlanks_nil).of_eq (by simp)
  | trailing =>
    cases hs with
    | finished hbefore h hafter hended =>
      exact (Partial.trailing hbefore h (by simp)
        (h.stops_of_blanks hafter hended [b])).of_eq (by simp)
  | ignored =>
    cases hs with
    | trailing hbefore h hrest hstops =>
      exact (Partial.trailing hbefore h (List.append_ne_nil_of_left_ne_nil hrest _)
        (Stops.append hstops hrest [b])).of_eq (by simp)

/-- **A whole run.** What a reader has read is a text of the stage in which it is. -/
theorem isPartial_of_foldlM {p : Position} {r : Reader} (hnested : s.Nested)
    (hroom : s.reach ≤ Reader.maxDepth) (hs : Partial x s)
    (h : y.foldlM Reader.feed (s.at_ p) = .ok r) :
    ∃ t p', r = t.at_ p' ∧ t.Nested ∧ t.reach ≤ Reader.maxDepth ∧ Partial (x ++ y) t := by
  induction y generalizing s x p with
  | nil =>
    cases h
    exact ⟨s, p, rfl, hnested, hroom, hs.of_eq (by simp)⟩
  | cons b y ih =>
    rw [List.foldlM_cons] at h
    cases hfeed : (s.at_ p).feed b with
    | error fault =>
      rw [hfeed] at h
      cases h
    | ok next =>
      rw [hfeed] at h
      obtain ⟨t, rfl, heffect⟩ := effect_of_feed hnested hfeed
      have hreach : t.reach ≤ Reader.maxDepth := by
        rcases heffect.reach hnested with hsame | ⟨hopen, hmore⟩ <;> omega
      obtain ⟨u, p', hr, hu⟩ := ih (heffect.nested hnested) hreach (heffect.isPartial hs) h
      rw [List.append_assoc] at hu
      exact ⟨u, p', hr, hu⟩

/-- Where a text ends with a value, it is whole, or something stands behind it. -/
theorem Partial.of_finish {p : Position} {trailing : Option Position} (hnested : s.Nested)
    (hroom : s.reach ≤ Reader.maxDepth) (hs : Partial x s)
    (h : (s.at_ p).finish = .ok ⟨v, trailing⟩) :
    Begins x v ∧ (trailing = none → IsWholeText x v) := by
  obtain ⟨opened, mode⟩ := s
  cases mode with
  | finished w behind =>
    cases h
    cases hs with
    | finished hbefore h hafter hended =>
      refine ⟨⟨_, _, _, rfl, hbefore, h, hroom, ?_⟩, fun _ => ⟨.mk hbefore h hafter, hroom⟩⟩
      simpa using h.stops_of_blanks hafter hended []
    | trailing hbefore h _ hstops =>
      exact ⟨⟨_, _, _, rfl, hbefore, h, hroom, hstops⟩, fun hnone => by cases hnone⟩
  | number n =>
    have hcomplete : n.isComplete = true :=
      Decidable.byContradiction fun hopen => by simp [Reader.finish, at_, hopen] at h
    cases hvalue : n.value? with
    | none => simp [Reader.finish, at_, hcomplete, hvalue] at h
    | some w =>
      rw [(stands_number hcomplete hvalue).finish] at h
      cases hs with
      | number hawaiting hz hn =>
        cases hawaiting with
        | whole =>
          cases h
          have htext : IsText _ (.number w) := .number ⟨n, hn, hcomplete, hvalue⟩
          refine ⟨⟨_, _, [], (List.append_nil _).symm, hz, htext, Nat.zero_le _, stops_nil⟩,
            fun _ => ⟨?_, Nat.zero_le _⟩⟩
          simpa using Padded.mk hz htext isBlanks_nil
        | item | member => cases h
  | _ => cases h

end Stage

theorem begins_of_read {trailing : Option Position} (h : read x = .ok ⟨v, trailing⟩) :
    Begins x v ∧ (trailing = none → IsWholeText x v) := by
  unfold read at h
  cases hfold : x.foldlM Reader.feed Reader.start with
  | error fault =>
    rw [hfold] at h
    cases h
  | ok r =>
    rw [hfold] at h
    have hstart : Stage.Partial [] ⟨[], .value⟩ := .value .whole isBlanks_nil
    obtain ⟨t, p, rfl, hnested, hroom, ht⟩ :=
      Stage.isPartial_of_foldlM (s := ⟨[], .value⟩) trivial (Nat.zero_le _) hstart hfold
    exact ht.of_finish hnested hroom h

/-- **Whole texts** are what is read with nothing left. -/
theorem read_eq_ok_iff : read x = .ok ⟨v, none⟩ ↔ IsWholeText x v :=
  ⟨fun h => (begins_of_read h).2 rfl, read_of_isWholeText⟩

/-- **Texts that begin with a value** are what is read at all. -/
theorem exists_read_iff : (∃ trailing, read x = .ok ⟨v, trailing⟩) ↔ Begins x v :=
  ⟨fun ⟨_, h⟩ => (begins_of_read h).1, read_of_begins⟩

end ActivityFeed.Json
