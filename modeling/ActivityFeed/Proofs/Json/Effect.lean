import ActivityFeed.Proofs.Json.RoundTrip

/-!
# What an octet does to the reader

`Effect` says once what one octet can do to a reader, with one constructor for each thing, wherever
in the text it stands. The reader does nothing else (`effect_of_feed`), and an effect that is
possible comes about (`Effect.step`). What has to be proved of all texts that can be read, and not
of those only that were written in some way, is proved by induction on the octets that are left
(`Reads.cons`), by cases of the effect, and never from `Reader.feed`.
-/

namespace ActivityFeed.Json

/-! ## The stack and the mode -/

/-- The array or object that is complete when it is closed. -/
def Opened.whole : Opened → Json
  | .array items => .array items.reverse
  | .object members _ => .object members.reverse

/-- An object waits for the member of another key. -/
def Opened.named (key : String) : Opened → Opened
  | .array items => .array items
  | .object members _ => .object members key

/-- Whether the next octet stands between tokens. -/
def Mode.isBetween : Mode → Bool
  | .literal .. | .number _ | .string .. => false
  | _ => true

namespace Stage

/-- The names that stand for values, by their first octets. -/
def names : List (UInt8 × List UInt8 × Json) :=
  [(octet 'n', [octet 'u', octet 'l', octet 'l'], .null),
    (octet 't', [octet 'r', octet 'u', octet 'e'], .bool true),
    (octet 'f', [octet 'a', octet 'l', octet 's', octet 'e'], .bool false)]

/-- A value that a name stands for. -/
def IsNamed (v : Json) : Prop :=
  v = .null ∨ v = .bool true ∨ v = .bool false

/-- An array or object is open where the mode speaks of one, and none is after the whole; of a name
that is being read there is something left. -/
def Nested (s : Stage) : Prop :=
  match s.mode with
  | .value | .number _ | .string false _ => True
  | .literal rest v => rest ≠ [] ∧ IsNamed v
  | .finished .. => s.opened = []
  | _ => s.opened ≠ []

/-- An octet closes the array or object in which the reader is. -/
def Closes (b : UInt8) (mode : Mode) : Prop :=
  b = octet ']' ∧ (mode = .firstItem ∨ mode = .afterItem)
    ∨ b = octet '\x7d' ∧ (mode = .firstKey ∨ mode = .afterMember)

/-- What one octet can do. -/
inductive Effect (b : UInt8) : Stage → Stage → Prop
  | blank {s : Stage} (hblank : isBlank b = true) (h : s.mode.isBetween = true) : Effect b s s
  /-- A name begins. -/
  | name {opened : List Opened} {mode : Mode} {rest : List UInt8} {v : Json}
    (hmode : AwaitsValue mode) (h : (b, rest, v) ∈ names) :
    Effect b ⟨opened, mode⟩ ⟨opened, .literal rest v⟩
  | spell {opened : List Opened} {c : UInt8} {rest : List UInt8} {v : Json} :
    Effect b ⟨opened, .literal (b :: c :: rest) v⟩ ⟨opened, .literal (c :: rest) v⟩
  | spelled {opened : List Opened} {v : Json} :
    Effect b ⟨opened, .literal [b] v⟩ (delivered v opened)
  | sign {opened : List Opened} {mode : Mode} (hmode : AwaitsValue mode) (hb : b = octet '-') :
    Effect b ⟨opened, mode⟩ ⟨opened, .number (.empty true)⟩
  | digit {opened : List Opened} {mode : Mode} {d : Nat} (hmode : AwaitsValue mode)
    (h : digitOf? b = some d) : Effect b ⟨opened, mode⟩ ⟨opened, .number (.ofDigits false d)⟩
  | longer {opened : List Opened} {n n' : Numeral} (h : n.feed b = .ok (some n')) :
    Effect b ⟨opened, .number n⟩ ⟨opened, .number n'⟩
  /-- A number ended before the octet, which then has its effect. -/
  | ended {opened : List Opened} {n : Numeral} {v : Number} {t : Stage} (h : n.feed b = .ok none)
    (hvalue : n.value? = some v) (heffect : Effect b (delivered (.number v) opened) t) :
    Effect b ⟨opened, .number n⟩ t
  | quote {opened : List Opened} {mode : Mode} (hmode : AwaitsValue mode) (hb : b = octet '"') :
    Effect b ⟨opened, mode⟩ ⟨opened, .string false .empty⟩
  | quoteKey {opened : List Opened} {mode : Mode} (hmode : AwaitsKey mode) (hb : b = octet '"') :
    Effect b ⟨opened, mode⟩ ⟨opened, .string true .empty⟩
  | char {opened : List Opened} {isKey : Bool} {q q' : Quotation} (h : q.feed b = .more q') :
    Effect b ⟨opened, .string isKey q⟩ ⟨opened, .string isKey q'⟩
  | text {opened : List Opened} {q : Quotation} {s : String} (h : q.feed b = .closed s) :
    Effect b ⟨opened, .string false q⟩ (delivered (.string s) opened)
  | key {o : Opened} {opened : List Opened} {q : Quotation} {s : String}
    (h : q.feed b = .closed s) :
    Effect b ⟨o :: opened, .string true q⟩ ⟨o.named s :: opened, .colon⟩
  | array {opened : List Opened} {mode : Mode} (hmode : AwaitsValue mode) (hb : b = octet '[')
    (hroom : opened.length < Reader.maxDepth) :
    Effect b ⟨opened, mode⟩ ⟨.array [] :: opened, .firstItem⟩
  | object {opened : List Opened} {mode : Mode} (hmode : AwaitsValue mode) (hb : b = octet '\x7b')
    (hroom : opened.length < Reader.maxDepth) :
    Effect b ⟨opened, mode⟩ ⟨.object [] "" :: opened, .firstKey⟩
  | close {o : Opened} {opened : List Opened} {mode : Mode} (h : Closes b mode) :
    Effect b ⟨o :: opened, mode⟩ (delivered o.whole opened)
  | nextItem {opened : List Opened} (hb : b = octet ',') :
    Effect b ⟨opened, .afterItem⟩ ⟨opened, .nextItem⟩
  | nextKey {opened : List Opened} (hb : b = octet ',') :
    Effect b ⟨opened, .afterMember⟩ ⟨opened, .nextKey⟩
  | colon {opened : List Opened} (hb : b = octet ':') :
    Effect b ⟨opened, .colon⟩ ⟨opened, .value⟩
  /-- Something stands behind the whole. -/
  | trailing {opened : List Opened} {v : Json} {p : Position} :
    Effect b ⟨opened, .finished v none⟩ ⟨opened, .finished v (some p)⟩
  | ignored {opened : List Opened} {v : Json} {p : Position} :
    Effect b ⟨opened, .finished v (some p)⟩ ⟨opened, .finished v (some p)⟩

variable {s t : Stage} {b : UInt8} {opened : List Opened} {mode : Mode} {p : Position}
  {r : Reader}

theorem isBetween_delivered (v : Json) (opened : List Opened) :
    (delivered v opened).mode.isBetween = true := by
  rcases opened with _ | ⟨_ | _, rest⟩ <;> rfl

theorem of_mem_names {b : UInt8} {rest : List UInt8} {v : Json} (h : (b, rest, v) ∈ names) :
    rest ≠ [] ∧ IsNamed v := by
  simp only [names, List.mem_cons, Prod.mk.injEq, List.not_mem_nil, or_false] at h
  rcases h with ⟨-, rfl, rfl⟩ | ⟨-, rfl, rfl⟩ | ⟨-, rfl, rfl⟩ <;> simp [IsNamed]

theorem nested_delivered (v : Json) (opened : List Opened) : (delivered v opened).Nested := by
  rcases opened with _ | ⟨_ | _, rest⟩
  · rfl
  · exact List.cons_ne_nil _ _
  · exact List.cons_ne_nil _ _

theorem close_eq (p : Position) (o : Opened) (opened : List Opened) (mode : Mode) :
    Reader.close ⟨p, o :: opened, mode⟩ = (delivered o.whole opened).at_ p := by
  cases o <;> exact deliver_eq p opened mode _

theorem nameMember_eq (p : Position) (o : Opened) (opened : List Opened) (mode : Mode)
    (key : String) :
    Reader.nameMember ⟨p, o :: opened, mode⟩ key = at_ ⟨o.named key :: opened, .colon⟩ p := by
  cases o <;> rfl

/-- Between tokens an octet is looked at by itself. -/
theorem feed_of_isBetween (h : s.mode.isBetween = true) (p : Position) (b : UInt8) :
    (s.at_ p).feed b
      = ((s.at_ (p.after b)).feedBetween b).mapError fun reason => ⟨reason, p.after b⟩ := by
  obtain ⟨opened, mode⟩ := s
  cases mode with
  | literal | number | string => cases h
  | _ => rfl

/-! ## The reader has no other effects -/

theorem effect_of_startValue (hmode : AwaitsValue mode)
    (h : Reader.startValue ⟨p, opened, mode⟩ b = .ok r) :
    ∃ t, r = t.at_ p ∧ Effect b ⟨opened, mode⟩ t := by
  -- the splits are in the order in which the reader asks: names, sign, quote, brackets, digits
  unfold Reader.startValue at h
  split at h
  next hb =>
    cases h
    exact ⟨_, rfl, .name hmode (by simp [names, beq_iff_eq.mp hb])⟩
  next =>
  split at h
  next hb =>
    cases h
    exact ⟨_, rfl, .name hmode (by simp [names, beq_iff_eq.mp hb])⟩
  next =>
  split at h
  next hb =>
    cases h
    exact ⟨_, rfl, .name hmode (by simp [names, beq_iff_eq.mp hb])⟩
  next =>
  split at h
  next hb =>
    cases h
    exact ⟨_, rfl, .sign hmode (beq_iff_eq.mp hb)⟩
  next =>
  split at h
  next hb =>
    cases h
    exact ⟨_, rfl, .quote hmode (beq_iff_eq.mp hb)⟩
  next =>
  have hopens : ∀ {o : Opened} {mode' : Mode},
      Reader.open? ⟨p, opened, mode⟩ o mode' = .ok r →
      opened.length < Reader.maxDepth ∧ r = at_ ⟨o :: opened, mode'⟩ p := by
    intro o mode' hopen
    unfold Reader.open? at hopen
    split at hopen
    next hroom =>
      cases hopen
      exact ⟨hroom, rfl⟩
    next => cases hopen
  split at h
  next hb =>
    obtain ⟨hroom, rfl⟩ := hopens h
    exact ⟨_, rfl, .array hmode (beq_iff_eq.mp hb) hroom⟩
  next =>
  split at h
  next hb =>
    obtain ⟨hroom, rfl⟩ := hopens h
    exact ⟨_, rfl, .object hmode (beq_iff_eq.mp hb) hroom⟩
  next =>
  split at h
  next hd =>
    cases h
    exact ⟨_, rfl, .digit hmode hd⟩
  next d hne hd =>
    cases h
    refine ⟨⟨opened, .number (.ofDigits false d)⟩, ?_, .digit hmode hd⟩
    simp only [Numeral.ofDigits, if_neg hne]
    rfl
  next => cases h

/-- The octet that closes an array is not the first one of a value. -/
theorem ne_bracket_of_startValue (h : Reader.startValue ⟨p, opened, mode⟩ b = .ok r) :
    b ≠ octet ']' := by
  rintro rfl
  cases h

theorem effect_of_feedBetween (hnested : s.Nested) (hbetween : s.mode.isBetween = true)
    (h : (s.at_ p).feedBetween b = .ok r) : ∃ t, r = t.at_ p ∧ Effect b s t := by
  obtain ⟨opened, mode⟩ := s
  unfold Reader.feedBetween at h
  split at h
  next hblank =>
    cases h
    exact ⟨_, rfl, .blank hblank hbetween⟩
  next =>
  -- what closes finds something open
  have hclose : opened ≠ [] → Closes b mode → (at_ ⟨opened, mode⟩ p).close = r →
      ∃ t, r = t.at_ p ∧ Effect b ⟨opened, mode⟩ t := by
    rintro hopen hcloses rfl
    obtain ⟨o, rest, rfl⟩ := List.exists_cons_of_ne_nil hopen
    exact ⟨_, close_eq p o rest mode, .close hcloses⟩
  cases mode with
  | literal | number | string => cases hbetween
  | value => exact effect_of_startValue (Or.inl rfl) h
  | firstItem =>
    dsimp only [at_] at h
    split at h
    next hb =>
      exact hclose hnested (Or.inl ⟨beq_iff_eq.mp hb, Or.inl rfl⟩) (Except.ok.inj h)
    next => exact effect_of_startValue (Or.inr (Or.inl rfl)) h
  | afterItem =>
    dsimp only [at_] at h
    split at h
    next hb =>
      exact hclose hnested (Or.inl ⟨beq_iff_eq.mp hb, Or.inr rfl⟩) (Except.ok.inj h)
    next =>
      split at h
      next hb =>
        cases h
        exact ⟨_, rfl, .nextItem (beq_iff_eq.mp hb)⟩
      next => cases h
  | nextItem =>
    dsimp only [at_] at h
    split at h
    next => cases h
    next => exact effect_of_startValue (Or.inr (Or.inr rfl)) h
  | firstKey =>
    dsimp only [at_] at h
    split at h
    next hb =>
      exact hclose hnested (Or.inr ⟨beq_iff_eq.mp hb, Or.inl rfl⟩) (Except.ok.inj h)
    next =>
      split at h
      next hb =>
        cases h
        exact ⟨_, rfl, .quoteKey (Or.inl rfl) (beq_iff_eq.mp hb)⟩
      next => cases h
  | afterMember =>
    dsimp only [at_] at h
    split at h
    next hb =>
      exact hclose hnested (Or.inr ⟨beq_iff_eq.mp hb, Or.inr rfl⟩) (Except.ok.inj h)
    next =>
      split at h
      next hb =>
        cases h
        exact ⟨_, rfl, .nextKey (beq_iff_eq.mp hb)⟩
      next => cases h
  | nextKey =>
    dsimp only [at_] at h
    split at h
    next hb =>
      cases h
      exact ⟨_, rfl, .quoteKey (Or.inr rfl) (beq_iff_eq.mp hb)⟩
    next => split at h <;> cases h
  | colon =>
    dsimp only [at_] at h
    split at h
    next hb =>
      cases h
      exact ⟨_, rfl, .colon (beq_iff_eq.mp hb)⟩
    next => cases h
  | finished v trailing =>
    cases trailing with
    | none =>
      cases h
      exact ⟨⟨opened, .finished v (some p)⟩, rfl, .trailing⟩
    | some q =>
      cases h
      exact ⟨_, rfl, .ignored⟩

theorem eq_ok_of_mapError {α ε ε' : Type} {x : Except ε α} {f : ε → ε'} {a : α}
    (h : x.mapError f = .ok a) : x = .ok a := by
  cases x with
  | error => cases h
  | ok => exact congrArg _ (Except.ok.inj h)

/-- **The reader does nothing else.** -/
theorem effect_of_feed (hnested : s.Nested) (h : (s.at_ p).feed b = .ok r) :
    ∃ t, r = t.at_ (p.after b) ∧ Effect b s t := by
  by_cases hbetween : s.mode.isBetween = true
  · rw [feed_of_isBetween hbetween] at h
    exact effect_of_feedBetween hnested hbetween (eq_ok_of_mapError h)
  · obtain ⟨opened, mode⟩ := s
    cases mode with
    | literal rest v =>
      obtain ⟨c, rest, rfl⟩ := List.exists_cons_of_ne_nil hnested.1
      unfold Reader.feed at h
      dsimp only [at_] at h
      split at h
      next => cases h
      next hc =>
        have hsame : b = c := by simpa using hc
        subst hsame
        cases rest with
        | nil =>
          cases h
          exact ⟨_, deliver_eq _ opened _ v, .spelled⟩
        | cons c rest =>
          cases h
          exact ⟨_, rfl, .spell⟩
    | number n =>
      cases hends : n.feed b with
      | error reason =>
        simp only [Reader.feed, at_, hends] at h
        cases h
      | ok longer =>
        cases longer with
        | some n' =>
          simp only [Reader.feed, at_, hends] at h
          cases h
          exact ⟨⟨opened, .number n'⟩, rfl, .longer hends⟩
        | none =>
          cases hvalue : n.value? with
          | none =>
            simp only [Reader.feed, at_, hends, hvalue] at h
            cases h
          | some v =>
            rw [feed_of_ended hends hvalue, feed_of_isBetween (isBetween_delivered _ _)] at h
            obtain ⟨t, hr, heffect⟩ := effect_of_feedBetween (nested_delivered _ _)
              (isBetween_delivered _ _) (eq_ok_of_mapError h)
            exact ⟨t, hr, .ended hends hvalue heffect⟩
    | string isKey q =>
      cases hfeed : q.feed b with
      | more q' =>
        simp only [Reader.feed, at_, hfeed] at h
        cases h
        exact ⟨⟨opened, .string isKey q'⟩, rfl, .char hfeed⟩
      | closed text =>
        simp only [Reader.feed, at_, hfeed] at h
        cases isKey with
        | false =>
          cases h
          exact ⟨_, deliver_eq _ opened _ _, .text hfeed⟩
        | true =>
          obtain ⟨o, rest, rfl⟩ := List.exists_cons_of_ne_nil hnested
          cases h
          exact ⟨_, nameMember_eq _ o rest _ text, .key hfeed⟩
      | fault | malformed =>
        simp only [Reader.feed, at_, hfeed] at h
        cases h
    | _ => exact absurd rfl hbetween

theorem Effect.nested (h : Effect b s t) (hnested : s.Nested) : t.Nested := by
  induction h with
  | blank | longer | ignored | trailing | nextItem | nextKey => exact hnested
  | @char _ isKey => cases isKey <;> exact hnested
  | spelled | text | close => exact nested_delivered _ _
  | ended _ _ _ ih => exact ih (nested_delivered _ _)
  | key | array | object => exact List.cons_ne_nil _ _
  | spell => exact ⟨List.cons_ne_nil _ _, hnested.2⟩
  | sign | digit | quote | colon => exact trivial
  | name _ h => exact of_mem_names h
  | quoteKey hmode => rcases hmode with rfl | rfl <;> exact hnested

/-! ## Each effect is one of the reader -/

/-- An effect that is possible comes about, wherever the reader stands. Only the place of what
stands behind the whole depends on that. -/
theorem Effect.step (h : Effect b s t) (hquiet : ∀ v p, t.mode ≠ .finished v (some p)) :
    Step s b t := by
  induction h with
  | blank hblank h =>
    intro p
    rw [feed_of_isBetween h, Reader.feedBetween, if_pos hblank]
    rfl
  | name hmode h =>
    simp only [names, List.mem_cons, Prod.mk.injEq, List.not_mem_nil, or_false] at h
    rcases h with ⟨rfl, rfl, rfl⟩ | ⟨rfl, rfl, rfl⟩ | ⟨rfl, rfl, rfl⟩ <;>
      exact step_start hmode rfl (by decide) fun _ => rfl
  | spell =>
    intro p
    simp [Reader.feed, at_]
  | spelled =>
    intro p
    simp [Reader.feed, at_, deliver_eq]
  | sign hmode hb =>
    subst hb
    exact step_start hmode rfl (by decide) fun _ => rfl
  | digit hmode h => exact step_digit hmode h
  | longer h => exact step_numeral h
  | ended h hvalue _ ih =>
    intro p
    rw [feed_of_ended h hvalue]
    exact ih hquiet p
  | quote hmode hb =>
    subst hb
    exact step_start hmode rfl (by decide) fun _ => rfl
  | quoteKey hmode hb =>
    intro p
    subst hb
    rcases hmode with rfl | rfl <;> rfl
  | char h => exact step_quotation h
  | text h =>
    intro p
    simp only [at_, Reader.feed, h, Bool.false_eq_true, if_false, deliver_eq]
  | key h =>
    intro p
    simp only [at_, Reader.feed, h, if_true, nameMember_eq]
  | array hmode hb hroom =>
    subst hb
    exact (step_open hmode hroom).1
  | object hmode hb hroom =>
    subst hb
    exact (step_open hmode hroom).2
  | @close o opened mode h =>
    intro p
    rcases h with ⟨rfl, rfl | rfl⟩ | ⟨rfl, rfl | rfl⟩ <;>
      exact congrArg Except.ok (close_eq _ o opened _)
  | nextItem hb | nextKey hb | colon hb =>
    subst hb
    exact fun _ => rfl
  | trailing | ignored => exact absurd rfl (hquiet _ _)

/-! ## Readings -/

/-- A reader at some place reads all that is left of a text, and a value comes of it. -/
def Reads (s : Stage) (x : List UInt8) (v : Json) : Prop :=
  ∃ p r, x.foldlM Reader.feed (s.at_ p) = .ok r ∧ r.finish = .ok ⟨v, none⟩

variable {x : List UInt8} {v : Json}

theorem reads_of_read (h : read x = .ok ⟨v, none⟩) : Reads ⟨[], .value⟩ x v := by
  unfold read at h
  cases hfold : x.foldlM Reader.feed Reader.start with
  | error fault =>
    rw [hfold] at h
    cases h
  | ok r =>
    rw [hfold] at h
    exact ⟨.start, r, hfold, h⟩

/-- At the end of a text the value has been delivered, or it is a number that may end there. -/
theorem Reads.nil (h : Reads s [] v) (hnested : s.Nested) :
    s = ⟨[], .finished v none⟩ ∨ ∃ n w, s = ⟨[], .number n⟩ ∧ n.isComplete = true
      ∧ n.value? = some w ∧ v = .number w := by
  obtain ⟨p, r, hfold, hfinish⟩ := h
  cases hfold
  obtain ⟨opened, mode⟩ := s
  cases mode with
  | finished w trailing =>
    cases hfinish
    exact Or.inl (congrArg (Stage.mk · _) hnested)
  | number n =>
    by_cases hcomplete : n.isComplete = true
    · cases hvalue : n.value? with
      | none => simp [Reader.finish, at_, hcomplete, hvalue] at hfinish
      | some w =>
        rw [(stands_number hcomplete hvalue).finish] at hfinish
        rcases opened with _ | ⟨_ | _, rest⟩
        · cases hfinish
          exact Or.inr ⟨n, w, rfl, hcomplete, hvalue, rfl⟩
        · cases hfinish
        · cases hfinish
    · simp [Reader.finish, at_, hcomplete] at hfinish
  | _ => cases hfinish

/-- An octet of a text has its effect, and the rest is read after that. -/
theorem Reads.cons (h : Reads s (b :: x) v) (hnested : s.Nested) :
    ∃ t, Effect b s t ∧ t.Nested ∧ Reads t x v := by
  obtain ⟨p, r, hfold, hfinish⟩ := h
  rw [List.foldlM_cons] at hfold
  cases hfeed : (s.at_ p).feed b with
  | error fault =>
    rw [hfeed] at hfold
    cases hfold
  | ok next =>
    rw [hfeed] at hfold
    obtain ⟨t, rfl, heffect⟩ := effect_of_feed hnested hfeed
    exact ⟨t, heffect, heffect.nested hnested, _, r, hfold, hfinish⟩

/-- What stands behind the whole is not forgotten. -/
theorem not_reads_of_trailing {w : Json} : ¬Reads ⟨opened, .finished w (some p)⟩ x v := by
  rintro ⟨q, r, hfold, hfinish⟩
  induction x generalizing q with
  | nil =>
    cases hfold
    cases hfinish
  | cons b x ih =>
    have hstay : (at_ ⟨opened, .finished w (some p)⟩ q).feed b
        = .ok (at_ ⟨opened, .finished w (some p)⟩ (q.after b)) := by
      rw [feed_of_isBetween rfl, Reader.feedBetween]
      split <;> rfl
    rw [List.foldlM_cons, hstay] at hfold
    exact ih _ hfold

theorem Reads.ne_trailing (h : Reads s x v) : ∀ w p, s.mode ≠ .finished w (some p) := by
  intro w p hmode
  obtain ⟨opened, mode⟩ := s
  subst hmode
  exact not_reads_of_trailing h

end Stage

end ActivityFeed.Json
