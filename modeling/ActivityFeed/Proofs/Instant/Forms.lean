import ActivityFeed.Proofs.Instant.Accepted

/-!
# No text has two forms

Timestamps are read in the strict form, in the loose form with a `T`, and in the loose form with
white space, and the first reading that succeeds counts. It could be any of them, since no text has
two of the forms.

A field of a fixed width is read in the loose way as well, with the same number and the same rest
(`Extends`). So a text in the strict form is read by a loose form up to the end of its fraction,
where the strict one goes on with an offset and the loose one has to stop (`loose?_eq_none`). The
two loose forms part between date and time.

Main results: `pairwise_forms` and `findSome?_of_perm`.
-/

namespace ActivityFeed.Instant

/-! ## Fields that both ways of reading take alike -/

/-- What the one reader reads, the other one reads in the same way. -/
def Extends {α : Type} (f g : Front α) : Prop :=
  ∀ {cs : List Char} {x : α × List Char}, f cs = some x → g cs = some x

/-- A year of exactly four digits. -/
def fixedYear : Front Int := fun cs =>
  (fixed 4 cs).map fun (n, rest) => ((n : Int), rest)

/-- A date, with readers for its year and for its other fields. -/
def readDate (year : Front Int) (field : Front Nat) : Front Date := fun cs => do
  let (year, cs) ← year cs
  let cs ← after? '-' cs
  let (month, cs) ← field cs
  let cs ← after? '-' cs
  let (day, cs) ← field cs
  some (⟨year, month, day⟩, cs)

/-- The time of a day with its fraction, with a reader for its fields. -/
def readClock (field : Front Nat) (date : Date) : Front Civil := fun cs => do
  let (hour, cs) ← field cs
  let cs ← after? ':' cs
  let (minute, cs) ← field cs
  let cs ← after? ':' cs
  let (second, cs) ← field cs
  let (nanos, cs) ← fraction cs
  some (⟨date, hour, minute, second, nanos⟩, cs)

theorem isSpace_of_digit? {c : Char} {d : Nat} (h : Text.digit? c = some d) :
    Text.isSpace c = false := by
  unfold Text.digit? at h
  split at h
  next hdigit => exact Text.isSpace_of_isDigit hdigit
  next => cases h

/-- A field of a fixed width starts with a digit. -/
theorem head_of_fixed {width n : Nat} (hwidth : 0 < width) {cs rest : List Char}
    (h : fixed width cs = some (n, rest)) :
    ∃ c cs' d, cs = c :: cs' ∧ Text.digit? c = some d := by
  obtain ⟨most, rfl⟩ := Nat.exists_eq_succ_of_ne_zero (Nat.ne_of_gt hwidth)
  have hlength : (spanDigits (most + 1) cs).1.length = most + 1 := by
    unfold fixed at h
    dsimp only at h
    split at h
    · assumption
    · cases h
  cases cs with
  | nil => cases hlength
  | cons c cs' =>
    cases hc : Text.digit? c with
    | none =>
      rw [spanDigits, hc] at hlength
      cases hlength
    | some d => exact ⟨c, cs', d, rfl, hc⟩

theorem extends_loose {width : Nat} (hwidth : 0 < width) : Extends (fixed width) (loose width) := by
  intro cs x h
  obtain ⟨c, cs', d, rfl, hc⟩ := head_of_fixed hwidth (show fixed width cs = some (x.1, x.2) from h)
  have htrim : Text.trimStart (c :: cs') = c :: cs' :=
    Text.trimStart_eq_self (by simpa using isSpace_of_digit? hc)
  unfold fixed at h
  unfold loose
  rw [htrim]
  dsimp only at h ⊢
  split at h
  next hlength =>
    have hsome : (spanDigits width (c :: cs')).1.isEmpty = false := by
      rw [List.isEmpty_eq_false_iff, ← List.length_pos_iff, hlength]
      exact hwidth
    rw [hsome, if_neg Bool.false_ne_true]
    exact h
  next => cases h

theorem extends_looseYear : Extends fixedYear looseYear := by
  intro cs x h
  obtain ⟨⟨n, rest⟩, hfixed, rfl⟩ := Option.map_eq_some_iff.mp h
  obtain ⟨c, cs', d, rfl, hc⟩ := head_of_fixed (by decide) hfixed
  have htrim : Text.trimStart (c :: cs') = c :: cs' :=
    Text.trimStart_eq_self (by simpa using isSpace_of_digit? hc)
  have hloose := extends_loose (by decide) hfixed
  unfold looseYear
  dsimp only
  rw [htrim]
  -- a digit is no sign
  split
  next heq =>
    cases heq
    cases hc
  next heq =>
    cases heq
    cases hc
  next => rw [hloose, Option.map_some]

theorem Extends.readDate {year year' : Front Int} {field field' : Front Nat}
    (hyear : Extends year year') (hfield : Extends field field') :
    Extends (readDate year field) (readDate year' field') := by
  intro cs x h
  obtain ⟨_, h1, h⟩ := exists_of_bind h
  obtain ⟨_, h2, h⟩ := exists_of_bind h
  obtain ⟨_, h3, h⟩ := exists_of_bind h
  obtain ⟨_, h4, h⟩ := exists_of_bind h
  obtain ⟨_, h5, h⟩ := exists_of_bind h
  simpa only [Instant.readDate, hyear h1, h2, hfield h3, h4, hfield h5, Option.bind_eq_bind,
    Option.bind_some] using h

theorem Extends.readClock {field field' : Front Nat} (hfield : Extends field field') (date : Date) :
    Extends (readClock field date) (readClock field' date) := by
  intro cs x h
  obtain ⟨_, h1, h⟩ := exists_of_bind h
  obtain ⟨_, h2, h⟩ := exists_of_bind h
  obtain ⟨_, h3, h⟩ := exists_of_bind h
  obtain ⟨_, h4, h⟩ := exists_of_bind h
  obtain ⟨_, h5, h⟩ := exists_of_bind h
  obtain ⟨_, h6, h⟩ := exists_of_bind h
  simpa only [Instant.readClock, hfield h1, h2, hfield h3, h4, hfield h5, h6, Option.bind_eq_bind,
    Option.bind_some] using h

theorem after?_eq_some_iff {c : Char} {cs rest : List Char} :
    after? c cs = some rest ↔ cs = c :: rest := by
  cases cs with
  | nil => simp [after?]
  | cons d cs => simp [after?]

/-! ## The forms by their parts -/

/-- What follows a reading step by step follows its last step. -/
theorem bind_of_bind {α β γ : Type} {x : Option α} {f : α → Option β} {k : β → Option γ}
    {g : α → Option γ} (h : ∀ a, (f a).bind k = g a) : (x.bind f).bind k = x.bind g := by
  rw [Option.bind_assoc]
  exact congrArg _ (funext h)

theorem bind_readDate {β : Type} (year : Front Int) (field : Front Nat) (cs : List Char)
    (k : Date × List Char → Option β) :
    (readDate year field cs).bind k = (do
      let (year, cs) ← year cs
      let cs ← after? '-' cs
      let (month, cs) ← field cs
      let cs ← after? '-' cs
      let (day, cs) ← field cs
      k (⟨year, month, day⟩, cs)) := by
  unfold readDate
  exact bind_of_bind fun _ => bind_of_bind fun _ => bind_of_bind fun _ => bind_of_bind fun _ =>
    bind_of_bind fun _ => rfl

theorem bind_readClock {β : Type} (field : Front Nat) (date : Date) (cs : List Char)
    (k : Civil × List Char → Option β) :
    (readClock field date cs).bind k = (do
      let (hour, cs) ← field cs
      let cs ← after? ':' cs
      let (minute, cs) ← field cs
      let cs ← after? ':' cs
      let (second, cs) ← field cs
      let (nanos, cs) ← fraction cs
      k (⟨date, hour, minute, second, nanos⟩, cs)) := by
  unfold readClock
  exact bind_of_bind fun _ => bind_of_bind fun _ => bind_of_bind fun _ => bind_of_bind fun _ =>
    bind_of_bind fun _ => bind_of_bind fun _ => rfl

theorem strict?_eq (cs : List Char) :
    strict? cs = (do
      let (date, cs) ← readDate fixedYear (fixed 2) cs
      let cs ← (after? 'T' cs).orElse fun _ => (after? 't' cs).orElse fun _ => after? ' ' cs
      let (civil, cs) ← readClock (fixed 2) date cs
      let (shift, cs) ← offset cs
      if cs.isEmpty && civil.isValid then
        some { civil.toInstant with seconds := civil.toInstant.seconds - shift }
      else none) := by
  refine Eq.symm ((bind_readDate ..).trans ((Option.bind_map ..).trans ?_))
  exact bind_congr fun _ => bind_congr fun _ => bind_congr fun _ => bind_congr fun _ =>
    bind_congr fun _ => bind_congr fun _ => bind_readClock ..

theorem loose?_eq (separator : List Char → Option (List Char)) (cs : List Char) :
    loose? separator cs = (do
      let (date, cs) ← readDate looseYear (loose 2) cs
      let cs ← separator cs
      let (civil, cs) ← readClock (loose 2) date cs
      if cs.isEmpty && civil.isValid then some civil.toInstant else none) := by
  refine Eq.symm ((bind_readDate ..).trans ?_)
  exact bind_congr fun _ => bind_congr fun _ => bind_congr fun _ => bind_congr fun _ =>
    bind_congr fun _ => bind_congr fun _ => bind_readClock ..

/-- What stands between date and time in the strict form. -/
def IsSeparator (c : Char) : Prop :=
  c = 'T' ∨ c = 't' ∨ c = ' '

/-- What a text in the strict form is: behind its clock there is an offset, and no more. -/
theorem exists_parts_of_strict? {cs : List Char} {t : Instant} (h : strict? cs = some t) :
    ∃ date separator rest civil tail shift, IsSeparator separator
      ∧ readDate fixedYear (fixed 2) cs = some (date, separator :: rest)
      ∧ readClock (fixed 2) date rest = some (civil, tail) ∧ offset tail = some (shift, []) := by
  rw [strict?_eq] at h
  obtain ⟨⟨date, middle⟩, hdate, h⟩ := exists_of_bind h
  obtain ⟨rest, hseparator, h⟩ := exists_of_bind h
  obtain ⟨⟨civil, tail⟩, hclock, h⟩ := exists_of_bind h
  obtain ⟨⟨shift, left⟩, hoffset, h⟩ := exists_of_bind h
  dsimp only at hseparator hclock hoffset h
  have hleft : left = [] := by
    split at h
    next hend => exact List.isEmpty_iff.mp (Bool.and_eq_true_iff.mp hend).1
    next => cases h
  obtain ⟨separator, hallowed, rfl⟩ : ∃ c, IsSeparator c ∧ middle = c :: rest := by
    simp only [Option.orElse_eq_or, Option.or_eq_some_iff, after?_eq_some_iff] at hseparator
    rcases hseparator with hT | ⟨-, ht | ⟨-, hblank⟩⟩
    · exact ⟨'T', Or.inl rfl, hT⟩
    · exact ⟨'t', Or.inr (Or.inl rfl), ht⟩
    · exact ⟨' ', Or.inr (Or.inr rfl), hblank⟩
  exact ⟨date, separator, rest, civil, tail, shift, hallowed, hdate, hclock, hleft ▸ hoffset⟩

/-- What a text in a loose form is: behind its clock there is nothing. -/
theorem exists_parts_of_loose? {separator : List Char → Option (List Char)} {cs : List Char}
    {t : Instant} (h : loose? separator cs = some t) :
    ∃ date middle rest civil, readDate looseYear (loose 2) cs = some (date, middle)
      ∧ separator middle = some rest ∧ readClock (loose 2) date rest = some (civil, []) := by
  rw [loose?_eq] at h
  obtain ⟨⟨date, middle⟩, hdate, h⟩ := exists_of_bind h
  obtain ⟨rest, hseparator, h⟩ := exists_of_bind h
  obtain ⟨⟨civil, tail⟩, hclock, h⟩ := exists_of_bind h
  dsimp only at hseparator hclock h
  split at h
  next hend =>
    obtain rfl := List.isEmpty_iff.mp (Bool.and_eq_true_iff.mp hend).1
    exact ⟨date, middle, rest, civil, hdate, hseparator, hclock⟩
  next => cases h

/-! ## Where the forms part -/

/-- White space before a clock does not count in the loose forms. -/
theorem readClock_trimStart (date : Date) (cs : List Char) :
    readClock (loose 2) date (Text.trimStart cs) = readClock (loose 2) date cs := by
  have hfield : loose 2 (Text.trimStart cs) = loose 2 cs := by
    unfold loose
    rw [Text.trimStart_eq_self fun _ hc => Text.isSpace_of_head?_trimStart hc]
  unfold readClock
  rw [hfield]

/-- No clock starts with a letter. -/
theorem readClock_letter (date : Date) {c : Char} (hspace : Text.isSpace c = false)
    (hdigit : Text.digit? c = none) (cs : List Char) :
    readClock (loose 2) date (c :: cs) = none := by
  have hfield : loose 2 (c :: cs) = none := by
    unfold loose
    rw [Text.trimStart_eq_self (by simpa using hspace)]
    simp [spanDigits, hdigit]
  unfold readClock
  rw [hfield]
  rfl

/-- A text in the strict form is in no loose form whose clock starts where that of the strict form
does, if it is found at all. -/
theorem loose?_eq_none {separator : List Char → Option (List Char)}
    (hseparator : ∀ {c rest rest'}, IsSeparator c → separator (c :: rest) = some rest' →
      ∀ date, readClock (loose 2) date rest' = readClock (loose 2) date rest
        ∨ readClock (loose 2) date rest' = none)
    {cs : List Char} {t : Instant} (h : strict? cs = some t) : loose? separator cs = none := by
  obtain ⟨date, c, rest, civil, tail, shift, hc, hdate, hclock, hoffset⟩ :=
    exists_parts_of_strict? h
  refine Option.eq_none_iff_forall_ne_some.mpr fun t' hloose => ?_
  obtain ⟨date', middle, rest', civil', hdate', hmiddle, hclock'⟩ := exists_parts_of_loose? hloose
  have hsameDate :=
    (Extends.readDate extends_looseYear (extends_loose Nat.two_pos) hdate).symm.trans hdate'
  cases hsameDate
  rcases hseparator hc hmiddle date with hsame | hnone
  · have hsameClock := (Extends.readClock (extends_loose Nat.two_pos) date hclock).symm.trans
      (hsame.symm.trans hclock')
    -- the strict form has an offset to come, the loose one is at its end
    cases hsameClock
    cases hoffset
  · rw [hnone] at hclock'
    cases hclock'

theorem looseT?_of_strict? {cs : List Char} {t : Instant} (h : strict? cs = some t) :
    looseT? cs = none := by
  refine loose?_eq_none (fun _ hafter date => Or.inl ?_) h
  cases after?_eq_some_iff.mp hafter
  rfl

theorem looseBlank?_of_strict? {cs : List Char} {t : Instant} (h : strict? cs = some t) :
    looseBlank? cs = none := by
  refine loose?_eq_none (fun {c rest rest'} hc hafter date => ?_) h
  obtain rfl : Text.trimStart (c :: rest) = rest' := Option.some.inj hafter
  rw [readClock_trimStart]
  rcases hc with rfl | rfl | rfl
  · exact Or.inr (readClock_letter date rfl rfl rest)
  · exact Or.inr (readClock_letter date rfl rfl rest)
  · refine Or.inl ?_
    rw [← readClock_trimStart date (' ' :: rest), ← readClock_trimStart date rest]
    rfl

theorem looseBlank?_of_looseT? {cs : List Char} {t : Instant} (h : looseT? cs = some t) :
    looseBlank? cs = none := by
  obtain ⟨date, middle, rest, civil, hdate, hmiddle, -⟩ := exists_parts_of_loose? h
  refine Option.eq_none_iff_forall_ne_some.mpr fun t' hblank => ?_
  obtain ⟨date', middle', rest', civil', hdate', hmiddle', hclock'⟩ := exists_parts_of_loose? hblank
  cases hdate.symm.trans hdate'
  cases after?_eq_some_iff.mp hmiddle
  cases hmiddle'
  rw [readClock_trimStart, readClock_letter date rfl rfl] at hclock'
  cases hclock'

/-! ## The forms in any order -/

/-- The forms in the order in which they are tried. -/
def forms : List (List Char → Option Instant) :=
  [strict?, looseT?, looseBlank?]

theorem ofText?_eq_findSome? (raw : String) :
    ofText? raw = forms.findSome? fun form => form (Text.trim raw.toList) := by
  simp only [forms, List.findSome?_cons, List.findSome?_nil, ofText?]
  cases strict? (Text.trim raw.toList) with
  | some t => rfl
  | none =>
    cases looseT? (Text.trim raw.toList) with
    | some t => rfl
    | none => cases looseBlank? (Text.trim raw.toList) <;> rfl

/-- No text is in both of two forms. -/
def Apart (f g : List Char → Option Instant) : Prop :=
  ∀ cs, f cs = none ∨ g cs = none

theorem Apart.symm {f g : List Char → Option Instant} (h : Apart f g) : Apart g f :=
  fun cs => (h cs).symm

theorem apart_of_some {f g : List Char → Option Instant}
    (h : ∀ {cs t}, f cs = some t → g cs = none) : Apart f g := by
  intro cs
  cases hf : f cs with
  | none => exact Or.inl rfl
  | some t => exact Or.inr (h hf)

/-- **No text has two forms.** -/
theorem pairwise_forms : forms.Pairwise Apart := by
  refine List.Pairwise.cons ?_ (List.Pairwise.cons ?_ (List.pairwise_singleton _ _))
  · simp only [List.mem_cons, List.not_mem_nil, or_false, forall_eq_or_imp, forall_eq]
    exact ⟨apart_of_some looseT?_of_strict?, apart_of_some looseBlank?_of_strict?⟩
  · simp only [List.mem_singleton, forall_eq]
    exact apart_of_some looseBlank?_of_looseT?

/-- **Forms that exclude each other may be tried in any order.** -/
theorem findSome?_of_perm {fs gs : List (List Char → Option Instant)} (h : fs.Perm gs)
    (hapart : fs.Pairwise Apart) (cs : List Char) :
    (fs.findSome? fun form => form cs) = gs.findSome? fun form => form cs := by
  induction h with
  | nil => rfl
  | cons f _ ih =>
    rw [List.findSome?_cons, List.findSome?_cons, ih (List.pairwise_cons.mp hapart).2]
  | swap f g l =>
    have hfg : Apart g f := (List.pairwise_cons.mp hapart).1 f (List.mem_cons_self ..)
    rcases hfg cs with hnone | hnone
    · simp only [List.findSome?_cons, hnone]
    · simp only [List.findSome?_cons, hnone]
  | trans hfirst _ ih ih' =>
    exact (ih hapart).trans (ih' (hfirst.pairwise hapart Apart.symm))

/-- Whatever form a text has decides what it denotes. -/
theorem ofText?_of_mem {form : List Char → Option Instant} (hmem : form ∈ forms) {raw : String}
    {t : Instant} (h : form (Text.trim raw.toList) = some t) : ofText? raw = some t := by
  obtain ⟨before, after, hsplit⟩ := List.append_of_mem hmem
  have hperm : forms.Perm (form :: (before ++ after)) := hsplit ▸ List.perm_middle
  rw [ofText?_eq_findSome?, findSome?_of_perm hperm pairwise_forms, List.findSome?_cons, h]

end ActivityFeed.Instant
