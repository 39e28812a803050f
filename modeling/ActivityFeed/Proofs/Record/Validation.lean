import ActivityFeed.Proofs.Record.Again

/-!
# Which values are records

A value is checked member by member, in the order of `modelledKeys`, and refused for the first flaw
that is found (`errorOf?_ofMembers`). `Flaw` lists what can be wrong with a member, each with its
error; a value without a flaw is a record (`exists_ofMembers_iff`). Nothing that was said gets lost
in it: written as an object the record has the members of the value, the modelled ones in the form
that reading them leaves (`canonicalMembers_of_ofMembers`).

Main result: `ofJson_of_canonical`.
-/

namespace ActivityFeed

namespace Json.Members

variable {f : String → Json → Option Json} {members : Members}

/-- Members with some of them replaced or left out. -/
def rewrite (f : String → Json → Option Json) (members : Members) : Members :=
  members.filterMap fun m => (f m.1 m.2).map fun value => (m.1, value)

theorem Sorted.rewrite (h : Sorted members) : Sorted (rewrite f members) := by
  refine List.Pairwise.filterMap _ ?_ h
  intro a b hab x hx y hy
  obtain ⟨_, -, rfl⟩ := Option.map_eq_some_iff.mp hx
  obtain ⟨_, -, rfl⟩ := Option.map_eq_some_iff.mp hy
  exact hab

theorem rewrite_cons_none {key : String} {value : Json} (h : f key value = none)
    (rest : Members) : rewrite f ((key, value) :: rest) = rewrite f rest :=
  List.filterMap_cons_none (by simp [h])

theorem rewrite_cons_some {key : String} {value v : Json} (h : f key value = some v)
    (rest : Members) : rewrite f ((key, value) :: rest) = (key, v) :: rewrite f rest := by
  unfold rewrite
  rw [List.filterMap_cons, h]
  rfl

/-- Each key is looked up as before, and what is found is replaced or left out. -/
theorem Sorted.lookup_rewrite (h : Sorted members) (l : String) :
    (Members.rewrite f members).lookup l = (members.lookup l).bind (f l) := by
  induction members with
  | nil => rfl
  | cons m rest ih =>
    obtain ⟨key, value⟩ := m
    obtain ⟨hfirst, hrest⟩ := List.pairwise_cons.mp h
    rw [lookup_cons_ite]
    by_cases hl : l = key
    · subst hl
      rw [if_pos rfl, Option.bind_some]
      cases hf : f l value with
      | none => rw [rewrite_cons_none hf, ih hrest, lookup_of_lt hfirst, Option.bind_none]
      | some v => rw [rewrite_cons_some hf, lookup_cons_ite, if_pos rfl]
    · rw [if_neg hl, ← ih hrest]
      cases hf : f key value with
      | none => rw [rewrite_cons_none hf]
      | some v => rw [rewrite_cons_some hf, lookup_cons_ite, if_neg hl]

end Json.Members

/-- The error of a result. -/
def errorOf? {ε α : Type} : Except ε α → Option ε
  | .ok _ => none
  | .error e => some e

theorem errorOf?_eq_some_iff {ε α : Type} {x : Except ε α} {e : ε} :
    errorOf? x = some e ↔ x = .error e := by
  cases x <;> simp [errorOf?]

theorem errorOf?_eq_none_iff {ε α : Type} {x : Except ε α} :
    errorOf? x = none ↔ ∃ a, x = .ok a := by
  cases x <;> simp [errorOf?]

/-- Of two steps the first one is asked first; it is enough that the error of the second one does
not depend on what the first one gave. -/
theorem errorOf?_bind {ε α β : Type} {x : Except ε α} {f : α → Except ε β} {later : Option ε}
    (h : ∀ a, errorOf? (f a) = later) : errorOf? (x >>= f) = (errorOf? x).or later := by
  cases x with
  | error e => rfl
  | ok a => exact h a

namespace Record

open Json (Members)

variable {members : Members} {r : Record}

/-! ## Members that are accepted -/

/-- The identifiers that values denote: a text, unless it is blank, without the white space around
it, and a whole number its digits. -/
inductive Identifies : Json → String → Prop
  | text {raw : String} (named : Text.trimmed raw ≠ "") :
    Identifies (.string raw) (Text.trimmed raw)
  | number (n : Int) : Identifies (.number (.integer n)) (String.ofList (Json.integerText n))

/-- What may stand where a text is expected. -/
inductive IsTextual : Json → Prop
  | null : IsTextual .null
  | text (s : String) : IsTextual (.string s)
  | number (n : Json.Number) : IsTextual (.number n)

/-- The members of a record: an identifier, a timestamp, and texts that may be absent. -/
structure IsAcceptable (members : Members) : Prop where
  identified : ∃ value id, members.lookup "id" = some value ∧ Identifies value id
  dated : ∃ raw t, members.lookup "created_at" = some (.string raw) ∧ timestamp raw = .ok t
  worded : ∀ key ∈ textKeys, ∀ value, members.lookup key = some value → IsTextual value

/-! ## Members that are refused -/

/-- What is wrong with an identifier. -/
inductive Misidentifies : Option Json → PayloadError → Prop
  | missing : Misidentifies none (.invalidIdentifier .missing)
  | blank {raw : String} (unnamed : Text.trimmed raw = "") :
    Misidentifies (some (.string raw)) (.invalidIdentifier .empty)
  | unsupported {value : Json} (noText : ∀ raw, value ≠ .string raw)
    (noInteger : ∀ n, value ≠ .number (.integer n)) :
    Misidentifies (some value) (.invalidIdentifier (.unsupported value))

/-- What is wrong with a creation time. -/
inductive Misdates : Option Json → PayloadError → Prop
  | missing : Misdates none (.malformed .missingCreationTime)
  | unreadable {raw : String} (noTime : ∀ t, timestamp raw ≠ .ok t) :
    Misdates (some (.string raw)) (.invalidTimestamp raw)
  | unsupported {value : Json} (noText : ∀ raw, value ≠ .string raw) :
    Misdates (some value) (.invalidTimestamp value.compact)

/-- What is wrong with a text. -/
inductive Miswords (key : String) : Option Json → PayloadError → Prop
  | unsupported {value : Json} (noText : ¬IsTextual value) :
    Miswords key (some value) (.malformed (.textExpected key value))

/-- What is wrong with the member under a key. -/
def Flaw (members : Members) (key : String) (e : PayloadError) : Prop :=
  (key = "id" ∧ Misidentifies (members.lookup key) e)
    ∨ (key = "created_at" ∧ Misdates (members.lookup key) e)
    ∨ (key ∈ textKeys ∧ Miswords key (members.lookup key) e)

/-- An error is that of the first member with a flaw, in the order of `modelledKeys`. -/
def FirstFlaw (members : Members) (e : PayloadError) : Prop :=
  ∃ before key after, modelledKeys = before ++ key :: after ∧ Flaw members key e
    ∧ ∀ k ∈ before, ∀ e', ¬Flaw members k e'

/-! ## Checks of single members -/

theorem identifier_eq_ok_iff {value : Option Json} {id : String} :
    identifier value = .ok id ↔ ∃ v, value = some v ∧ Identifies v id := by
  constructor
  · intro h
    unfold identifier at h
    split at h
    next => cases h
    next raw =>
      dsimp only at h
      split at h
      next => cases h
      next hnamed =>
        cases h
        exact ⟨_, rfl, .text (by simpa using hnamed)⟩
    next n =>
      cases h
      exact ⟨_, rfl, .number n⟩
    next => cases h
  · rintro ⟨v, rfl, h⟩
    cases h with
    | text named => simp [identifier, named]
    | number n => rfl

theorem Identifies.ne_empty {value : Json} {id : String} (h : Identifies value id) : id ≠ "" := by
  cases h with
  | text named => exact named
  | number n => exact fun hempty => Json.integerText_ne_nil n (String.ofList_eq_empty_iff.mp hempty)

theorem identifier_eq_error_iff {value : Option Json} {e : PayloadError} :
    identifier value = .error e ↔ Misidentifies value e := by
  constructor
  · intro h
    unfold identifier at h
    split at h
    next =>
      cases h
      exact .missing
    next raw =>
      dsimp only at h
      split at h
      next hblank =>
        cases h
        exact .blank (by simpa using hblank)
      next => cases h
    next => cases h
    next value hnoText hnoInteger =>
      cases h
      exact .unsupported (fun raw hv => hnoText raw (hv ▸ rfl)) fun n hv => hnoInteger n (hv ▸ rfl)
  · intro h
    cases h with
    | missing => rfl
    | blank hblank => simp [identifier, hblank]
    | unsupported hnoText hnoInteger =>
      unfold identifier
      split <;> simp_all

theorem creationTime_eq_ok_iff {value : Option Json} {t : Instant} :
    creationTime value = .ok t ↔ ∃ raw, value = some (.string raw) ∧ timestamp raw = .ok t := by
  constructor
  · intro h
    unfold creationTime at h
    split at h
    next => cases h
    next raw => exact ⟨raw, rfl, h⟩
    next => cases h
  · rintro ⟨raw, rfl, h⟩
    exact h

theorem creationTime_eq_error_iff {value : Option Json} {e : PayloadError} :
    creationTime value = .error e ↔ Misdates value e := by
  constructor
  · intro h
    unfold creationTime at h
    split at h
    next =>
      cases h
      exact .missing
    next raw =>
      have hnoTime : ∀ t, timestamp raw ≠ .ok t := fun t ht => by rw [ht] at h; cases h
      unfold timestamp at h
      split at h
      next => cases h
      next =>
        cases h
        exact .unreadable hnoTime
    next value hnoText =>
      cases h
      exact .unsupported fun raw hv => hnoText raw (hv ▸ rfl)
  · intro h
    cases h with
    | missing => rfl
    | @unreadable raw hnoTime =>
      show timestamp raw = _
      unfold timestamp
      split
      next t ht => exact absurd (timestamp_eq_ok_iff.mpr ht) (hnoTime t)
      next => rfl
    | unsupported hnoText =>
      unfold creationTime
      split <;> simp_all

/-- The text that a value leaves where a text is expected. -/
def wording : Json → Option String
  | .string s => some s
  | .number n => some (String.ofList n.text)
  | _ => none

theorem textMember_of_textual {key : String} {value : Json}
    (hfound : members.lookup key = some value) (h : IsTextual value) :
    textMember members key = .ok (wording value) := by
  unfold textMember
  rw [hfound]
  cases h <;> rfl

theorem textMember_of_not_textual {key : String} {value : Json}
    (hfound : members.lookup key = some value) (h : ¬IsTextual value) :
    textMember members key = .error (.malformed (.textExpected key value)) := by
  unfold textMember
  rw [hfound]
  cases value with
  | null => exact absurd .null h
  | string s => exact absurd (.text s) h
  | number n => exact absurd (.number n) h
  | bool | array | object => rfl

theorem textMember_eq_ok_iff {key : String} {text : Option String} :
    textMember members key = .ok text
      ↔ (∀ value, members.lookup key = some value → IsTextual value)
        ∧ text = (members.lookup key).bind wording := by
  cases hfound : members.lookup key with
  | none => simp [textMember, hfound, eq_comm]
  | some value =>
    by_cases h : IsTextual value
    · simp [textMember_of_textual hfound h, h, eq_comm]
    · simp [textMember_of_not_textual hfound h, h]

theorem textMember_eq_error_iff {key : String} {e : PayloadError} :
    textMember members key = .error e ↔ Miswords key (members.lookup key) e := by
  cases hfound : members.lookup key with
  | none =>
    simp only [textMember, hfound, reduceCtorEq, false_iff]
    rintro ⟨⟩
  | some value =>
    by_cases h : IsTextual value
    · simp only [textMember_of_textual hfound h, reduceCtorEq, false_iff]
      rintro ⟨hnoText⟩
      exact hnoText h
    · rw [textMember_of_not_textual hfound h]
      constructor
      · rintro ⟨⟩
        exact .unsupported h
      · rintro ⟨⟩
        rfl

/-! ## All members in turn -/

/-- The error for the member under a key, if it has a flaw. -/
def flaw? (members : Members) (key : String) : Option PayloadError :=
  if key = "id" then errorOf? (identifier (members.lookup key))
  else if key = "created_at" then errorOf? (creationTime (members.lookup key))
  else errorOf? (textMember members key)

theorem flaw?_eq_some_iff {key : String} (hkey : key ∈ modelledKeys) {e : PayloadError} :
    flaw? members key = some e ↔ Flaw members key e := by
  have hid : "id" ∉ textKeys := by decide
  have htime : "created_at" ∉ textKeys := by decide
  unfold flaw? Flaw
  by_cases h : key = "id"
  · subst h
    simp [errorOf?_eq_some_iff, identifier_eq_error_iff, hid]
  · by_cases h' : key = "created_at"
    · subst h'
      simp [errorOf?_eq_some_iff, creationTime_eq_error_iff, htime]
    · have htext : key ∈ textKeys := by simpa [modelledKeys, h, h'] using hkey
      simp [h, h', errorOf?_eq_some_iff, textMember_eq_error_iff, htext]

/-- **The first flaw counts.** -/
theorem errorOf?_ofMembers (members : Members) :
    errorOf? (ofMembers members) = modelledKeys.findSome? (flaw? members) := by
  have hcons : ∀ (key : String) (keys : List String), (key :: keys).findSome? (flaw? members)
      = (flaw? members key).or (keys.findSome? (flaw? members)) := by
    intro key keys
    rw [List.findSome?_cons]
    cases flaw? members key <;> rfl
  simp only [modelledKeys, textKeys, hcons]
  -- one check for each key
  iterate 10 refine errorOf?_bind fun _ => ?_
  rfl

theorem ofMembers_eq_error_iff {e : PayloadError} :
    ofMembers members = .error e ↔ FirstFlaw members e := by
  rw [← errorOf?_eq_some_iff, errorOf?_ofMembers, List.findSome?_eq_some_iff]
  refine exists₃_congr fun before key after => and_congr_right fun hsplit => ?_
  have hmem : ∀ k ∈ before ++ key :: after, k ∈ modelledKeys := fun k hk => hsplit ▸ hk
  refine and_congr (flaw?_eq_some_iff (hmem key (by simp))) (forall₂_congr fun k hk => ?_)
  rw [Option.eq_none_iff_forall_ne_some]
  exact forall_congr' fun e' => not_congr (flaw?_eq_some_iff (hmem k (by simp [hk])))

theorem flaw?_of_textKey {key : String} (h : key ∈ textKeys) :
    flaw? members key = errorOf? (textMember members key) := by
  have hid : key ≠ "id" := by
    rintro rfl
    exact absurd h (by decide)
  have htime : key ≠ "created_at" := by
    rintro rfl
    exact absurd h (by decide)
  rw [flaw?, if_neg hid, if_neg htime]

/-- **Members without a flaw are those of a record.** -/
theorem exists_ofMembers_iff : (∃ r, ofMembers members = .ok r) ↔ IsAcceptable members := by
  rw [← errorOf?_eq_none_iff, errorOf?_ofMembers, List.findSome?_eq_none_iff, modelledKeys,
    List.forall_mem_cons, List.forall_mem_cons]
  have hid : flaw? members "id" = none
      ↔ ∃ value id, members.lookup "id" = some value ∧ Identifies value id := by
    rw [show flaw? members "id" = errorOf? (identifier (members.lookup "id")) from rfl,
      errorOf?_eq_none_iff, exists_comm]
    exact exists_congr fun _ => identifier_eq_ok_iff
  have htime : flaw? members "created_at" = none
      ↔ ∃ raw t, members.lookup "created_at" = some (.string raw) ∧ timestamp raw = .ok t := by
    rw [show flaw? members "created_at" = errorOf? (creationTime (members.lookup "created_at"))
      from rfl, errorOf?_eq_none_iff, exists_comm]
    exact exists_congr fun _ => creationTime_eq_ok_iff
  have htexts : (∀ key ∈ textKeys, flaw? members key = none)
      ↔ ∀ key ∈ textKeys, ∀ value, members.lookup key = some value → IsTextual value := by
    refine forall₂_congr fun key hkey => ?_
    rw [flaw?_of_textKey hkey, errorOf?_eq_none_iff]
    simp only [textMember_eq_ok_iff, exists_and_left, exists_eq, and_true]
  rw [hid, htime, htexts]
  exact ⟨fun ⟨identified, dated, worded⟩ => ⟨identified, dated, worded⟩,
    fun ⟨identified, dated, worded⟩ => ⟨identified, dated, worded⟩⟩

/-! ## What becomes of the members -/

/-- Where the texts of a record come from. -/
theorem texts_of_ofMembers (h : ofMembers members = .ok r) :
    ∀ m ∈ textKeys.zip r.texts, textMember members m.1 = .ok m.2 := by
  unfold ofMembers at h
  obtain ⟨_, -, h⟩ := exists_of_bind h
  obtain ⟨_, -, h⟩ := exists_of_bind h
  obtain ⟨_, hmessage, h⟩ := exists_of_bind h
  obtain ⟨_, hagentId, h⟩ := exists_of_bind h
  obtain ⟨_, hagentName, h⟩ := exists_of_bind h
  obtain ⟨_, hagentRole, h⟩ := exists_of_bind h
  obtain ⟨_, htaskId, h⟩ := exists_of_bind h
  obtain ⟨_, htaskTitle, h⟩ := exists_of_bind h
  obtain ⟨_, hboardId, h⟩ := exists_of_bind h
  obtain ⟨_, hboardName, h⟩ := exists_of_bind h
  cases h
  simp only [textKeys, texts, List.zip_cons_cons, List.forall_mem_cons]
  exact ⟨hmessage, hagentId, hagentName, hagentRole, htaskId, htaskTitle, hboardId, hboardName,
    List.forall_mem_nil _⟩

/-- What a record makes of a member: the identifier and the creation time in the form that reading
leaves, a text for a number, no member for null where a text is expected; what is not modelled is
what it was. -/
def rewritten (r : Record) (key : String) (value : Json) : Option Json :=
  if key = "id" then some (.string r.id)
  else if key = "created_at" then some (.string r.createdAt.text)
  else if key ∈ textKeys then (wording value).map .string
  else some value

theorem isApart_of_canonical (hcanonical : (Json.object members).canonical = .object members)
    (h : ofMembers members = .ok r) : r.IsApart := by
  obtain ⟨-, -, hextra⟩ := parts_of_ofMembers h
  refine ⟨?_, fun m hm => ?_⟩
  · rw [hextra]
    exact Json.canonical_filter hcanonical _
  · rw [hextra] at hm
    simpa using (List.mem_filter.mp hm).2

/-- The text under a key stands among those of the record. -/
theorem exists_text {key : String} (h : key ∈ textKeys) (r : Record) :
    ∃ text, (key, text) ∈ textKeys.zip r.texts := by
  have hkeys : (textKeys.zip r.texts).map Prod.fst = textKeys := rfl
  rw [← hkeys] at h
  obtain ⟨⟨_, text⟩, hmem, rfl⟩ := List.mem_map.mp h
  exact ⟨text, hmem⟩

/-- **Nothing is lost.** Written as an object, a record has the members of the object that it came
from, with those that are modelled rewritten. -/
theorem canonicalMembers_of_ofMembers
    (hcanonical : (Json.object members).canonical = .object members)
    (h : ofMembers members = .ok r) :
    r.canonicalMembers = members.rewrite r.rewritten := by
  have hapart := isApart_of_canonical hcanonical h
  have hsorted := Json.sorted_of_canonical hcanonical
  obtain ⟨hid, htime, hextra⟩ := parts_of_ofMembers h
  -- both sides are sorted, so that it is enough to look up each key
  refine Json.Members.eq_of_lookup (Json.sorted_canonicalMembers .nil _) hsorted.rewrite
    fun l => ?_
  rw [hsorted.lookup_rewrite]
  by_cases hl : l = "id"
  · subst hl
    obtain ⟨v, hfound, -⟩ := identifier_eq_ok_iff.mp hid
    rw [hapart.lookup_canonicalMembers, hfound]
    rfl
  by_cases hl' : l = "created_at"
  · subst hl'
    obtain ⟨raw, hfound, -⟩ := creationTime_eq_ok_iff.mp htime
    rw [hapart.lookup_canonicalMembers, hfound]
    rfl
  by_cases htext : l ∈ textKeys
  · obtain ⟨text, hmem⟩ := exists_text htext r
    have hwording : text = (members.lookup l).bind wording :=
      (textMember_eq_ok_iff.mp (texts_of_ofMembers h _ hmem)).2
    rw [hapart.lookup_text hmem, hwording]
    cases members.lookup l with
    | none => rfl
    | some value =>
      show (wording value).map Json.string = r.rewritten l value
      rw [rewritten, if_neg hl, if_neg hl', if_pos htext]
  · have hother : l ∉ modelledKeys := by
      simp [modelledKeys, hl, hl', htext]
    have hsame : (r.extra.lookup l) = members.lookup l := by
      rw [hextra, Json.Members.lookup_filter (fun k => !modelledKeys.contains k), if_pos]
      simpa using hother
    rw [hapart.lookup_canonicalMembers, lookup_modelled_of_not_mem hother, Option.none_or, hsame]
    cases hfound : members.lookup l with
    | none => rfl
    | some value =>
      rw [Option.map_some, Json.canonical_of_mem hcanonical (Json.Members.mem_of_lookup hfound),
        Option.bind_some, rewritten, if_neg hl, if_neg hl', if_neg htext]

/-! ## Identifiers -/

theorem integerText_injective {n m : Int} (h : Json.integerText n = Json.integerText m) :
    n = m := by
  have hsign : ∀ k : Nat, ∀ cs, Nat.toDigits 10 k ≠ '-' :: cs := fun k cs hk =>
    absurd (Nat.isDigit_of_mem_toDigits (by decide) (by decide) (hk ▸ List.mem_cons_self ..))
      (by decide)
  have hsize : ∀ {j k : Nat}, Nat.toDigits 10 j = Nat.toDigits 10 k → j = k := fun {j k} hjk => by
    have hvalue := congrArg (Nat.ofDigitChars 10 · 0) hjk
    simpa [Nat.ofDigitChars_toDigits] using hvalue
  unfold Json.integerText at h
  split at h <;> split at h
  · have := hsize (List.cons.inj h).2
    omega
  · exact absurd h.symm (hsign _ _)
  · exact absurd h (hsign _ _)
  · have := hsize h
    omega

/-- The digits of a whole number and white space around them are an identifier: that number's. -/
theorem identifier_padded (n : Int) {before after : List Char}
    (hbefore : ∀ c ∈ before, Text.isSpace c = true)
    (hafter : ∀ c ∈ after, Text.isSpace c = true) :
    identifier (some (.string (String.ofList (before ++ Json.integerText n ++ after))))
      = identifier (some (.number (.integer n))) := by
  have htrimmed : Text.trimmed (String.ofList (before ++ Json.integerText n ++ after))
      = String.ofList (Json.integerText n) := by
    rw [Text.trimmed, String.toList_ofList, Text.trim_between hbefore hafter,
      Text.trim_eq_self fun _ hc => Json.isSpace_of_mem_integerText hc]
  have hid : identifier (some (.string (String.ofList (before ++ Json.integerText n ++ after))))
      = .ok (String.ofList (Json.integerText n)) := by
    refine identifier_eq_ok_iff.mpr ⟨_, rfl, ?_⟩
    rw [← htrimmed]
    exact .text (htrimmed ▸ Identifies.ne_empty (.number n))
  exact hid

/-! ## Values -/

theorem ofJson_of_not_object {v : Json} (h : ∀ members, v ≠ .object members) :
    ofJson v = .error .notAnObject := by
  cases v with
  | object members => exact absurd rfl (h members)
  | null | bool | number | string | array => rfl

theorem exists_members_of_ofJson {v : Json} (h : ofJson v = .ok r) :
    ∃ members, v = .object members ∧ ofMembers members = .ok r := by
  cases v with
  | object members => exact ⟨members, rfl, h⟩
  | null | bool | number | string | array => cases h

/-- **Which values are records, and what becomes of them.** A value is accepted just if it is an
object with acceptable members. If it is refused the error is that it is no object, or that of the
first of the modelled members with a flaw. The identifier of what is accepted is not empty and is
accepted again as it is; and written as an object the record is the object that it came from with
the modelled members rewritten, so that nothing is lost. A whole number, its digits and these with
white space around them are one identifier, and two whole numbers are two. -/
theorem ofJson_of_canonical {v : Json} (hv : v.canonical = v) :
    ((∃ r, ofJson v = .ok r) ↔ ∃ members, v = .object members ∧ IsAcceptable members)
      ∧ (∀ e, ofJson v = .error e ↔
          ((∀ members, v ≠ .object members) ∧ e = .notAnObject)
            ∨ ∃ members, v = .object members ∧ FirstFlaw members e)
      ∧ (∀ r, ofJson v = .ok r →
          r.id ≠ "" ∧ identifier (some (.string r.id)) = .ok r.id
            ∧ ∃ members, v = .object members
              ∧ (∃ value, members.lookup "id" = some value ∧ Identifies value r.id)
              ∧ (∃ raw, members.lookup "created_at" = some (.string raw)
                ∧ timestamp raw = .ok r.createdAt)
              ∧ r.toJson.canonical = .object (Json.Members.rewrite r.rewritten members))
      ∧ (∀ (n : Int) (before after : List Char), (∀ c ∈ before, Text.isSpace c = true) →
          (∀ c ∈ after, Text.isSpace c = true) →
            identifier (some (.string (String.ofList (before ++ Json.integerText n ++ after))))
              = identifier (some (.number (.integer n))))
      ∧ ∀ n m : Int,
          identifier (some (.number (.integer n))) = identifier (some (.number (.integer m))) →
            n = m := by
  refine ⟨⟨fun ⟨r, h⟩ => ?_, ?_⟩, fun e => ?_, fun r h => ?_,
    fun n before after hbefore hafter => identifier_padded n hbefore hafter, fun n m h => ?_⟩
  · obtain ⟨members, rfl, h⟩ := exists_members_of_ofJson h
    exact ⟨members, rfl, exists_ofMembers_iff.mp ⟨r, h⟩⟩
  · rintro ⟨members, rfl, h⟩
    exact exists_ofMembers_iff.mpr h
  · by_cases hobject : ∃ members, v = .object members
    · obtain ⟨members, rfl⟩ := hobject
      have hsame : ∀ members', Json.object members = .object members' ↔ members' = members :=
        fun members' => ⟨fun h => (Json.object.inj h).symm, fun h => h ▸ rfl⟩
      simp only [hsame, exists_eq_left, ofJson, ofMembers_eq_error_iff]
      exact ⟨Or.inr, fun h => h.resolve_left fun ⟨hnone, _⟩ => hnone members rfl⟩
    · have hnone : ∀ members, v ≠ .object members := fun members h => hobject ⟨members, h⟩
      rw [ofJson_of_not_object hnone]
      constructor
      · rintro ⟨⟩
        exact Or.inl ⟨hnone, rfl⟩
      · rintro (⟨-, rfl⟩ | ⟨members, h, -⟩)
        · rfl
        · exact absurd h (hnone members)
  · obtain ⟨members, rfl, h⟩ := exists_members_of_ofJson h
    obtain ⟨hid, htime, -⟩ := parts_of_ofMembers h
    obtain ⟨value, hfound, hidentifies⟩ := identifier_eq_ok_iff.mp hid
    refine ⟨hidentifies.ne_empty, identifier_again hid, members, rfl,
      ⟨value, hfound, hidentifies⟩, creationTime_eq_ok_iff.mp htime, ?_⟩
    exact congrArg Json.object (canonicalMembers_of_ofMembers hv h)
  · exact integerText_injective (String.ofList_injective (Except.ok.inj h))

/-- Digits with white space around them for an identifier, a number for a text, null for another
one, and a member that is not modelled; and an object with two flaws. -/
theorem ofJson_of_mixed :
    let v := Json.object [("agent_id", .null), ("created_at", .string "1970-01-01 00:00:01"),
      ("id", .string " 7\n"), ("message", .number (.integer 5)), ("pinned", .bool true)]
    let w := Json.object [("created_at", .bool true), ("id", .string "x"), ("message", .array [])]
    let r := { new "7" ⟨1, 0⟩ with message := some "5", extra := [("pinned", .bool true)] }
    ofJson v = .ok r
      ∧ identifier (some (.string " 7\n")) = identifier (some (.number (.integer 7)))
      ∧ r.toJson.canonical = .object [("created_at", .string "1970-01-01T00:00:01Z"),
        ("id", .string "7"), ("message", .string "5"), ("pinned", .bool true)]
      ∧ FirstFlaw [("created_at", .bool true), ("id", .string "x"), ("message", .array [])]
        (.invalidTimestamp "true")
      ∧ ¬∃ r, ofJson w = .ok r := by
  intro v w r
  have hv : ofJson v = .ok r := by decide +kernel
  have hw : ofJson w = .error (.invalidTimestamp "true") := by decide +kernel
  obtain ⟨-, -, haccepted, hpadded, -⟩ := ofJson_of_canonical (v := v) (by decide +kernel)
  obtain ⟨-, -, members, hmembers, -, -, hwritten⟩ := haccepted r hv
  obtain ⟨-, hrefused, -⟩ := ofJson_of_canonical (v := w) (by decide +kernel)
  have hflaw := (hrefused _).mp hw
  have hblank : ∀ c ∈ [' '], Text.isSpace c = true := List.forall_mem_singleton.mpr rfl
  have hfeed : ∀ c ∈ ['\n'], Text.isSpace c = true := List.forall_mem_singleton.mpr rfl
  refine ⟨hv, hpadded 7 [' '] ['\n'] hblank hfeed, hwritten.trans ?_, ?_, ?_⟩
  · rw [← Json.object.inj hmembers]
    decide +kernel
  · rcases hflaw with ⟨hnone, -⟩ | ⟨_, hmembers, hfirst⟩
    · exact absurd rfl (hnone _)
    · exact Json.object.inj hmembers ▸ hfirst
  · rintro ⟨r', hr'⟩
    rw [hw] at hr'
    cases hr'

end Record

end ActivityFeed
