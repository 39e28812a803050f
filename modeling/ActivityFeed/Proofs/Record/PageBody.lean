import ActivityFeed.Page
import ActivityFeed.Proofs.Json.Accepted
import Mathlib.Data.List.Basic

/-!
# What the body of a page has to be

A body is a page if it is the text of one of two shapes (`IsPage`): a list, or an object with one
list of items and at most one total. Everything else about the values does not matter. The items are
then sifted one by one (`Sifted`), so that none of them has a say in what becomes of another.

A body that is no page has either begun with a value of another shape, and then it does not matter
what follows, or it is no text of JSON. These are different errors, and no body has both.

Main result: `ofBody_cases`.
-/

namespace ActivityFeed

/-- There is one member under a key. -/
def Json.Members.Only (members : Json.Members) (key : String) (v : Json) : Prop :=
  ∃ before after, members = before ++ (key, v) :: after ∧ ∀ m ∈ before ++ after, m.1 ≠ key

theorem Json.Members.filter_eq_singleton_iff {members : Json.Members} {key k : String} {v : Json} :
    members.filter (fun m => decide (m.1 = key)) = [(k, v)] ↔ k = key ∧ Only members key v := by
  rw [List.filter_eq_cons_iff]
  constructor
  · rintro ⟨before, after, rfl, hbefore, hkey, hafter⟩
    have hk : k = key := by simpa using hkey
    subst hk
    refine ⟨rfl, before, after, rfl, fun m hm => ?_⟩
    rcases List.mem_append.mp hm with hm | hm
    · simpa using hbefore m hm
    · simpa using List.filter_eq_nil_iff.mp hafter m hm
  · rintro ⟨rfl, before, after, rfl, honly⟩
    rw [List.forall_mem_append] at honly
    refine ⟨before, after, rfl, fun m hm => ?_, by simp, ?_⟩
    · simpa using honly.1 m hm
    · exact List.filter_eq_nil_iff.mpr fun m hm => by simpa using honly.2 m hm

namespace Page

open Json (Members IsWholeText Begins)

variable {body : List UInt8} {v : Json} {items : List Json} {total : Option Nat}

/-! ## Shapes -/

/-- The totals that values denote: null none, and a whole number of 64 bits itself. -/
inductive IsTotal : Json → Option Nat → Prop
  | null : IsTotal .null none
  | number {n : Nat} (h : n ≤ Text.maxWord) : IsTotal (.number (.integer n)) (some n)

/-- The total of an object, which may be left out. -/
inductive HasTotal (members : Members) : Option Nat → Prop
  | absent (h : ∀ m ∈ members, m.1 ≠ "total") : HasTotal members none
  | given {v : Json} {total : Option Nat} (h : members.Only "total" v) (hv : IsTotal v total) :
    HasTotal members total

/-- The shapes of a page: a list of items, or an object that has one and at most one total. -/
inductive IsPage : Json → List Json → Option Nat → Prop
  | list (items : List Json) : IsPage (.array items) items none
  | object {members : Members} {items : List Json} {total : Option Nat}
    (hitems : members.Only "items" (.array items)) (htotal : HasTotal members total) :
    IsPage (.object members) items total

theorem total?_eq_some_iff : total? v = some total ↔ IsTotal v total := by
  constructor
  · intro h
    unfold total? at h
    split at h
    next =>
      cases h
      exact .null
    next n =>
      split at h
      next hrange =>
        simp only [Bool.and_eq_true, decide_eq_true_eq] at hrange
        cases h
        have hnat : ((n.toNat : Nat) : Int) = n := Int.toNat_of_nonneg hrange.1
        have htotal : IsTotal (.number (.integer (n.toNat : Nat))) (some n.toNat) :=
          .number (by omega)
        rwa [hnat] at htotal
      next => cases h
    next => cases h
  · rintro (_ | ⟨h⟩)
    · rfl
    · simp [total?, h]

theorem shape?_eq_some_iff : shape? v = some (items, total) ↔ IsPage v items total := by
  constructor
  · intro h
    unfold shape? at h
    split at h
    next =>
      cases h
      exact .list _
    next members =>
      split at h
      next hitems htotal =>
        cases h
        obtain ⟨rfl, honly⟩ := Members.filter_eq_singleton_iff.mp hitems
        refine .object honly (.absent fun m hm => ?_)
        simpa using List.filter_eq_nil_iff.mp htotal m hm
      next hitems htotal =>
        obtain ⟨t, ht, hpair⟩ := Option.map_eq_some_iff.mp h
        cases hpair
        obtain ⟨rfl, honly⟩ := Members.filter_eq_singleton_iff.mp hitems
        obtain ⟨rfl, honly'⟩ := Members.filter_eq_singleton_iff.mp htotal
        exact .object honly (.given honly' (total?_eq_some_iff.mp ht))
      next => cases h
    next => cases h
  · rintro (_ | @⟨members, _, _, hitems, htotal⟩)
    · rfl
    · -- a member that is the only one of its name is all that the filter finds
      have hitems' := Members.filter_eq_singleton_iff.mpr ⟨rfl, hitems⟩
      cases htotal with
      | absent h =>
        have hnone : members.filter (fun m => decide (m.1 = "total")) = [] :=
          List.filter_eq_nil_iff.mpr fun m hm => by simpa using h m hm
        simp only [shape?, hitems', hnone]
      | given h hv =>
        have htotal' := Members.filter_eq_singleton_iff.mpr ⟨rfl, h⟩
        simp only [shape?, hitems', htotal', total?_eq_some_iff.mpr hv, Option.map_some]

/-! ## Items -/

/-- What becomes of items, each by itself: the records among them in their order, and the number of
the others. -/
inductive Sifted : List Json → List Record → Nat → Prop
  | nil : Sifted [] [] 0
  | record {v : Json} {r : Record} {items : List Json} {records : List Record} {rejected : Nat}
    (h : Record.ofJson v.canonical = .ok r) (hrest : Sifted items records rejected) :
    Sifted (v :: items) (r :: records) rejected
  | other {v : Json} {e : PayloadError} {items : List Json} {records : List Record} {rejected : Nat}
    (h : Record.ofJson v.canonical = .error e) (hrest : Sifted items records rejected) :
    Sifted (v :: items) records (rejected + 1)

section

variable {r : Record} {e : PayloadError} {later : List Json} {records others : List Record}
variable {rejected n : Nat}

theorem ofItems_cons_of_ok (h : Record.ofJson v.canonical = .ok r) :
    ofItems (v :: items) total
      = { ofItems items total with items := r :: (ofItems items total).items } := by
  simp [ofItems, h, Except.toOption]

theorem ofItems_cons_of_error (h : Record.ofJson v.canonical = .error e) :
    ofItems (v :: items) total
      = { ofItems items total with rejected := (ofItems items total).rejected + 1 } := by
  simp [ofItems, h, Except.toOption]

theorem sifted_ofItems (items : List Json) (total : Option Nat) :
    Sifted items (ofItems items total).items (ofItems items total).rejected := by
  induction items with
  | nil => exact .nil
  | cons v items ih =>
    cases h : Record.ofJson v.canonical with
    | ok r =>
      rw [ofItems_cons_of_ok h]
      exact .record h ih
    | error e =>
      rw [ofItems_cons_of_error h]
      exact .other h ih

theorem Sifted.ofItems_eq (h : Sifted items records rejected) (total : Option Nat) :
    ofItems items total = ⟨records, total, rejected⟩ := by
  induction h with
  | nil => rfl
  | record h _ ih => rw [ofItems_cons_of_ok h, ih]
  | other h _ ih => rw [ofItems_cons_of_error h, ih]

/-- Items are sifted in one way only. -/
theorem Sifted.unique (h : Sifted items records rejected) (h' : Sifted items others n) :
    records = others ∧ rejected = n := by
  simpa using (h.ofItems_eq none).symm.trans (h'.ofItems_eq none)

theorem Sifted.length_add (h : Sifted items records rejected) :
    records.length + rejected = items.length := by
  induction h with
  | nil => rfl
  | record _ _ ih => rw [List.length_cons, List.length_cons, ← ih, Nat.add_right_comm]
  | other _ _ ih => rw [List.length_cons, ← ih, Nat.add_assoc]

theorem Sifted.append (h : Sifted items records rejected) (hlater : Sifted later others n) :
    Sifted (items ++ later) (records ++ others) (rejected + n) := by
  induction h with
  | nil => simpa using hlater
  | record h _ ih => exact ih.record h
  | other h _ ih => simpa [Nat.add_right_comm] using ih.other h

end

/-! ## Bodies -/

/-- A body is the whole text of a page. -/
def Gives (body : List UInt8) (items : List Json) (total : Option Nat) : Prop :=
  ∃ v, IsWholeText body v ∧ IsPage v items total

/-- A body begins with a value that is no page. -/
def BeginsOtherwise (body : List UInt8) : Prop :=
  ∃ v, Begins body v ∧ ∀ items total, ¬IsPage v items total

theorem ofBody_of_gives (h : Gives body items total) :
    ofBody body = .ok (ofItems items total) := by
  obtain ⟨v, hwhole, hpage⟩ := h
  rw [ofBody, Json.read_eq_ok_iff.mpr hwhole]
  simp only [shape?_eq_some_iff.mpr hpage]
  rfl

/-- The shape is looked at before what stands behind the value. -/
theorem ofBody_of_beginsOtherwise (h : BeginsOtherwise body) :
    ofBody body = .error (.malformed .unexpectedBody) := by
  obtain ⟨v, hbegins, hother⟩ := h
  obtain ⟨trailing, hread⟩ := Json.exists_read_iff.mpr hbegins
  have hshape : shape? v = none :=
    Option.eq_none_iff_forall_ne_some.mpr fun (items, total) hsome =>
      hother items total (shape?_eq_some_iff.mp hsome)
  simp only [ofBody, hread, hshape]

/-- What neither is a page nor begins with something else is no text, or it is that of a page with
something behind it. -/
theorem ofBody_of_neither (hgives : ∀ items total, ¬Gives body items total)
    (hother : ¬BeginsOtherwise body) : ∃ fault, ofBody body = .error (.invalidJson fault) := by
  cases hread : Json.read body with
  | error fault => exact ⟨fault, by rw [ofBody, hread]⟩
  | ok reading =>
    obtain ⟨v, trailing⟩ := reading
    cases hshape : shape? v with
    | none =>
      have hbegins : Begins body v := Json.exists_read_iff.mp ⟨trailing, hread⟩
      refine absurd ⟨v, hbegins, fun items total hpage => ?_⟩ hother
      cases hshape.symm.trans (shape?_eq_some_iff.mpr hpage)
    | some page =>
      have hpage := shape?_eq_some_iff.mp hshape
      cases trailing with
      | none => exact absurd ⟨v, Json.read_eq_ok_iff.mp hread, hpage⟩ (hgives page.1 page.2)
      | some p => exact ⟨_, by simp only [ofBody, hread, hshape]; rfl⟩

theorem ofBody_trichotomy (body : List UInt8) :
    (∃ items total, Gives body items total ∧ ofBody body = .ok (ofItems items total))
      ∨ (BeginsOtherwise body ∧ ofBody body = .error (.malformed .unexpectedBody))
      ∨ (((∀ items total, ¬Gives body items total) ∧ ¬BeginsOtherwise body)
          ∧ ∃ fault, ofBody body = .error (.invalidJson fault)) := by
  by_cases hgives : ∃ items total, Gives body items total
  · obtain ⟨items, total, h⟩ := hgives
    exact .inl ⟨items, total, h, ofBody_of_gives h⟩
  by_cases hother : BeginsOtherwise body
  · exact .inr (.inl ⟨hother, ofBody_of_beginsOtherwise hother⟩)
  have hnone : ∀ items total, ¬Gives body items total := fun items total h =>
    hgives ⟨items, total, h⟩
  exact .inr (.inr ⟨⟨hnone, hother⟩, ofBody_of_neither hnone hother⟩)

theorem exists_ofBody_iff :
    (∃ page, ofBody body = .ok page) ↔ ∃ items total, Gives body items total := by
  constructor
  · rintro ⟨page, hpage⟩
    rcases ofBody_trichotomy body with ⟨items, total, h, _⟩ | ⟨_, h⟩ | ⟨_, _, h⟩
    · exact ⟨items, total, h⟩
    · cases hpage.symm.trans h
    · cases hpage.symm.trans h
  · rintro ⟨items, total, h⟩
    exact ⟨_, ofBody_of_gives h⟩

theorem exists_malformed_iff :
    (∃ flaw, ofBody body = .error (.malformed flaw)) ↔ BeginsOtherwise body := by
  constructor
  · rintro ⟨flaw, hflaw⟩
    rcases ofBody_trichotomy body with ⟨_, _, _, h⟩ | ⟨hother, _⟩ | ⟨_, _, h⟩
    · cases hflaw.symm.trans h
    · exact hother
    · cases hflaw.symm.trans h
  · intro h
    exact ⟨_, ofBody_of_beginsOtherwise h⟩

theorem exists_invalidJson_iff :
    (∃ fault, ofBody body = .error (.invalidJson fault)) ↔
      (∀ items total, ¬Gives body items total) ∧ ¬BeginsOtherwise body := by
  constructor
  · rintro ⟨fault, hfault⟩
    rcases ofBody_trichotomy body with ⟨_, _, _, h⟩ | ⟨_, h⟩ | ⟨hneither, _⟩
    · cases hfault.symm.trans h
    · cases hfault.symm.trans h
    · exact hneither
  · rintro ⟨hgives, hother⟩
    exact ofBody_of_neither hgives hother

/-- What comes of a page is what comes of its items in parts. -/
theorem ofBody_of_parts {front middle back : List Json} {first inner last : List Record}
    {a b c : Nat} (h : Gives body (front ++ middle ++ back) total) (hfront : Sifted front first a)
    (hmiddle : Sifted middle inner b) (hback : Sifted back last c) :
    ofBody body = .ok ⟨first ++ inner ++ last, total, a + b + c⟩ := by
  rw [ofBody_of_gives h, ((hfront.append hmiddle).append hback).ofItems_eq]

/-- **What the body of a page has to be, and what comes of it.** Some page comes of a body exactly
if it is the whole text of a page: of a list of items, or of an object with one list of items and at
most one total, with any other members in any order. Then the page has the total of the body, and
its items sifted: the records among them, in their order, and the number of the others.

Each item is sifted by itself. Put other items, or none, in the place of some of them, and write the
body in any way and with any total: what comes of the items before and behind is the same.

The body is malformed exactly if it begins with a value that is no page, whatever stands behind that
value, and otherwise, if no page comes of it, it is no JSON. -/
theorem ofBody_cases (body : List UInt8) :
    ((∃ page, ofBody body = .ok page) ↔ ∃ items total, Gives body items total)
      ∧ (∀ page items total, ofBody body = .ok page → Gives body items total →
          page.total = total ∧ Sifted items page.items page.rejected
            ∧ page.items.length + page.rejected = items.length)
      ∧ (∀ front middle back total, Gives body (front ++ middle ++ back) total →
          ∃ first inner last a b c, Sifted front first a ∧ Sifted middle inner b
            ∧ Sifted back last c
            ∧ ofBody body = .ok ⟨first ++ inner ++ last, total, a + b + c⟩
            ∧ ∀ body' middle' total', Gives body' (front ++ middle' ++ back) total' →
                ∃ inner' b', Sifted middle' inner' b'
                  ∧ ofBody body' = .ok ⟨first ++ inner' ++ last, total', a + b' + c⟩)
      ∧ ((∃ flaw, ofBody body = .error (.malformed flaw)) ↔ BeginsOtherwise body)
      ∧ ((∃ fault, ofBody body = .error (.invalidJson fault)) ↔
          (∀ items total, ¬Gives body items total) ∧ ¬BeginsOtherwise body) := by
  refine ⟨exists_ofBody_iff, ?_, ?_, exists_malformed_iff, exists_invalidJson_iff⟩
  · intro page items total hpage hgives
    cases hpage.symm.trans (ofBody_of_gives hgives)
    have hsifted := sifted_ofItems items total
    exact ⟨rfl, hsifted, hsifted.length_add⟩
  · intro front middle back total hgives
    have hfront := sifted_ofItems front none
    have hback := sifted_ofItems back none
    have hmiddle := sifted_ofItems middle none
    refine ⟨_, _, _, _, _, _, hfront, hmiddle, hback, ofBody_of_parts hgives hfront hmiddle hback,
      fun body' middle' total' hgives' => ?_⟩
    have hmiddle' := sifted_ofItems middle' none
    exact ⟨_, _, hmiddle', ofBody_of_parts hgives' hfront hmiddle' hback⟩

/-- A record in front of null, and the same record with another in the place of null, in bodies that
are written differently; a value of another shape with more behind it; and a page with more behind
it. -/
theorem ofBody_cases_of_samples :
    let text := "\x7b\"id\":1,\"created_at\":\"1970-01-01T00:00:01Z\"\x7d"
    let v := Json.object
      [("id", .number (.integer 1)), ("created_at", .string "1970-01-01T00:00:01Z")]
    let r := Record.new "1" ⟨1, 0⟩
    let body := Text.Utf8.ofString
      ("\x7b\"total\":40,\"items\":[" ++ text ++ ",null]\x7d")
    let body' := Text.Utf8.ofString
      (" \x7b\"items\":[" ++ text ++ ", " ++ text ++ "],\"limit\":[]\x7d ")
    let other := Text.Utf8.ofString "\x7b\"items\":null\x7d ]"
    let more := Text.Utf8.ofString "[1] ]"
    Gives body [v, .null] (some 40) ∧ Gives body' [v, v] none
      ∧ ofBody body = .ok ⟨[r], some 40, 1⟩ ∧ ofBody body' = .ok ⟨[r, r], none, 0⟩
      ∧ BeginsOtherwise other
      ∧ (∀ items total, ¬Gives more items total) ∧ ¬BeginsOtherwise more := by
  intro text v r body body' other more
  have hbody : Gives body [v, .null] (some 40) :=
    ⟨.object [("total", .number (.integer 40)), ("items", .array [v, .null])],
      Json.read_eq_ok_iff.mp (by decide +kernel), shape?_eq_some_iff.mp (by decide +kernel)⟩
  have hbody' : Gives body' [v, v] none :=
    ⟨.object [("items", .array [v, v]), ("limit", .array [])],
      Json.read_eq_ok_iff.mp (by decide +kernel), shape?_eq_some_iff.mp (by decide +kernel)⟩
  have hv : Sifted [v] [r] 0 := .record (by decide +kernel) .nil
  have hnull : Sifted [.null] [] 1 :=
    .other (show Record.ofJson Json.null.canonical = .error .notAnObject by decide +kernel) .nil
  obtain ⟨-, -, hparts, -⟩ := ofBody_cases body
  obtain ⟨first, inner, last, a, b, c, hfirst, hinner, hlast, hpage, hothers⟩ :=
    hparts [v] [.null] [] (some 40) hbody
  obtain ⟨inner', b', hinner', hpage'⟩ := hothers body' [v] none hbody'
  obtain ⟨rfl, rfl⟩ := hv.unique hfirst
  obtain ⟨rfl, rfl⟩ := hnull.unique hinner
  obtain ⟨rfl, rfl⟩ := hv.unique hinner'
  obtain ⟨rfl, rfl⟩ := Sifted.nil.unique hlast
  obtain ⟨-, -, -, hother, -⟩ := ofBody_cases other
  obtain ⟨-, -, -, -, hmore⟩ := ofBody_cases more
  exact ⟨hbody, hbody', hpage, hpage', hother.mp ⟨.unexpectedBody, by decide +kernel⟩,
    hmore.mp ⟨⟨.trailingCharacters, ⟨1, 5⟩⟩, by decide +kernel⟩⟩

end Page

end ActivityFeed
