import ActivityFeed.Page
import ActivityFeed.Proofs.Json.Canonical
import ActivityFeed.Proofs.Json.Context
import Mathlib.Data.List.Forall2

/-!
# A record is the same by every route

The text of a record comes by itself, as the member of an envelope, or as an item of a page.
Wherever it stands it spells the same value (`Json.spells_object`, `Json.spells_list`), and what
becomes of the value is decided by `ofJson` alone, so that a text is a record by all of these routes
or by none.

Main result: `routes_agree`.
-/

namespace ActivityFeed

namespace Json

open Text.Utf8 (ofString ofString_append)

/-! ## Texts put together -/

/-- A text spells a value: the value is read, and nothing stands behind it. -/
def Spells (text : String) (v : Json) : Prop :=
  read (ofString text) = .ok ⟨v, none⟩

/-- Two texts spell the key and the value of a member. -/
def SpellsMember (texts : String × String) (m : String × Json) : Prop :=
  Spells texts.1 (.string m.1) ∧ Spells texts.2 m.2

/-- Members next to each other. -/
def memberTexts : List (String × String) → String
  | [] => ""
  | [(key, value)] => key ++ ":" ++ value
  | (key, value) :: rest => key ++ ":" ++ value ++ "," ++ memberTexts rest

/-- The text of an object with members. -/
def objectText (members : List (String × String)) : String :=
  "\x7b" ++ memberTexts members ++ "\x7d"

/-- The text of a list with one item. -/
def listText (item : String) : String :=
  "[" ++ item ++ "]"

namespace Stage

/-- The key leads to the colon, and the value to its delivery. -/
theorem leads_member (opened : List Opened) (held : Members) (before : String) {mode : Mode}
    {texts : String × String} {m : String × Json} (hmode : AwaitsKey mode)
    (h : SpellsMember texts m) (hroom : opened.length + 1 + m.2.depth ≤ Reader.maxDepth) :
    ∃ s, Leads Step ⟨.object held before :: opened, mode⟩
        (ofString (texts.1 ++ ":" ++ texts.2)) s
      ∧ s.Stands ⟨.object (m :: held) m.1 :: opened, .afterMember⟩ := by
  have hkey := leads_key_of_reads opened (reads_of_read h.1) hmode held before
  have hcolon : Step ⟨.object held m.1 :: opened, .colon⟩ (octet ':')
      ⟨.object held m.1 :: opened, .value⟩ := fun _ => rfl
  obtain ⟨s, hvalue, hstands⟩ := leads_of_reads (.object held m.1 :: opened) (reads_of_read h.2)
    (Or.inl rfl) hroom
  refine ⟨s, ?_, hstands⟩
  rw [ofString_append, ofString_append]
  exact (hkey.append (.single hcolon)).append hvalue

/-- Members lead to one another, with a comma between each two. -/
theorem leads_memberTexts (opened : List Opened) {texts : List (String × String)}
    {members : Members} (h : List.Forall₂ SpellsMember texts members) (hne : texts ≠ [])
    (held : Members) (before : String) {mode : Mode} (hmode : AwaitsKey mode)
    (hroom : opened.length + 1 + memberDepth members ≤ Reader.maxDepth) :
    ∃ s last, Leads Step ⟨.object held before :: opened, mode⟩ (ofString (memberTexts texts)) s
      ∧ s.Stands ⟨.object (members.reverse ++ held) last :: opened, .afterMember⟩ := by
  induction h generalizing held before mode with
  | nil => exact absurd rfl hne
  | @cons text m texts members hfirst hrest ih =>
    rw [memberDepth] at hroom
    obtain ⟨s, hleads, hstands⟩ :=
      leads_member opened held before hmode hfirst (by omega)
    by_cases hnil : texts = []
    · subst hnil
      cases hrest
      exact ⟨s, m.1, hleads, hstands⟩
    · have hcomma : Step s (octet ',') ⟨.object (m :: held) m.1 :: opened, .nextKey⟩ :=
        hstands.step (Or.inl rfl) fun _ => rfl
      obtain ⟨t, last, hlater, hlast⟩ := ih hnil (m :: held) m.1 (Or.inr rfl) (by omega)
      refine ⟨t, last, ?_, by simpa using hlast⟩
      rw [memberTexts, ofString_append, ofString_append]
      · exact (hleads.append (.single hcomma)).append hlater
      · exact hnil

end Stage

/-- **Texts of members, put together, spell the object of those members.** -/
theorem spells_object {texts : List (String × String)} {members : Members}
    (h : List.Forall₂ SpellsMember texts members) (hroom : memberDepth members < Reader.maxDepth) :
    Spells (objectText texts) (.object members) := by
  have hopen := (@Stage.step_open [] .value (Or.inl rfl) (by decide)).2
  unfold Spells objectText
  rw [ofString_append, ofString_append]
  by_cases hnil : texts = []
  · subst hnil
    cases h
    exact Stage.read_of_leads
      (.cons hopen (.single (Stage.step_close_object (Or.inl rfl)))) (.refl _)
  · have hfirst : Stage.AwaitsKey .firstKey := Or.inl rfl
    obtain ⟨s, last, hleads, hstands⟩ :=
      Stage.leads_memberTexts [] h hnil [] "" hfirst (by rw [List.length_nil]; omega)
    have hclose := hstands.step (Or.inr (Or.inr rfl)) (Stage.step_close_object (Or.inr rfl))
    rw [List.append_nil, List.reverse_reverse] at hclose
    exact Stage.read_of_leads (.cons hopen (hleads.append (.single hclose))) (.refl _)

/-- The text of an item between brackets spells the list of that item. -/
theorem spells_list {text : String} {v : Json} (h : Spells text v)
    (hroom : v.depth < Reader.maxDepth) : Spells (listText text) (.array [v]) := by
  have hopen := (@Stage.step_open [] .value (Or.inl rfl) (by decide)).1
  have hfirst : Stage.AwaitsValue .firstItem := Or.inr (Or.inl rfl)
  obtain ⟨s, hleads, hstands⟩ := Stage.leads_of_reads [.array []] (Stage.reads_of_read h) hfirst
    (by rw [List.length_singleton]; omega)
  have hclose := hstands.step (Or.inr (Or.inl rfl)) (Stage.step_close_array (Or.inr rfl))
  unfold Spells listText
  rw [ofString_append, ofString_append]
  exact Stage.read_of_leads (.cons hopen (hleads.append (.single hclose))) (.refl _)

end Json

namespace Record

open Json (Spells SpellsMember Members objectText listText)

/-! ## The routes -/

variable {t : String} {v : Json}

theorem ofPayload_of_spells (h : Spells t v) (envelope : Option String) :
    ofPayload t envelope = ofJson (unwrap envelope v.canonical) := by
  have hparse : Json.parseText t = .ok v.canonical := by
    rw [Json.parseText, Json.parse, show Json.read (Text.Utf8.ofString t) = _ from h]
    rfl
  rw [ofPayload, hparse]

theorem ofText_of_spells (h : Spells t v) :
    ofText t = (ofJson v.canonical).mapError .refused := by
  rw [ofText, show Json.read (Text.Utf8.ofString t) = _ from h]
  dsimp only
  cases ofJson v.canonical <;> rfl

/-- What comes out of an envelope is the last member of its key. -/
theorem unwrap_of_last {before after : Members} {k : String} (h : k ∉ after.map Prod.fst) :
    unwrap (some k) (Json.object (before ++ (k, v) :: after)).canonical = v.canonical := by
  rw [Json.canonical, unwrap, Json.lookup_canonicalMembers_last _ _ h]
  rfl

theorem unwrap_of_not_mem {members : Members} {k : String} (h : k ∉ members.map Prod.fst) :
    unwrap (some k) (Json.object members).canonical = (Json.object members).canonical := by
  rw [Json.canonical, unwrap, Json.lookup_canonicalMembers_of_not_mem _ h]
  rfl

/-- The page with one item. -/
def pageOf (result : Except PayloadError Record) : Page :=
  match result with
  | .ok r => ⟨[r], none, 0⟩
  | .error _ => ⟨[], none, 1⟩

theorem ofItems_singleton (v : Json) : Page.ofItems [v] none = pageOf (ofJson v.canonical) := by
  unfold Page.ofItems pageOf
  cases h : ofJson v.canonical <;> simp [h, Except.toOption]

theorem ofBody_of_spells {body : String} (h : Spells body v) {items : List Json}
    (hshape : Page.shape? v = some (items, none)) :
    Page.ofBody (Text.Utf8.ofString body) = .ok (Page.ofItems items none) := by
  rw [Page.ofBody, show Json.read (Text.Utf8.ofString body) = _ from h]
  dsimp only
  rw [hshape]
  rfl

/-- Whether what stands behind a record is looked at before or after the record makes a difference
only to the error. -/
theorem ofText_eq_ok_iff (text : String) (r : Record) :
    ofText text = .ok r ↔ ofPayload text none = .ok r := by
  rw [ofText, ofPayload, Json.parseText_eq]
  cases Json.read (Text.Utf8.ofString text) with
  | error fault => exact ⟨nofun, nofun⟩
  | ok reading =>
    have hunwrap : unwrap none reading.value.canonical = reading.value.canonical := rfl
    cases hcheck : reading.check <;> cases hrecord : ofJson reading.value.canonical <;>
      simp [hcheck, hrecord, hunwrap, Except.map]

/-- **A record is the same by every route.** Let a text spell a value, and let there be room for two
more arrays or objects around it. Then it is a record by itself, for a frame or for whoever has a
text; as the member of an envelope, whatever other members of other keys stand before or behind it;
and as the item of a page, in either form of its body: the same record by all of these routes, or
none by any. An envelope that is not there changes nothing, and of no text at all does it matter
whether it is taken for a frame's. -/
theorem routes_agree {t : String} {v : Json} (ht : Spells t v) (hdepth : v.depth ≤ 125)
    {k keyText : String} (hk : Spells keyText (.string k))
    {textsBefore textsAfter : List (String × String)} {before after : Members}
    (hbefore : List.Forall₂ SpellsMember textsBefore before)
    (hafter : List.Forall₂ SpellsMember textsAfter after)
    (hother : k ∉ (before ++ after).map Prod.fst)
    (hroom : Json.memberDepth (before ++ after) < Json.Reader.maxDepth) :
    let result := ofPayload t none
    ofText t = result.mapError .refused
      ∧ ofPayload (objectText (textsBefore ++ (keyText, t) :: textsAfter)) (some k) = result
      ∧ Page.ofBody (Text.Utf8.ofString (listText t)) = .ok (pageOf result)
      ∧ Page.ofBody (Text.Utf8.ofString (objectText [("\"items\"", listText t)]))
        = .ok (pageOf result)
      ∧ (∀ members, v = .object members → k ∉ members.map Prod.fst →
        ofPayload t (some k) = result)
      ∧ ∀ text r, ofText text = .ok r ↔ ofPayload text none = .ok r := by
  intro result
  -- every route reads a text that spells a tree around the value, and takes the value out of it
  have hresult : result = ofJson v.canonical := ofPayload_of_spells ht none
  have hlist : Spells (listText t) (.array [v]) :=
    Json.spells_list ht (Nat.lt_of_le_of_lt hdepth (by decide))
  refine ⟨?_, ?_, ?_, ?_, ?_, ofText_eq_ok_iff⟩
  · rw [hresult]
    exact ofText_of_spells ht
  · have hmembers : List.Forall₂ SpellsMember (textsBefore ++ (keyText, t) :: textsAfter)
        (before ++ (k, v) :: after) :=
      List.rel_append hbefore (.cons ⟨hk, ht⟩ hafter)
    have hspells := Json.spells_object hmembers (by
      rw [Json.memberDepth_append] at hroom
      rw [Json.memberDepth_append, Json.memberDepth]
      have hmax : Json.Reader.maxDepth = 127 := rfl
      omega)
    rw [List.map_append, List.mem_append, not_or] at hother
    rw [ofPayload_of_spells hspells, unwrap_of_last hother.2, hresult]
  · rw [ofBody_of_spells hlist rfl, ofItems_singleton, hresult]
  · have hitems : Spells "\"items\"" (.string "items") :=
      Json.read_compact (v := .string "items") rfl (Nat.zero_le _)
    have hshape : Page.shape? (.object [("items", .array [v])]) = some ([v], none) := rfl
    have hbody : Spells (objectText [("\"items\"", listText t)])
        (.object [("items", .array [v])]) :=
      Json.spells_object (.cons ⟨hitems, hlist⟩ .nil) (by
        have hmax : Json.Reader.maxDepth = 127 := rfl
        simp only [Json.memberDepth, Json.depth, Json.itemDepth]
        omega)
    rw [ofBody_of_spells hbody hshape, ofItems_singleton, hresult]
  · rintro members rfl hmember
    rw [ofPayload_of_spells ht, unwrap_of_not_mem hmember, hresult]

/-- A value with a number for its identifier, which it gives twice, between two others. -/
theorem routes_agree_of_twice :
    let v := Json.object [("id", .null), ("created_at", .string "2025-01-01T00:00:00"),
      ("id", .number (.integer 7))]
    let envelope := objectText [((Json.string "n").compact, (Json.array [.null]).compact),
      ((Json.string "comment").compact, v.compact),
      ((Json.string "id").compact, (Json.string "8").compact)]
    Spells v.compact v ∧ v.depth = 1
      ∧ ofPayload v.compact none = .ok (new "7" ⟨1735689600, 0⟩)
      ∧ ofPayload envelope (some "comment") = .ok (new "7" ⟨1735689600, 0⟩)
      ∧ Page.ofBody (Text.Utf8.ofString (listText v.compact))
        = .ok ⟨[new "7" ⟨1735689600, 0⟩], none, 0⟩ := by
  intro v envelope
  have hspells : ∀ {w : Json}, w.isWhole = true → w.depth ≤ Json.Reader.maxDepth →
      Spells w.compact w := Json.read_compact
  have hv : Spells v.compact v := hspells (by decide) (by decide)
  have hresult : ofPayload v.compact none = .ok (new "7" ⟨1735689600, 0⟩) := by
    rw [ofPayload_of_spells hv]
    decide +kernel
  have hmember : ∀ (key : String) (w : Json), w.isWhole = true → w.depth ≤ Json.Reader.maxDepth →
      List.Forall₂ SpellsMember [((Json.string key).compact, w.compact)] [(key, w)] :=
    fun key w hwhole hdepth => .cons ⟨hspells rfl (Nat.zero_le _), hspells hwhole hdepth⟩ .nil
  have hkey : Spells (Json.string "comment").compact (.string "comment") :=
    hspells rfl (Nat.zero_le _)
  obtain ⟨-, henvelope, hpage, -⟩ := routes_agree hv (by decide) hkey
    (hmember "n" (.array [.null]) rfl (by decide)) (hmember "id" (.string "8") rfl (by decide))
    (by decide) (by decide)
  rw [hresult] at henvelope hpage
  exact ⟨hv, by decide, hresult, henvelope, hpage⟩

end Record

end ActivityFeed
