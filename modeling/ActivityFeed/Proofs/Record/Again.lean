import ActivityFeed.Proofs.Instant.Accepted
import ActivityFeed.Proofs.Json.Range
import ActivityFeed.Proofs.Record.Routes
import ActivityFeed.Proofs.Record.Wire

/-!
# Which records are accepted again

A record that was accepted can be written, and what is written of it can be read. Whatever payload
it came in, its identifier is as reading leaves it (`identifier_again`), and its other members are
an object of their own that a text brought (`isApart_of_ofMembers`), so that both come back as they
were. The creation time is the one thing that may not: its year has to be one of four digits.

Main result: `again_of_accepted`.
-/

namespace ActivityFeed

namespace Json

theorem integerText_ne_nil (n : Int) : integerText n ≠ [] := by
  unfold integerText
  split
  · exact List.cons_ne_nil _ _
  · exact Nat.toDigits_ne_nil

theorem isSpace_of_mem_integerText {n : Int} {c : Char} (h : c ∈ integerText n) :
    Text.isSpace c = false := by
  have hdigits : ∀ {d : Char}, d ∈ Nat.toDigits 10 n.natAbs → Text.isSpace d = false :=
    fun hd => Text.isSpace_of_isDigit (Text.isDigit_of_mem_decimal hd)
  unfold integerText at h
  split at h
  · rcases List.mem_cons.mp h with rfl | h
    · rfl
    · exact hdigits h
  · exact hdigits h

/-- What is in an envelope was brought by the text of the envelope. -/
theorem IsBrought.unwrap {v : Json} (h : v.IsBrought) (envelope : Option String) :
    (Record.unwrap envelope v).IsBrought := by
  unfold Record.unwrap
  split
  next key members =>
    cases hfound : members.lookup key with
    | none => exact h
    | some inner => exact h.of_mem (Members.mem_of_lookup hfound)
  next => exact h

end Json

namespace Record

open Json (Members Spells)
open Instant (hasFourDigits)

variable {r : Record}

/-! ## What an accepted record is like -/

theorem exists_of_bind {α β ε : Type} {x : Except ε α} {f : α → Except ε β} {b : β}
    (h : (x >>= f) = .ok b) : ∃ a, x = .ok a ∧ f a = .ok b := by
  cases x with
  | error => cases h
  | ok a => exact ⟨a, rfl, h⟩

/-- Where the parts of a record come from. -/
theorem parts_of_ofMembers {members : Members} (h : ofMembers members = .ok r) :
    identifier (members.lookup "id") = .ok r.id
      ∧ creationTime (members.lookup "created_at") = .ok r.createdAt
      ∧ r.extra = members.filter fun m => !modelledKeys.contains m.1 := by
  unfold ofMembers at h
  obtain ⟨id, hid, h⟩ := exists_of_bind h
  obtain ⟨createdAt, htime, h⟩ := exists_of_bind h
  -- eight texts
  obtain ⟨_, -, h⟩ := exists_of_bind h
  obtain ⟨_, -, h⟩ := exists_of_bind h
  obtain ⟨_, -, h⟩ := exists_of_bind h
  obtain ⟨_, -, h⟩ := exists_of_bind h
  obtain ⟨_, -, h⟩ := exists_of_bind h
  obtain ⟨_, -, h⟩ := exists_of_bind h
  obtain ⟨_, -, h⟩ := exists_of_bind h
  obtain ⟨_, -, h⟩ := exists_of_bind h
  cases h
  exact ⟨hid, htime, rfl⟩

theorem members_of_ofPayload {payload : String} {envelope : Option String}
    (h : ofPayload payload envelope = .ok r) :
    ∃ members, (Json.object members).IsBrought ∧ ofMembers members = .ok r := by
  unfold ofPayload at h
  split at h
  next => cases h
  next v hparse =>
    have hbrought := (Json.isBrought_of_parseText hparse).unwrap envelope
    cases hvalue : unwrap envelope v with
    | object members =>
      rw [hvalue] at h hbrought
      exact ⟨members, hbrought, h⟩
    | null | bool | number | string | array =>
      rw [hvalue] at h
      cases h

/-- **An identifier that was accepted** is accepted again as it is. -/
theorem identifier_again {value : Option Json} {id : String} (h : identifier value = .ok id) :
    identifier (some (.string id)) = .ok id := by
  unfold identifier at h
  split at h
  next => cases h
  next raw =>
    dsimp only at h
    split at h
    next => cases h
    next hnamed =>
      cases h
      refine identifier_id (by simpa using hnamed) ?_
      simp [Text.trimmed, Text.trim_trim]
  next n =>
    cases h
    refine identifier_id ?_ ?_
    · exact fun hempty => Json.integerText_ne_nil n (String.ofList_eq_empty_iff.mp hempty)
    · rw [Text.trimmed, String.toList_ofList,
        Text.trim_eq_self fun c hc => Json.isSpace_of_mem_integerText hc]
  next => cases h

theorem timestamp_eq_ok_iff {raw : String} {t : Instant} :
    timestamp raw = .ok t ↔ Instant.ofText? raw = some t := by
  unfold timestamp
  cases Instant.ofText? raw <;> simp

/-- A creation time that was accepted is a timestamp. -/
theorem timestamp_of_creationTime {value : Option Json} {t : Instant}
    (h : creationTime value = .ok t) : ∃ raw, timestamp raw = .ok t := by
  unfold creationTime at h
  split at h
  next => cases h
  next raw => exact ⟨raw, h⟩
  next => cases h

/-- **A timestamp that was accepted** is accepted again as it is written, in the years 0 to 9999. -/
theorem timestamp_again {raw : String} {t : Instant} (h : timestamp raw = .ok t) :
    timestamp t.text = if hasFourDigits t.civil.date.year then .ok t
      else .error (.invalidTimestamp t.text) := by
  rw [timestamp, Instant.ofText?_text_of_ofText? (timestamp_eq_ok_iff.mp h)]
  by_cases hyear : hasFourDigits t.civil.date.year
  · rw [if_pos hyear, if_pos hyear]
  · rw [if_neg hyear, if_neg hyear]

/-! ## What is written of it -/

/-- A record is as deep as the members that are not modelled. -/
theorem depth_toJson (r : Record) : r.toJson.depth = (Json.object r.extra).depth := by
  have hmodelled : Json.memberDepth r.modelled = 0 := by
    refine Nat.le_zero.mp (Json.memberDepth_le_iff.mpr fun m hm => ?_)
    obtain ⟨s, hs⟩ := exists_string_of_mem_modelled hm
    rw [hs]
    exact Nat.le_refl 0
  rw [toJson, Json.depth, members_eq, Json.memberDepth_append, hmodelled, Nat.zero_max, Json.depth]

/-- A record of an object that a text brought. -/
theorem isApart_of_ofMembers {members : Members} (hbrought : (Json.object members).IsBrought)
    (h : ofMembers members = .ok r) : r.IsApart ∧ (Json.object r.extra).IsBrought := by
  obtain ⟨-, -, hextra⟩ := parts_of_ofMembers h
  have hfilter := hbrought.filter fun m => !modelledKeys.contains m.1
  rw [← hextra] at hfilter
  refine ⟨⟨hfilter.canonical, fun m hm => ?_⟩, hfilter⟩
  rw [hextra] at hm
  simpa using (List.mem_filter.mp hm).2

/-- What comes back of an accepted record is up to its creation time. -/
theorem spells_text_of_accepted {payload : String} {envelope : Option String}
    (h : ofPayload payload envelope = .ok r)
    (hfloats : ∀ f, .float f ∉ Json.memberNumbers r.extra) :
    Spells r.text r.toJson
      ∧ ofJson r.toJson.canonical = (timestamp r.createdAt.text).map fun t =>
        { r with createdAt := t } := by
  obtain ⟨members, hbrought, hmembers⟩ := members_of_ofPayload h
  obtain ⟨hid, -, -⟩ := parts_of_ofMembers hmembers
  obtain ⟨hapart, hextra⟩ := isApart_of_ofMembers hbrought hmembers
  refine ⟨Json.read_compact (isWhole_toJson (Json.isWhole_of_inRange hextra.range hfloats)) ?_, ?_⟩
  · rw [depth_toJson]
    exact hextra.depth
  · have htime : creationTime (some (.string r.createdAt.text)) = timestamp r.createdAt.text := rfl
    rw [hapart.ofJson_toJson, identifier_again hid, htime]
    cases timestamp r.createdAt.text <;> rfl

/-- **What is accepted can be written and read again just in the years 0 to 9999.** Whatever
timestamp is accepted, the text that is written of its instant denotes that very instant, unless
the year is outside them, be it that an offset has moved it there or that it was read with a sign:
then the text has a sign too and a `Z`, and is refused. So it is with every record that is accepted
and whose members beyond the modelled ones hold no floating-point numbers: its own text brings it
again, or is refused for its creation time. -/
theorem again_of_accepted (raw payload : String) (envelope : Option String) :
    (∀ t, timestamp raw = .ok t →
      timestamp t.text = if hasFourDigits t.civil.date.year then .ok t
        else .error (.invalidTimestamp t.text))
      ∧ ∀ r, ofPayload payload envelope = .ok r →
        (∀ f, .float f ∉ Json.memberNumbers r.extra) →
          ofPayload r.text none = (if hasFourDigits r.createdAt.civil.date.year then .ok r
              else .error (.invalidTimestamp r.createdAt.text))
            ∧ ofText r.text = if hasFourDigits r.createdAt.civil.date.year then .ok r
              else .error (.refused (.invalidTimestamp r.createdAt.text)) := by
  refine ⟨fun t h => timestamp_again h, fun r h hfloats => ?_⟩
  obtain ⟨hspells, hvalue⟩ := spells_text_of_accepted h hfloats
  obtain ⟨members, -, hmembers⟩ := members_of_ofPayload h
  obtain ⟨-, htime, -⟩ := parts_of_ofMembers hmembers
  obtain ⟨raw, hraw⟩ := timestamp_of_creationTime htime
  have hpayload : ofPayload r.text none = ofJson r.toJson.canonical :=
    ofPayload_of_spells hspells none
  rw [hpayload, ofText_of_spells hspells, hvalue, timestamp_again hraw]
  by_cases hyear : hasFourDigits r.createdAt.civil.date.year
  · rw [if_pos hyear, if_pos hyear, if_pos hyear]
    exact ⟨rfl, rfl⟩
  · rw [if_neg hyear, if_neg hyear, if_neg hyear]
    exact ⟨rfl, rfl⟩

/-- A number for an identifier, and a leap second that the offset moves back to the year before. -/
theorem again_of_accepted_moved :
    let t : Instant := ⟨1483228799, 1000000000⟩
    let v := Json.object [("id", .number (.integer 7)),
      ("created_at", .string "2017-01-01T00:59:60+01:00"), ("n", .array [.number (.integer 5)])]
    let r := { new "7" t with extra := [("n", .array [.number (.integer 5)])] }
    timestamp "2017-01-01T00:59:60+01:00" = .ok t
      ∧ t.text = "2016-12-31T23:59:60Z"
      ∧ timestamp t.text = .ok t
      ∧ ofPayload v.compact none = .ok r
      ∧ ofPayload r.text none = .ok r
      ∧ ofText r.text = .ok r := by
  intro t v r
  have htime : timestamp "2017-01-01T00:59:60+01:00" = .ok t := by decide +kernel
  have hyear : hasFourDigits t.civil.date.year := ⟨by decide, by decide⟩
  have hspells : Spells v.compact v := Json.read_compact (by decide) (by decide)
  have hread : ofPayload v.compact none = .ok r := by
    rw [ofPayload_of_spells hspells]
    decide +kernel
  have hfloats : ∀ f, .float f ∉ Json.memberNumbers r.extra := by
    intro f hf
    cases List.mem_singleton.mp hf
  obtain ⟨htimes, hrecords⟩ :=
    again_of_accepted "2017-01-01T00:59:60+01:00" v.compact none
  have hagain := htimes t htime
  obtain ⟨hbare, htext⟩ := hrecords r hread hfloats
  have hsame : hasFourDigits r.createdAt.civil.date.year := hyear
  rw [if_pos hyear] at hagain
  rw [if_pos hsame] at hbare htext
  exact ⟨htime, by decide +kernel, hagain, hread, hbare, htext⟩

/-- One hour behind UTC the year 9999 ends in the year 10000, which is written with a sign and five
digits and is not read again. -/
theorem refused_of_year10000 :
    let t : Instant := ⟨253402304399, 0⟩
    let v := Json.object [("id", .string "x"), ("created_at", .string "9999-12-31T23:59:59-01:00")]
    timestamp "9999-12-31T23:59:59-01:00" = .ok t
      ∧ t.text = "+10000-01-01T00:59:59Z"
      ∧ timestamp t.text = .error (.invalidTimestamp "+10000-01-01T00:59:59Z")
      ∧ ofPayload v.compact none = .ok (new "x" t)
      ∧ ofPayload (new "x" t).text none
        = .error (.invalidTimestamp "+10000-01-01T00:59:59Z") := by
  intro t v
  have htext : t.text = "+10000-01-01T00:59:59Z" := by decide +kernel
  have hspells : Spells v.compact v := Json.read_compact (by decide) (by decide)
  have hwritten : Spells (new "x" t).text (new "x" t).toJson :=
    Json.read_compact (isWhole_toJson (by decide)) (by decide)
  refine ⟨by decide +kernel, htext, ?_, ?_, ?_⟩
  · rw [htext]
    decide +kernel
  · rw [ofPayload_of_spells hspells]
    decide +kernel
  · rw [ofPayload_of_spells hwritten]
    decide +kernel

end Record

end ActivityFeed
