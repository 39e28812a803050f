import ActivityFeed.Proofs.Frame.Written
import ActivityFeed.Proofs.Instant.Text
import ActivityFeed.Proofs.Json.Canonical
import ActivityFeed.Proofs.Json.RoundTrip
import ActivityFeed.Record.Basic

/-!
# Records survive the wire

A record is written as an object, its modelled members first, as one line of text, and the line is
sent as the data of a frame. This module puts together that each of these layers is read back: the
text gives the object (`Json.parseText_compact`), under each key of which is found what was written
there (`lookup_canonicalMembers`), and that is enough to make the record again (`ofJson_toJson`),
by itself or out of an envelope, and out of the frame that arrives.

Main result: `read_of_written`.
-/

namespace ActivityFeed.Record

open Json (Members)
open EventStream (IsLine)

/-- The records that can be read back: the identifier is as reading leaves it, the creation time
has a four-digit year, and the members that are not modelled are an object of their own without
modelled keys. A map of members is the same as its list in canonical form. -/
structure IsWritable (r : Record) : Prop where
  named : r.id ≠ ""
  trimmed : Text.trimmed r.id = r.id
  dated : r.createdAt.IsDated
  canonical : (Json.object r.extra).canonical = .object r.extra
  unmodelled : ∀ m ∈ r.extra, m.1 ∉ modelledKeys
  whole : (Json.object r.extra).isWhole = true

/-- The members that are not modelled are an object of their own without modelled keys. -/
structure IsApart (r : Record) : Prop where
  canonical : (Json.object r.extra).canonical = .object r.extra
  unmodelled : ∀ m ∈ r.extra, m.1 ∉ modelledKeys

theorem IsWritable.isApart {r : Record} (h : r.IsWritable) : r.IsApart :=
  ⟨h.canonical, h.unmodelled⟩

/-! ## What is written under each key -/

/-- The members for texts that may be absent. -/
def textMembers (keys : List String) (texts : List (Option String)) : Members :=
  (keys.zip texts).filterMap fun (key, text) => text.map fun t => (key, .string t)

theorem keys_textMembers (keys : List String) (texts : List (Option String)) :
    ((textMembers keys texts).map Prod.fst).Sublist keys := by
  induction keys generalizing texts with
  | nil => exact List.Sublist.refl _
  | cons key keys ih =>
    rcases texts with _ | ⟨_ | t, texts⟩
    · exact List.nil_sublist _
    · exact (ih texts).cons key
    · exact (ih texts).cons_cons key

theorem lookup_textMembers {keys : List String} (hnodup : keys.Nodup)
    {texts : List (Option String)} {key : String} {text : Option String}
    (h : (key, text) ∈ keys.zip texts) :
    (textMembers keys texts).lookup key = text.map .string := by
  induction keys generalizing texts with
  | nil => simp at h
  | cons k keys ih =>
    obtain ⟨hfresh, hkeys⟩ := List.nodup_cons.mp hnodup
    cases texts with
    | nil => simp at h
    | cons t texts =>
      rw [List.zip_cons_cons] at h
      rcases List.mem_cons.mp h with heq | hlater
      · cases heq
        cases text with
        | none =>
          -- an absent text leaves no member, and none of the later keys is this one
          exact Json.Members.lookup_of_not_mem fun hmem =>
            hfresh ((keys_textMembers keys texts).subset hmem)
        | some s => exact (Json.Members.lookup_cons_ite ..).trans (if_pos rfl)
      · have hother : key ≠ k := by
          rintro rfl
          exact hfresh (List.of_mem_zip hlater).1
        cases t with
        | none => exact ih hkeys hlater
        | some s =>
          exact ((Json.Members.lookup_cons_ite ..).trans (if_neg hother)).trans (ih hkeys hlater)

variable {r : Record}

/-- The members that are modelled. -/
def modelled (r : Record) : Members :=
  ("id", .string r.id) :: ("created_at", .string r.createdAt.text) :: textMembers textKeys r.texts

theorem members_eq (r : Record) : r.members = r.modelled ++ r.extra :=
  rfl

theorem keys_modelled (r : Record) : (r.modelled.map Prod.fst).Sublist modelledKeys :=
  ((keys_textMembers textKeys r.texts).cons_cons _).cons_cons _

/-- The modelled members are texts. -/
theorem exists_string_of_mem_modelled {m : String × Json} (h : m ∈ r.modelled) :
    ∃ s, m.2 = .string s := by
  simp only [modelled, textMembers, List.mem_cons, List.mem_filterMap,
    Option.map_eq_some_iff] at h
  rcases h with rfl | rfl | ⟨_, _, _, _, rfl⟩ <;> exact ⟨_, rfl⟩

/-- A member that is not modelled is found under its key only among the others. -/
theorem lookup_modelled_of_not_mem {l : String} (h : l ∉ modelledKeys) :
    r.modelled.lookup l = none :=
  Json.Members.lookup_of_not_mem fun hmem => h ((keys_modelled r).subset hmem)

theorem IsApart.lookup_extra (h : r.IsApart) {l : String} (hl : l ∈ modelledKeys) :
    r.extra.lookup l = none := by
  refine Json.Members.lookup_of_not_mem fun hmem => ?_
  obtain ⟨m, hm, rfl⟩ := List.mem_map.mp hmem
  exact h.unmodelled m hm hl

theorem IsApart.sorted_extra (h : r.IsApart) : Json.Members.Sorted r.extra :=
  Json.sorted_of_canonical h.canonical

theorem IsApart.nodup_members (h : r.IsApart) : (r.members.map Prod.fst).Nodup := by
  rw [members_eq, List.map_append, List.nodup_append]
  refine ⟨(keys_modelled r).nodup (by decide), h.sorted_extra.nodup, ?_⟩
  rintro l hl _ hl' rfl
  obtain ⟨m, hm, rfl⟩ := List.mem_map.mp hl'
  exact h.unmodelled m hm ((keys_modelled r).subset hl)

/-- The canonical members of a record. -/
def canonicalMembers (r : Record) : Members :=
  Json.canonicalMembers [] r.members

theorem IsApart.lookup_canonicalMembers (h : r.IsApart) (l : String) :
    r.canonicalMembers.lookup l
      = ((r.modelled.lookup l).or (r.extra.lookup l)).map Json.canonical := by
  rw [canonicalMembers, Json.lookup_canonicalMembers [] h.nodup_members, members_eq,
    List.lookup_append]
  simp

/-- Canonical members hold the texts of a record under their keys. -/
theorem IsApart.lookup_text (h : r.IsApart) {key : String} {text : Option String}
    (hmem : (key, text) ∈ textKeys.zip r.texts) :
    r.canonicalMembers.lookup key = text.map .string := by
  have hkey : key ∈ textKeys := (List.of_mem_zip hmem).1
  have hid : key ≠ "id" := by
    rintro rfl
    exact absurd hkey (by decide)
  have htime : key ≠ "created_at" := by
    rintro rfl
    exact absurd hkey (by decide)
  rw [h.lookup_canonicalMembers, modelled, Json.Members.lookup_cons_ite, if_neg hid,
    Json.Members.lookup_cons_ite, if_neg htime, lookup_textMembers (by decide) hmem,
    h.lookup_extra (List.mem_cons_of_mem _ (List.mem_cons_of_mem _ hkey))]
  cases text <;> rfl

/-- What is not modelled is what it was, sorted as it was. -/
theorem IsApart.filter_canonicalMembers (h : r.IsApart) :
    (r.canonicalMembers.filter fun m => !modelledKeys.contains m.1) = r.extra := by
  have hsorted : Json.Members.Sorted r.canonicalMembers :=
    Json.sorted_canonicalMembers List.Pairwise.nil _
  -- both sides are sorted, so that it is enough to look up each key
  refine Json.Members.eq_of_lookup (List.Pairwise.filter _ hsorted) h.sorted_extra fun l => ?_
  have hfound : (r.extra.lookup l).map Json.canonical = r.extra.lookup l := by
    have hextra := Json.lookup_canonicalMembers [] h.sorted_extra.nodup l
    rw [Json.canonicalMembers_of_canonical h.canonical] at hextra
    simpa using hextra.symm
  rw [Json.Members.lookup_filter (fun k => !modelledKeys.contains k), h.lookup_canonicalMembers]
  by_cases hl : l ∈ modelledKeys
  · simp [hl, h.lookup_extra hl]
  · rw [lookup_modelled_of_not_mem hl, Option.none_or, hfound]
    simp [hl]

/-! ## Reading a record back -/

theorem identifier_id {id : String} (hnamed : id ≠ "") (htrimmed : Text.trimmed id = id) :
    identifier (some (.string id)) = .ok id := by
  simp [identifier, htrimmed, hnamed]

theorem creationTime_text {t : Instant} (h : t.IsDated) :
    creationTime (some (.string t.text)) = .ok t := by
  simp [creationTime, timestamp, Instant.ofText?_text h]

theorem textMember_of_lookup {members : Members} {key : String} {text : Option String}
    (h : members.lookup key = text.map .string) : textMember members key = .ok text := by
  unfold textMember
  rw [h]
  cases text <;> rfl

/-- **What comes back of a record** depends on its identifier and its creation time only: the rest
is made again as it was. -/
theorem IsApart.ofJson_toJson (h : r.IsApart) :
    ofJson r.toJson.canonical = (do
      let id ← identifier (some (.string r.id))
      let createdAt ← creationTime (some (.string r.createdAt.text))
      return { r with id, createdAt }) := by
  have hid : r.canonicalMembers.lookup "id" = some (.string r.id) := by
    rw [h.lookup_canonicalMembers]
    rfl
  have htime : r.canonicalMembers.lookup "created_at" = some (.string r.createdAt.text) := by
    rw [h.lookup_canonicalMembers]
    rfl
  have htexts : ∀ m ∈ textKeys.zip r.texts, textMember r.canonicalMembers m.1 = .ok m.2 :=
    fun m hm => textMember_of_lookup (h.lookup_text hm)
  simp only [textKeys, texts, List.zip_cons_cons, List.forall_mem_cons] at htexts
  obtain ⟨hmessage, hagentId, hagentName, hagentRole, htaskId, htaskTitle, hboardId, hboardName,
    -⟩ := htexts
  show ofMembers r.canonicalMembers = _
  unfold ofMembers
  rw [hid, htime, hmessage, hagentId, hagentName, hagentRole, htaskId, htaskTitle, hboardId,
    hboardName, h.filter_canonicalMembers]
  rfl

/-- **A record is made again from its value.** -/
theorem IsWritable.ofJson_toJson (h : r.IsWritable) : ofJson r.toJson.canonical = .ok r := by
  rw [h.isApart.ofJson_toJson, identifier_id h.named h.trimmed, creationTime_text h.dated]
  rfl

/-! ## The texts that bring a record -/

/-- The numbers of a record are those of the members that are not modelled. -/
theorem isWhole_toJson (h : (Json.object r.extra).isWhole = true) : r.toJson.isWhole = true := by
  refine (Json.membersWhole_iff _).mpr fun m hm => ?_
  rcases List.mem_append.mp (members_eq r ▸ hm) with hm | hm
  · obtain ⟨s, hs⟩ := exists_string_of_mem_modelled hm
    rw [hs]
    rfl
  · exact (Json.membersWhole_iff _).mp h m hm

theorem IsWritable.isWhole_toJson (h : r.IsWritable) : r.toJson.isWhole = true :=
  Record.isWhole_toJson h.whole

/-- A record in an envelope. -/
def enveloped (r : Record) (key : String) : Json :=
  .object [(key, r.toJson)]

theorem isLine_compact {v : Json} (h : v.isWhole = true) : IsLine v.compact := by
  have hprinted := Json.isPrinted_chars v h
  rw [IsLine, Json.compact, String.toList_ofList]
  exact ⟨fun hmem => absurd (hprinted _ hmem) (by decide),
    fun hmem => absurd (hprinted _ hmem) (by decide)⟩

theorem IsWritable.ofPayload_text (h : r.IsWritable)
    (hdepth : r.toJson.depth ≤ Json.Reader.maxDepth) : ofPayload r.text none = .ok r := by
  rw [ofPayload, text, Json.parseText_compact h.isWhole_toJson hdepth]
  exact h.ofJson_toJson

theorem IsWritable.ofText_text (h : r.IsWritable)
    (hdepth : r.toJson.depth ≤ Json.Reader.maxDepth) : ofText r.text = .ok r := by
  rw [ofText, text, Json.read_compact h.isWhole_toJson hdepth]
  simp only [h.ofJson_toJson]
  rfl

theorem IsWritable.isWhole_enveloped (h : r.IsWritable) (key : String) :
    (r.enveloped key).isWhole = true := by
  refine (Json.membersWhole_iff _).mpr fun m hm => ?_
  rw [List.mem_singleton.mp hm]
  exact h.isWhole_toJson

theorem IsWritable.ofPayload_enveloped (h : r.IsWritable) {key : String}
    (hdepth : (r.enveloped key).depth ≤ Json.Reader.maxDepth) :
    ofPayload (r.enveloped key).compact (some key) = .ok r := by
  have hunwrapped : unwrap (some key) (r.enveloped key).canonical = r.toJson.canonical := by
    simp [enveloped, Json.canonical, Json.canonicalMembers, Json.Members.insert, unwrap]
  rw [ofPayload, Json.parseText_compact (h.isWhole_enveloped key) hdepth]
  show ofJson (unwrap (some key) (r.enveloped key).canonical) = _
  rw [hunwrapped]
  exact h.ofJson_toJson

/-- A frame with a text arrives alone, however its octets are cut, and brings the record. -/
def Arrives (r : Record) (text : String) (envelope : Option String) : Prop :=
  ∀ (event : String) (chunks : List (List UInt8)), event ≠ "" → IsLine event →
    chunks.flatten = Scenario.frameOctets event text →
    ∃ frame, (Decoder.fresh.pushAll chunks).1 = [frame] ∧ frame.event = event
      ∧ ofPayload frame.data envelope = .ok r

theorem arrives_of_isLine {text : String} {envelope : Option String} (hline : IsLine text)
    (hread : ofPayload text envelope = .ok r) : Arrives r text envelope :=
  fun event _ hne hevent h =>
    ⟨Frame.new event text, EventStream.frames_of_sent hne hevent hline h, rfl, hread⟩

/-- **Records survive the wire.** What is written of a record is one line of text; as far as the
reader goes down into a text it is read as the record, by itself or out of an envelope, and so is
the one frame that it arrives in. -/
theorem read_of_written (h : r.IsWritable) :
    IsLine r.text
      ∧ (r.toJson.depth ≤ Json.Reader.maxDepth →
          ofPayload r.text none = .ok r ∧ ofText r.text = .ok r ∧ Arrives r r.text none)
      ∧ ∀ key, (r.enveloped key).depth ≤ Json.Reader.maxDepth →
          ofPayload (r.enveloped key).compact (some key) = .ok r
            ∧ Arrives r (r.enveloped key).compact (some key) := by
  have hline : IsLine r.text := isLine_compact h.isWhole_toJson
  refine ⟨hline, fun hdepth => ?_, fun key hdepth => ?_⟩
  · have hread := h.ofPayload_text hdepth
    exact ⟨hread, h.ofText_text hdepth, arrives_of_isLine hline hread⟩
  · have hread := h.ofPayload_enveloped hdepth
    exact ⟨hread, arrives_of_isLine (isLine_compact (h.isWhole_enveloped key)) hread⟩

/-- A record of a leap second, with a message that has to be escaped and members that nest. -/
def leapSecond : Record :=
  { new "e7" ⟨1483228799, 1500000000⟩ with
    message := some "\"é\"\r\n\x01"
    extra :=
      [("nested", .array [.null, .object [("", .number (.integer (-9223372036854775808)))]]),
        ("seen", .number (.integer 18446744073709551615))] }

theorem read_of_written_leapSecond :
    leapSecond.IsWritable
      ∧ leapSecond.toJson.depth = 3
      ∧ ofPayload leapSecond.text none = .ok leapSecond
      ∧ ofText leapSecond.text = .ok leapSecond
      ∧ ofPayload (leapSecond.enveloped "comment").compact (some "comment") = .ok leapSecond
      ∧ Arrives leapSecond (leapSecond.enveloped "comment").compact (some "comment") := by
  have h : leapSecond.IsWritable :=
    { named := by decide
      trimmed := by decide
      dated := ⟨Or.inr (by decide), by decide, by decide⟩
      canonical := by decide +kernel
      unmodelled := by decide
      whole := by decide }
  obtain ⟨-, hbare, hwrapped⟩ := read_of_written h
  have hdepth : leapSecond.toJson.depth = 3 := by decide
  obtain ⟨hread, htext, -⟩ := hbare (by rw [hdepth]; decide)
  exact ⟨h, hdepth, hread, htext, hwrapped "comment" (by decide)⟩

end ActivityFeed.Record
