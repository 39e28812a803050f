import ActivityFeed.Proofs.Http.Query
import ActivityFeed.Proofs.Instant.FieldOrder
import ActivityFeed.Proofs.Store.Admission
import ActivityFeed.Record.Basic

/-!
# The newest record is sent again

A request for the stream names the newest record that is held by its time, in the text of a cursor.
The text denotes the last microsecond that is not after that time (`cut_le`, `lt_cut_nanos`), so a
server that keeps what is not older than it has the newest record among what it sends
(`mem_notOlder`). Where two requests follow each other their cursors sort as the times do.

Main result: `timestamp_cursor`.
-/

namespace ActivityFeed

/-- What an inclusive filter leaves: the records that are not older than the instant which the text
in a request denotes. -/
def Http.notOlder (since : List UInt8) (records : List Record) : List Record :=
  records.filter fun r => (Instant.ofText? (Text.Utf8.toText since)).any (· ≤ r.createdAt)

namespace Instant

variable {t : Instant}

/-- What is cut off is less than a microsecond. -/
theorem lt_cut_nanos (t : Instant) : t.nanos < t.cut.nanos + 1000 := by
  show t.nanos < t.nanos / 1000 * 1000 + 1000
  omega

/-- What is cut off does not show in a cursor. -/
theorem cursor_cut (t : Instant) : t.cut.cursor = t.cursor := by
  unfold cursor
  simp only [civil_cut, clockText, Nat.mul_div_cancel _ (show 0 < 1000 by decide)]

/-- A record is among those that are not older than its own cursor. -/
theorem mem_notOlder {r : Record} (h : r.createdAt.IsDated) {records : List Record}
    (hr : r ∈ records) :
    r ∈ Http.notOlder (Text.Utf8.ofString r.createdAt.cursor) records := by
  refine List.mem_filter.mpr ⟨hr, ?_⟩
  rw [Text.Utf8.toText_ofString, ofText?_cursor h]
  exact decide_eq_true (cut_le r.createdAt)

/-- **Cursors are floors, and they keep the order.** The text of an instant's cursor is read as the
instant without what comes after its microseconds, so at the instant or less than a microsecond
before it, and what is read has the same cursor; a later instant has a cursor that is not smaller,
octet by octet. So a request for the stream from the newest record of a store on, whatever calls
have led to that store, asks for an instant that is not after the time of that record, and a server
with an inclusive filter sends the record again. -/
theorem timestamp_cursor (h : t.IsDated) :
    Record.timestamp t.cursor = .ok t.cut
      ∧ t.cut.seconds = t.seconds ∧ t.cut.nanos = t.nanos / 1000 * 1000
      ∧ t.cut ≤ t ∧ t.nanos < t.cut.nanos + 1000
      ∧ t.cut.cursor = t.cursor
      ∧ (∀ u : Instant, u.IsDated → t ≤ u →
          Text.Utf8.ofString t.cursor ≤ Text.Utf8.ofString u.cursor)
      ∧ ∀ (capacity : Nat) (cs : List Store.Call),
          let s := (Store.empty capacity).calls cs
          s.latest = some t →
            (∀ x ∈ s.entries, x.createdAt ≤ t)
              ∧ (∃ r ∈ s.entries, r.createdAt = t ∧ ∀ records, r ∈ records →
                  r ∈ Http.notOlder (Text.Utf8.ofString t.cursor) records)
              ∧ ∀ (c : Config) (request : Http.Request),
                  Http.Request.forStream c s.latest = .ok request →
                    ∃ url, Http.Url.ofText? c.streamUrl = some url
                      ∧ Http.parameters (request.url.query.getD "").toList
                        = Http.parameters (url.query.getD "").toList
                          ++ (("since", t.cursor) :: Http.Request.boardPair c.board).map
                            Http.pairOctets := by
  have hread : Record.timestamp t.cursor = .ok t.cut := by
    rw [Record.timestamp, ofText?_cursor h]
  refine ⟨hread, rfl, rfl, cut_le t, lt_cut_nanos t, cursor_cut t,
    fun u hu hle => cursor_le_cursor h hu hle, ?_⟩
  intro capacity cs s hlatest
  refine ⟨?_, ?_, ?_⟩
  · intro x hx
    have hwell : s.WellFormed := ((Store.empty_wellFormed capacity).calls cs).1
    simpa [hlatest] using Store.createdAt_le_latest hwell hx
  · obtain ⟨r, hfirst, rfl⟩ := Option.map_eq_some_iff.mp hlatest
    exact ⟨r, List.mem_of_head? hfirst, rfl, fun records hr => mem_notOlder h hr⟩
  · intro c request hrequest
    rw [hlatest] at hrequest
    exact Http.parameters_forStream hrequest

/-- A record of the second of sixty at the end of 2016. -/
def leapRecord : Record :=
  .new "leap" ⟨1483228799, 1500000999⟩

/-- A store of that record and an old one. -/
def leapStore : Store :=
  (Store.empty 2).calls [.merge leapRecord, .merge (.new "old" ⟨0, 0⟩)]

/-- The cursor of a second of sixty stands before the one of the second that follows it; a request
says where it begins; and a server sends the record of that time to a reader who holds it. -/
theorem timestamp_cursor_of_leap :
    let t : Instant := ⟨1483228799, 1500000999⟩
    let u : Instant := ⟨1483228800, 0⟩
    t.cursor = "2016-12-31T23:59:60.500000Z" ∧ u.cursor = "2017-01-01T00:00:00.000000Z"
      ∧ Record.timestamp t.cursor = .ok ⟨1483228799, 1500000000⟩
      ∧ Text.Utf8.ofString t.cursor ≤ Text.Utf8.ofString u.cursor
      ∧ (∃ r ∈ leapStore.entries,
          r ∈ Http.notOlder (Text.Utf8.ofString t.cursor) [.new "old" ⟨0, 0⟩, r])
      ∧ ∃ request front, Http.Request.forStream (.new "http://h") leapStore.latest = .ok request
          ∧ Http.parameters (request.url.query.getD "").toList
            = front ++ [Http.pairOctets ("since", t.cursor)] := by
  intro t u
  have ht : t.IsDated := ⟨Or.inr ⟨by decide, by decide⟩, by decide⟩
  have hu : u.IsDated := ⟨Or.inl (by decide), by decide⟩
  have hentries : leapStore.entries = [leapRecord, .new "old" ⟨0, 0⟩] :=
    (Store.entries_mergeAll (Store.empty_wellFormed 2) [leapRecord, .new "old" ⟨0, 0⟩]).trans
      (by decide)
  have hlatest : leapStore.latest = some ⟨1483228799, 1500000999⟩ := by
    rw [Store.latest, hentries]
    rfl
  obtain ⟨hread, -, -, -, -, -, horder, hstores⟩ := timestamp_cursor ht
  obtain ⟨-, ⟨r, hr, -, hsent⟩, hrequests⟩ := hstores 2 _ hlatest
  have hsent := hsent [.new "old" ⟨0, 0⟩, r] (by simp)
  have hmade :
      (Http.Request.forStream (.new "http://h") leapStore.latest).toOption.isSome = true := by
    rw [hlatest]
    decide +kernel
  cases hrequest : Http.Request.forStream (.new "http://h") leapStore.latest with
  | error flaw =>
    rw [hrequest] at hmade
    cases hmade
  | ok request =>
    obtain ⟨url, -, hparameters⟩ := hrequests _ request hrequest
    exact ⟨by decide, by decide, hread.trans (congrArg Except.ok (by decide)),
      horder u hu (by decide), ⟨r, hr, hsent⟩, request, _, rfl, hparameters⟩

end Instant

end ActivityFeed
