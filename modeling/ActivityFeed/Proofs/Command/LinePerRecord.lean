import ActivityFeed.Command.Outcome
import ActivityFeed.Proofs.Instant.Fields
import ActivityFeed.Proofs.Record.Routes
import ActivityFeed.Proofs.Store.Invariant

/-!
# How many lines a record takes

For people a record is to be one line. Its message cannot break that line, because the line feeds of
a message become blanks; the names before the message are shown as they are, and each line feed in
one of them begins a further line (`lineFeeds_line`). So a snapshot prints as many lines as it
has records exactly if no shown name holds a line feed, and a name can be made that looks like
another record (`output_of_name_with_lineFeed`).

Main result: `outcome_of_snapshot`.
-/

namespace ActivityFeed

-- The zero of a sum is the numeral, whatever else is in scope.
attribute [local instance (2000)] Zero.ofOfNat0

/-! ## Line feeds -/

namespace Text

/-- The number of line feeds in a text. -/
def lineFeeds (s : String) : Nat := s.toList.count '\n'

theorem lineFeeds_eq_zero_iff {s : String} : lineFeeds s = 0 ↔ '\n' ∉ s.toList :=
  List.count_eq_zero

@[simp] theorem lineFeeds_append (s t : String) :
    lineFeeds (s ++ t) = lineFeeds s + lineFeeds t := by
  rw [lineFeeds, String.toList_append, List.count_append]
  rfl

end Text

open Text (lineFeeds lineFeeds_eq_zero_iff)

namespace Instant

theorem lineFeed_not_mem_padded (width n : Nat) : '\n' ∉ Text.padded width n :=
  fun h => absurd (isDigit_of_mem_padded '\n' h) (by decide)

theorem lineFeed_not_mem_yearText (year : Int) : '\n' ∉ yearText year := by
  have hdigits : '\n' ∉ Text.padded 4 year.natAbs := lineFeed_not_mem_padded 4 _
  unfold yearText
  dsimp only
  split
  · simpa using hdigits
  · split
    · simpa using hdigits
    · exact hdigits

theorem lineFeeds_display (t : Instant) : lineFeeds t.display = 0 := by
  rw [lineFeeds_eq_zero_iff, display, String.toList_ofList]
  simp [dateText, clockText, lineFeed_not_mem_yearText, lineFeed_not_mem_padded]

end Instant

/-! ## The line of a record -/

namespace Record

/-- The texts that the line of a record shows as they are. -/
def shownNames (r : Record) : List String :=
  r.who :: (r.boardName.toList ++ r.taskTitle.toList)

theorem lineFeeds_joinLines (s : String) : lineFeeds (joinLines s) = 0 := by
  rw [lineFeeds_eq_zero_iff, joinLines, String.toList_ofList, List.mem_map]
  rintro ⟨c, -, hc⟩
  split at hc
  next => exact absurd hc (by decide)
  next hother => exact hother hc

theorem lineFeeds_place (r : Record) :
    lineFeeds r.place = ((r.boardName.toList ++ r.taskTitle.toList).map lineFeeds).sum := by
  have hopen : lineFeeds " [" = 0 := by decide
  have hslash : lineFeeds " / " = 0 := by decide
  have hclose : lineFeeds "]" = 0 := by decide
  have hnone : lineFeeds "" = 0 := by decide
  unfold place
  cases r.boardName <;> cases r.taskTitle <;> simp [hopen, hslash, hclose, hnone]

/-- **Whose line feeds a line has.** The line of a record has the line feeds of the names in it, and
no others: none of its message, and none of its own. -/
theorem lineFeeds_line (r : Record) : lineFeeds r.line = (r.shownNames.map lineFeeds).sum := by
  have hmessage : lineFeeds ((r.message.map joinLines).getD "") = 0 := by
    cases r.message with
    | none => rfl
    | some message => exact lineFeeds_joinLines message
  have hzone : lineFeeds "Z  " = 0 := by decide
  have hgap : lineFeeds "  " = 0 := by decide
  unfold line
  simp only [Text.lineFeeds_append, r.createdAt.lineFeeds_display, hzone, hgap, hmessage,
    r.lineFeeds_place, shownNames, List.map_cons, List.sum_cons]
  omega

/-- The line of a record is one line exactly if no name in it has a line feed. -/
theorem lineFeed_not_mem_line_iff (r : Record) :
    '\n' ∉ r.line.toList ↔ ∀ name ∈ r.shownNames, '\n' ∉ name.toList := by
  rw [← lineFeeds_eq_zero_iff, lineFeeds_line, List.sum_eq_zero_iff_forall_eq_nat,
    List.forall_mem_map]
  exact forall₂_congr fun _ _ => lineFeeds_eq_zero_iff

end Record

/-! ## Lines of an output -/

namespace Command

/-- What stands in the lines of an output; behind the last line feed stands nothing. -/
theorem splitAt_unlines (texts : List String) :
    Text.splitAt '\n' (Outcome.unlines texts).toList
      = (texts.flatMap fun text => Text.splitAt '\n' text.toList) ++ [[]] := by
  induction texts with
  | nil => rfl
  | cons text rest ih =>
    have hline : (Outcome.unlines (text :: rest)).toList
        = text.toList ++ '\n' :: (Outcome.unlines rest).toList := by
      simp [Outcome.unlines, String.toList_join]
    rw [hline, Text.splitAt_append_cons, ih, List.flatMap_cons, List.append_assoc]

/-- Each text of an output ends a line, and so does each line feed in it. -/
theorem lineFeeds_unlines (texts : List String) :
    lineFeeds (Outcome.unlines texts) = texts.length + (texts.map lineFeeds).sum := by
  induction texts with
  | nil => rfl
  | cons text rest ih =>
    have hend : lineFeeds "\n" = 1 := by decide
    have hline : Outcome.unlines (text :: rest) = text ++ "\n" ++ Outcome.unlines rest := by
      simp [Outcome.unlines, String.join_cons]
    rw [hline, Text.lineFeeds_append, Text.lineFeeds_append, hend, ih, List.length_cons,
      List.map_cons, List.sum_cons]
    omega

/-- As many lines as texts: no text has a line feed. -/
theorem lineFeeds_unlines_eq_length_iff {texts : List String} :
    lineFeeds (Outcome.unlines texts) = texts.length ↔ ∀ text ∈ texts, '\n' ∉ text.toList := by
  rw [lineFeeds_unlines, Nat.add_eq_left, List.sum_eq_zero_iff_forall_eq_nat, List.forall_mem_map]
  exact forall₂_congr fun _ _ => lineFeeds_eq_zero_iff

/-! ## The command -/

theorem runSnapshot_of_page {c : Config} {server : Server} {request : Http.Request}
    {response : Http.Response} {page : Page} (hrequest : Http.Request.forSnapshot c = .ok request)
    (hreply : server.snapshot = .response response) (hpage : Http.page response = .ok page)
    (format : Format) :
    runSnapshot c format server = .ofLines (pageLines format c.capacity page) none [request] := by
  have hfetch : (Http.fetchSnapshot c fun _ => server.snapshot) = .ok page := by
    unfold Http.fetchSnapshot Http.send
    rw [hrequest, hreply]
    exact hpage
  have hreaching : reaching (.ok request) (.response response) = [request] := rfl
  unfold runSnapshot
  rw [hfetch, hrequest, hreply, hreaching]

/-- **A snapshot for people** prints the records of the page that are kept, oldest first, each with
the lines of its own text and no others. The text of a record has the line feeds of the names in it,
so there is one line for each record and one more for each line feed in a name that is shown. There
are as many lines as records exactly if no such name holds a line feed, whatever else the records
hold. -/
theorem outcome_of_snapshot {c : Config} {server : Server} {request : Http.Request}
    {response : Http.Response} {page : Page} (hcheck : c.check = .ok ())
    (hrequest : Http.Request.forSnapshot c = .ok request)
    (hreply : server.snapshot = .response response) (hpage : Http.page response = .ok page) :
    let kept := ((Store.empty c.capacity).seed page.items).2.entries
    let outcome := Invocation.outcome ⟨c, .text, .snapshot⟩ server
    (∀ r : Record, lineFeeds r.line = (r.shownNames.map lineFeeds).sum
        ∧ ('\n' ∉ r.line.toList ↔ ∀ name ∈ r.shownNames, '\n' ∉ name.toList))
      ∧ outcome = ⟨0, Outcome.unlines (kept.reverse.map Record.line), none, [request]⟩
      ∧ (kept.reverse.Pairwise fun a b => a.createdAt ≤ b.createdAt)
      ∧ Text.splitAt '\n' outcome.output.toList
        = (kept.reverse.flatMap fun r => Text.splitAt '\n' r.line.toList) ++ [[]]
      ∧ lineFeeds outcome.output
        = kept.length + (kept.map fun r => (r.shownNames.map lineFeeds).sum).sum
      ∧ (lineFeeds outcome.output = kept.length ↔
          ∀ r ∈ kept, ∀ name ∈ r.shownNames, '\n' ∉ name.toList) := by
  intro kept outcome
  have houtcome : outcome = .ofLines (kept.reverse.map Record.line) none [request] := by
    show Invocation.outcome ⟨c, .text, .snapshot⟩ server = _
    unfold Invocation.outcome
    simp only [hcheck, runSnapshot_of_page hrequest hreply hpage]
    rfl
  have houtput : outcome.output = Outcome.unlines (kept.reverse.map Record.line) := by
    rw [houtcome]
    rfl
  have hsorted : kept.Pairwise fun a b => b.createdAt ≤ a.createdAt :=
    ((Store.empty_wellFormed c.capacity).seed page.items).sorted
  refine ⟨fun r => ⟨r.lineFeeds_line, r.lineFeed_not_mem_line_iff⟩, houtcome,
    List.pairwise_reverse.mpr hsorted, ?_, ?_, ?_⟩
  · rw [houtput, splitAt_unlines, List.flatMap_map]
  · rw [houtput, lineFeeds_unlines, List.length_map, List.length_reverse, List.map_map,
      List.map_reverse, List.sum_reverse]
    simp only [Function.comp_def, Record.lineFeeds_line]
  · have hlength : kept.length = (kept.reverse.map Record.line).length := by
      rw [List.length_map, List.length_reverse]
    rw [houtput, hlength, lineFeeds_unlines_eq_length_iff, List.forall_mem_map]
    simp only [List.mem_reverse, Record.lineFeed_not_mem_line_iff]

/-- A page of two records, of which the newer one has a message of two lines and the older one a
board and a task. -/
theorem outcome_of_snapshot_two :
    let c := Config.new "http://h"
    let a := { Record.new "a" ⟨1, 0⟩ with boardName := some "B", taskTitle := some "T" }
    let b := { Record.new "b" ⟨61, 0⟩ with message := some "x\ny" }
    let texts :=
      ["[\x7b\"id\":\"b\",\"created_at\":\"1970-01-01 00:01:01\",\"message\":\"x\\ny\"\x7d,",
        "\x7b\"id\":\"a\",\"created_at\":\"1970-01-01 00:00:01\",",
        "\"board_name\":\"B\",\"task_title\":\"T\"\x7d]"]
    let response : Http.Response := .new 200 (texts.map Text.Utf8.ofString) .complete
    let server : Server := ⟨.response response, .unreachable⟩
    let outcome := Invocation.outcome ⟨c, .text, .snapshot⟩ server
    c.check = .ok () ∧ (Http.Request.forSnapshot c).toOption.isSome = true
      ∧ Http.page response = .ok ⟨[b, a], none, 0⟩
      ∧ outcome.output = "1970-01-01 00:00:01Z  - [B / T]  \n1970-01-01 00:01:01Z  -  x y\n"
      ∧ lineFeeds outcome.output = 2 := by
  intro c a b texts response server outcome
  have hcheck : c.check = .ok () := by decide +kernel
  have hsendable : (Http.Request.forSnapshot c).toOption.isSome = true := by decide +kernel
  have hreply : server.snapshot = .response response := rfl
  have hpage : Http.page response = .ok ⟨[b, a], none, 0⟩ := by decide +kernel
  have hgrown : ([b, a].foldl Store.append (Store.empty c.capacity)).entries = [b, a] := by
    decide +kernel
  have hsorted : [b, a].Pairwise fun x y => y.createdAt ≤ x.createdAt := by decide
  have hkept : ((Store.empty c.capacity).seed [b, a]).2.entries = [b, a] := by
    rw [Store.entries_seed (Store.empty_wellFormed _), hgrown, Store.inOrder_of_sorted hsorted]
    rfl
  cases hrequest : Http.Request.forSnapshot c with
  | error flaw =>
    rw [hrequest] at hsendable
    cases hsendable
  | ok request =>
    obtain ⟨-, hprinted, -⟩ := outcome_of_snapshot hcheck hrequest hreply hpage
    have houtcome : outcome
        = ⟨0, Outcome.unlines ([b, a].reverse.map Record.line), none, [request]⟩ := by
      rw [← hkept]
      exact hprinted
    rw [houtcome]
    dsimp only
    exact ⟨hcheck, rfl, hpage, by decide +kernel, by decide +kernel⟩

/-- **A name with a line feed makes a line of its own.** The payload of one record, whose agent is
named so that what stands behind the line feed looks like another record, and the snapshot of it:
one record is kept, two lines are printed. -/
theorem output_of_name_with_lineFeed :
    let c := Config.new "http://h"
    let payload := "\x7b\"id\":\"x\",\"created_at\":\"2025-01-01T00:00:00Z\","
      ++ "\"agent_name\":\"a\\n2025-01-01 00:00:00Z  b\"\x7d"
    let r := { Record.new "x" ⟨1735689600, 0⟩ with agentName := some "a\n2025-01-01 00:00:00Z  b" }
    let body := Text.Utf8.ofString ("[" ++ payload ++ "]")
    let server : Server := ⟨.response (.new 200 [body] .complete), .unreachable⟩
    let outcome := Invocation.outcome ⟨c, .text, .snapshot⟩ server
    Record.ofPayload payload none = .ok r
      ∧ r.line = "2025-01-01 00:00:00Z  a\n2025-01-01 00:00:00Z  b  "
      ∧ '\n' ∈ r.line.toList
      ∧ Page.ofBody body = .ok ⟨[r], none, 0⟩
      ∧ ((Store.empty c.capacity).seed [r]).2.entries.length = 1
      ∧ outcome.failure = none
      ∧ lineFeeds outcome.output = 2 := by
  decide +kernel

end Command

end ActivityFeed
