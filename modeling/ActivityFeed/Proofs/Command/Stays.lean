import ActivityFeed.Command.Tail
import ActivityFeed.Proofs.Sync.Account
import Mathlib.Data.List.Nodup

/-!
# Every record once while it stays

Whoever follows a feed remembers the identifiers of the last look only. So a record is printed when
it comes into view, not again while it stays, and once more when it comes back: as many times as
there are stays, which are runs, as long as can be, of looks one after another that find it. Changes
of the phase between two looks are none of their business, because what is remembered outlasts them
(`seenAfter_eq`).

A stay is counted where it begins by what is printed and where it ends by how the looks are parted;
`count_printed` carries along whether a stay that began before is still going on.

Main result: `printed_of_wakes`, for any looks at views as stores have them (`IsView`), and
`isView_of_mem_wakes`, which says that a session shows such views.
-/

namespace ActivityFeed.Command.Tail

/-! ## Views -/

/-- Records as a store has them: newest first, no two with one identifier. -/
structure IsView (view : List Record) : Prop where
  distinct : (view.map Record.id).Nodup
  sorted : view.Pairwise fun a b => b.createdAt ≤ a.createdAt

/-- Whether an identifier is in view. -/
def holds (id : String) (view : List Record) : Bool :=
  (view.map Record.id).contains id

/-- The view of a look. -/
def Wake.view? : Wake → Option (List Record)
  | .records view => some view
  | .phase => none

/-- The views of all looks. -/
def views (ws : List Wake) : List (List Record) :=
  ws.filterMap Wake.view?

variable {before : List String} {view : List Record} {ws : List Wake}

theorem fresh_sublist (before : List String) (view : List Record) :
    (fresh before view).Sublist view.reverse :=
  List.filter_sublist

theorem IsView.nodup_fresh (h : IsView view) (before : List String) :
    ((fresh before view).map Record.id).Nodup := by
  have hreverse : (view.reverse.map Record.id).Nodup := by
    rw [List.map_reverse, List.nodup_reverse]
    exact h.distinct
  exact hreverse.sublist ((fresh_sublist before view).map Record.id)

theorem IsView.fresh_sorted (h : IsView view) (before : List String) :
    (fresh before view).Pairwise fun a b => a.createdAt ≤ b.createdAt :=
  (List.pairwise_reverse.mpr h.sorted).sublist (fresh_sublist before view)

/-- What is printed at a look has an identifier once if it has come into view. -/
theorem IsView.count_fresh (h : IsView view) (before : List String) (id : String) :
    ((fresh before view).map Record.id).count id
      = (holds id view && !before.contains id).toNat := by
  have hmem : id ∈ (fresh before view).map Record.id
      ↔ (holds id view && !before.contains id) = true := by
    simp only [List.mem_map, mem_fresh, holds, Bool.and_eq_true, List.contains_iff_mem,
      Bool.not_eq_true', ← Bool.not_eq_true]
    grind
  cases hcame : holds id view && !before.contains id with
  | true => exact List.count_eq_one_of_mem (h.nodup_fresh before) (hmem.mpr hcame)
  | false =>
    exact List.count_eq_zero_of_not_mem fun hid =>
      Bool.false_ne_true (hcame.symm.trans (hmem.mp hid))

/-! ## What is remembered -/

/-- The identifiers seen at the last look, when there were more wake-ups. -/
def seenAfter (before : List String) (ws : List Wake) : List String :=
  ws.foldl seenAt before

theorem seenAfter_eq (before : List String) (ws : List Wake) :
    seenAfter before ws = ((views ws).getLast?.map (·.map Record.id)).getD before := by
  induction ws generalizing before with
  | nil => rfl
  | cons w rest ih =>
    show seenAfter (seenAt before w) rest = _
    rw [ih]
    cases w with
    | phase => rfl
    | records view =>
      show _ = ((view :: views rest).getLast?.map (·.map Record.id)).getD before
      rw [List.getLast?_cons]
      cases (views rest).getLast? with
      | none => rfl
      | some last => rfl

theorem printed_append (before : List String) (xs ys : List Wake) :
    printed before (xs ++ ys) = printed before xs ++ printed (seenAfter before xs) ys := by
  induction xs generalizing before with
  | nil => rfl
  | cons w rest ih => exact congrArg (printedAt before w :: ·) (ih (seenAt before w))

theorem length_printed (before : List String) (ws : List Wake) :
    (printed before ws).length = ws.length := by
  induction ws generalizing before with
  | nil => rfl
  | cons w rest ih => exact congrArg (· + 1) (ih (seenAt before w))

/-- What is printed at one of several wake-ups. -/
theorem getElem?_printed (earlier : List Wake) (w : Wake) (later : List Wake) :
    (printed before (earlier ++ w :: later))[earlier.length]?
      = some (printedAt (seenAfter before earlier) w) := by
  rw [printed_append, List.getElem?_append_right (Nat.le_of_eq (length_printed before earlier)),
    length_printed, Nat.sub_self]
  rfl

/-! ## Stays -/

/-- The stays of an identifier: the views between those in which it is not, as far as there are
any. -/
def stays (id : String) (vs : List (List Record)) : List (List (List Record)) :=
  (vs.splitOnP fun view => !holds id view).filter fun run => !run.isEmpty

/-- Where the parts of a list stand in it: the first one at its front, and each other one behind a
separator; a separator or the end of the list comes behind each. -/
theorem parts_of_splitOnP {α : Type} (p : α → Bool) (vs : List α) :
    ∃ first later, vs.splitOnP p = first :: later
      ∧ (∃ y, vs = first ++ y ∧ (∀ v ∈ y.head?, p v = true) ∧ ∀ v ∈ first, p v = false)
      ∧ ∀ run ∈ later, ∃ x separator y, vs = x ++ separator :: run ++ y ∧ p separator = true
        ∧ (∀ v ∈ y.head?, p v = true) ∧ ∀ v ∈ run, p v = false := by
  induction vs with
  | nil => exact ⟨[], [], rfl, ⟨[], rfl, nofun, nofun⟩, nofun⟩
  | cons v vs ih =>
    obtain ⟨first, later, hparts, ⟨y, hfront, hbehind, hfirst⟩, hlater⟩ := ih
    have hothers : ∀ run ∈ later, ∃ x separator y, v :: vs = x ++ separator :: run ++ y
        ∧ p separator = true ∧ (∀ v ∈ y.head?, p v = true) ∧ ∀ v ∈ run, p v = false := by
      intro run hrun
      obtain ⟨x, separator, y, hvs, hrest⟩ := hlater run hrun
      exact ⟨v :: x, separator, y, congrArg (v :: ·) hvs, hrest⟩
    rw [List.splitOnP_cons_eq_if_modifyHead, hparts]
    cases hv : p v with
    | true =>
      refine ⟨[], first :: later, rfl, ⟨v :: vs, rfl, ?_, nofun⟩, ?_⟩
      · rintro _ ⟨⟩
        exact hv
      · exact List.forall_mem_cons.mpr
          ⟨⟨[], v, y, congrArg (v :: ·) hfront, hv, hbehind, hfirst⟩, hothers⟩
    | false =>
      exact ⟨v :: first, later, rfl,
        ⟨y, congrArg (v :: ·) hfront, hbehind, List.forall_mem_cons.mpr ⟨hv, hfirst⟩⟩, hothers⟩

/-- **What a stay is**: views one after another with the identifier, at least one, and none more
beside them. -/
theorem spec_of_mem_stays {id : String} {vs run : List (List Record)} (h : run ∈ stays id vs) :
    run ≠ [] ∧ (∀ v ∈ run, holds id v = true)
      ∧ ∃ earlier later, vs = earlier ++ run ++ later
        ∧ (∀ v ∈ earlier.getLast?, holds id v = false)
        ∧ ∀ v ∈ later.head?, holds id v = false := by
  obtain ⟨hrun, hnonempty⟩ := List.mem_filter.mp h
  obtain ⟨first, others, hparts, ⟨y, hfront, hbehind, hfirst⟩, hothers⟩ :=
    parts_of_splitOnP (fun view => !holds id view) vs
  simp only [Bool.not_eq_true', Bool.not_eq_false'] at hbehind hfirst hothers
  refine ⟨by simpa using hnonempty, ?_⟩
  rw [hparts] at hrun
  rcases List.mem_cons.mp hrun with rfl | hlater
  · exact ⟨hfirst, [], y, hfront, nofun, hbehind⟩
  · obtain ⟨x, separator, y, hvs, hseparator, hbehind, hheld⟩ := hothers run hlater
    refine ⟨hheld, x ++ [separator], y, by simp [hvs], ?_, hbehind⟩
    simpa using hseparator

/-- Each view with the identifier belongs to a stay. -/
theorem flatten_stays (id : String) (vs : List (List Record)) :
    (stays id vs).flatten = vs.filter (holds id) := by
  unfold stays
  rw [List.flatten_filter_not_isEmpty]
  induction vs with
  | nil => rfl
  | cons v vs ih =>
    obtain ⟨run, runs, hruns⟩ :=
      List.exists_cons_of_ne_nil (List.splitOnP_ne_nil (fun v => !holds id v) vs)
    rw [hruns] at ih
    rw [List.splitOnP_cons_eq_if_modifyHead, hruns, List.filter_cons, ← ih]
    cases holds id v <;> rfl

/-- Whether an identifier is in the first of several views. -/
def holdsFirst (id : String) (vs : List (List Record)) : Bool :=
  vs.head?.any (holds id)

/-- One more view before others begins a stay of its own unless the next view goes on with it. -/
theorem length_stays_cons (id : String) (view : List Record) (vs : List (List Record)) :
    (stays id (view :: vs)).length + (holds id view && holdsFirst id vs).toNat
      = (stays id vs).length + (holds id view).toNat := by
  unfold stays
  rw [List.splitOnP_cons_eq_if_modifyHead]
  cases hview : holds id view with
  | false => rfl
  | true =>
    -- whether the first part is empty tells whether the next view has the identifier
    have hfirst : ∃ run runs, vs.splitOnP (fun v => !holds id v) = run :: runs
        ∧ run.isEmpty = !holdsFirst id vs := by
      cases vs with
      | nil => exact ⟨[], [], rfl, rfl⟩
      | cons next rest =>
        obtain ⟨run, runs, hruns⟩ :=
          List.exists_cons_of_ne_nil (List.splitOnP_ne_nil (fun v => !holds id v) rest)
        rw [List.splitOnP_cons_eq_if_modifyHead, hruns]
        cases hnext : holds id next with
        | false => exact ⟨[], _, rfl, by simp [holdsFirst, hnext]⟩
        | true => exact ⟨next :: run, runs, rfl, by simp [holdsFirst, hnext]⟩
    obtain ⟨run, runs, hruns, hempty⟩ := hfirst
    rw [hruns]
    cases hgoes : holdsFirst id vs <;> simp [hempty, hgoes]

/-- **What is printed, counted.** A stay that goes on from before is the only one that does not
print the identifier once. -/
theorem count_printed (id : String) (h : ∀ v ∈ views ws, IsView v) (before : List String) :
    ((printed before ws).flatten.map Record.id).count id
        + (before.contains id && holdsFirst id (views ws)).toNat
      = (stays id (views ws)).length := by
  induction ws generalizing before with
  | nil => simp [printed, views, stays, holdsFirst]
  | cons w rest ih =>
    cases w with
    | phase => exact ih h before
    | records view =>
      have hviews : views (.records view :: rest) = view :: views rest := rfl
      rw [hviews, List.forall_mem_cons] at h
      have hhere : ((printedAt before (.records view)).map Record.id).count id
          = (holds id view && !before.contains id).toNat := h.1.count_fresh before id
      have hrest : ((printed (seenAt before (.records view)) rest).flatten.map Record.id).count id
            + (holds id view && holdsFirst id (views rest)).toNat
          = (stays id (views rest)).length := ih h.2 (view.map Record.id)
      have hstays := length_stays_cons id view (views rest)
      have hfirst : holdsFirst id (view :: views rest) = holds id view := rfl
      rw [hviews, hfirst, printed, List.flatten_cons, List.map_append, List.count_append, hhere]
      cases hcame : holds id view <;> cases hbefore : before.contains id <;>
        simp only [hcame, Bool.true_and, Bool.false_and, Bool.not_true, Bool.not_false,
          Bool.toNat_true, Bool.toNat_false] at hrest hstays ⊢ <;>
        omega

/-- **Every record once while it stays.** Whatever the views are that are looked at, and whatever
happens to the phase in between: at each look those of its records are printed that were not there
at the look before, each once and oldest first, and at a change of the phase none; so in the end an
identifier has been printed as many times as it had stays. -/
theorem printed_of_wakes (ws : List Wake) (h : ∀ v ∈ views ws, IsView v) :
    (∀ earlier view later, ws = earlier ++ .records view :: later →
        ∃ out, (printed [] ws)[earlier.length]? = some out
          ∧ (∀ r, r ∈ out ↔
              r ∈ view ∧ r.id ∉ ((views earlier).getLast?.getD []).map Record.id)
          ∧ (out.map Record.id).Nodup
          ∧ out.Sublist view.reverse
          ∧ out.Pairwise fun a b => a.createdAt ≤ b.createdAt)
      ∧ (∀ earlier later, ws = earlier ++ .phase :: later →
          (printed [] ws)[earlier.length]? = some [])
      ∧ (printed [] ws).length = ws.length
      ∧ ∀ id, ((printed [] ws).flatten.map Record.id).count id = (stays id (views ws)).length := by
  refine ⟨?_, ?_, length_printed [] ws, fun id => by simpa using count_printed id h []⟩
  · rintro earlier view later rfl
    have hview : IsView view := h view (by simp [views, Wake.view?])
    have hseen : seenAfter [] earlier = ((views earlier).getLast?.getD []).map Record.id := by
      rw [seenAfter_eq]
      cases (views earlier).getLast? <;> rfl
    rw [← hseen]
    exact ⟨_, getElem?_printed earlier (.records view) later, fun r => mem_fresh,
      hview.nodup_fresh _, fresh_sublist _ view, hview.fresh_sorted _⟩
  · rintro earlier later rfl
    exact getElem?_printed earlier .phase later

/-- A record is pushed out and comes back, with a change of the phase while it is there and one
while it is not. -/
theorem printed_of_wakes_back :
    let a := Record.new "a" ⟨1, 0⟩
    let b := Record.new "b" ⟨2, 0⟩
    let ws : List Wake := [.records [a], .phase, .records [b, a], .records [b], .phase,
      .records [b, a]]
    (∀ v ∈ views ws, IsView v)
      ∧ printed [] ws = [[a], [], [b], [], [], [a]]
      ∧ ((printed [] ws).flatten.map Record.id).count "a" = 2 := by
  intro a b ws
  have hone : ∀ r : Record, IsView [r] := fun _ =>
    ⟨List.nodup_singleton _, List.pairwise_singleton ..⟩
  have htwo : IsView [b, a] := ⟨by decide, by decide⟩
  have hviews : ∀ v ∈ views ws, IsView v := by
    show ∀ v ∈ [[a], [b, a], [b], [b, a]], IsView v
    simp only [List.forall_mem_cons, hone, htwo, List.not_mem_nil, true_and, false_imp_iff,
      implies_true]
  obtain ⟨-, -, -, hcount⟩ := printed_of_wakes ws hviews
  exact ⟨hviews, by decide, (hcount "a").trans (by decide)⟩

/-! ## Sessions -/

/-- A store that is in order is a view. -/
theorem isView_of_wellFormed {s : Store} (h : s.WellFormed) : IsView s.entries :=
  ⟨h.distinct, h.sorted⟩

theorem views_append (xs ys : List Wake) : views (xs ++ ys) = views xs ++ views ys :=
  List.filterMap_append

theorem eq_of_mem_views_wakesBetween {s next : Session} {v : List Record}
    (h : v ∈ views (wakesBetween s next)) : v = next.feed.store.entries := by
  unfold wakesBetween at h
  dsimp only at h
  rw [views_append] at h
  rcases List.mem_append.mp h with hphase | hrecords
  · split at hphase <;> cases hphase
  · split at hrecords
    · exact List.mem_singleton.mp hrecords
    · cases hrecords

/-- Whoever follows a session looks at views, wherever the session has come from. -/
theorem isView_of_mem_wakes {c : Config} {s : Session} (h : Session.Reached c s) (n : Nat) :
    ∀ v ∈ views (wakes s n), IsView v := by
  induction n generalizing s with
  | zero => exact nofun
  | succ n ih =>
    rw [wakes]
    cases hstep : s.step? .signals with
    | none => exact nofun
    | some next =>
      obtain ⟨as, rfl⟩ := Session.exists_play_step hstep
      have hnext : Session.Reached c (s.play as) := h.play as
      intro v hv
      rw [views_append] at hv
      rcases List.mem_append.mp hv with hhere | hlater
      · rw [eq_of_mem_views_wakesBetween hhere]
        exact isView_of_wellFormed hnext.wellFormed.1
      · exact ih hnext v hlater

variable {c : Config} {page : Except Failure Page}
  {stream : Option (Except Failure Http.Response)}

/-- A session that has a script from the beginning is as good as one that is given it later. -/
theorem reached_scripted (c : Config) (page : Except Failure Page)
    (stream : Option (Except Failure Http.Response)) :
    Session.Reached c { Session.initial c .always with script := script page stream } := by
  refine ⟨⟨fun n => ?_, ?_, nofun, fun _ a ha => ?_, nofun⟩, [],
    ⟨rfl, rfl, nofun, fun _ _ => rfl, fun _ => rfl, rfl⟩⟩
  · rcases stream with _ | _ | r
    case some.ok =>
      cases n <;>
        simp [script, Script.isHeld, Script.awaited, Answer.connection?, Task.reading?,
          Session.initial]
    all_goals
      simp [script, Script.isHeld, Script.awaited, Script.empty, Task.reading?, Session.initial]
  · rcases stream with _ | _ | r
    case some.ok => exact List.nodup_singleton 0
    all_goals exact List.nodup_nil
  · rcases stream with _ | _ | r <;> cases ha

theorem reached_opened {s : Session} (h : opened c page stream = .ok s) : Session.Reached c s := by
  unfold opened at h
  cases hnew : Session.new c .always with
  | error cause =>
    rw [hnew] at h
    cases h
  | ok session =>
    obtain ⟨-, rfl⟩ := Session.new_eq_ok_iff.mp hnew
    rw [hnew] at h
    have hstart : Session.start { Session.initial c .always with script := script page stream }
        = .ok s := h
    have hperform : Session.perform { Session.initial c .always with script := script page stream }
        .start = s := by
      unfold Session.perform
      rw [hstart]
    exact hperform ▸ (reached_scripted c page stream).perform .start

/-- Following a feed prints an identifier as many times as it has stays in the views of the
session. -/
theorem count_of_follow {records : List Record} (h : follow c page stream = .ok records) :
    ∃ s, opened c page stream = .ok s
      ∧ ∀ id, (records.map Record.id).count id
        = (stays id (views (wakes s s.workload))).length := by
  unfold follow at h
  cases hopened : opened c page stream with
  | error cause =>
    rw [hopened] at h
    cases h
  | ok s =>
    rw [hopened] at h
    cases h
    refine ⟨s, rfl, fun id => ?_⟩
    simpa using count_printed id (isView_of_mem_wakes (reached_opened hopened) s.workload) []

end ActivityFeed.Command.Tail
