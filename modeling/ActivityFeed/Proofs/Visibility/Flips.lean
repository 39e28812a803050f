import ActivityFeed.Proofs.Visibility.Latest
import ActivityFeed.Visibility.Host
import Mathlib.Data.List.Induction

/-!
# Watchers are told of flips

Whatever a host does, and through whichever handles, watchers see whether the latest signals let a
connection be held, and they are told of a change exactly if that has flipped since they looked, be
it that it has flipped back.

What reaches a view is the signals through its own handles (`heard`), wherever they were cloned
from. A deed changes a view by at most one signal (`views_perform`), and a run by all of them in
order (`views_run`). The version of the flag is tied to the flips by induction on the run
(`version_viewAfter`), and a watcher to the version by the deed at which it saw the flag last
(`exists_sight`).

Main result: `glance_of_run`.
-/

namespace ActivityFeed

/-! ## What reaches a view -/

namespace Host

/-- The signal that reaches a view at a deed. -/
def heardAt? (h : Host) (view : Nat) : Deed → Option Signal
  | .signal i signal => if h.handles[i]? = some view then some signal else none
  | _ => none

/-- The signals that reach a view at several deeds: those through the handles that are on it at the
time. -/
def heard (h : Host) (view : Nat) : List Deed → List Signal
  | [] => []
  | d :: ds => (h.heardAt? view d).toList ++ (h.perform d).heard view ds

variable {h : Host} {k j : Nat} {v : Visibility} {d : Deed} {ds : List Deed}

theorem run_append (h : Host) (xs ys : List Deed) : h.run (xs ++ ys) = (h.run xs).run ys :=
  List.foldl_append

theorem run_concat (h : Host) (ds : List Deed) (d : Deed) :
    h.run (ds ++ [d]) = (h.run ds).perform d :=
  run_append h ds [d]

theorem heard_append (h : Host) (k : Nat) (xs ys : List Deed) :
    h.heard k (xs ++ ys) = h.heard k xs ++ (h.run xs).heard k ys := by
  induction xs generalizing h with
  | nil => rfl
  | cons x xs ih =>
    show _ ++ (h.perform x).heard k (xs ++ ys) = _
    rw [ih, ← List.append_assoc]
    rfl

theorem heard_concat (h : Host) (k : Nat) (ds : List Deed) (d : Deed) :
    h.heard k (ds ++ [d]) = h.heard k ds ++ ((h.run ds).heardAt? k d).toList := by
  rw [heard_append, heard, heard, List.append_nil]

theorem version_eq (hview : h.views[k]? = some v) : h.version k = v.eligible.version := by
  rw [version, hview]
  rfl

/-- **One deed.** A view receives what reaches it and nothing else. -/
theorem views_perform (hview : h.views[k]? = some v) (d : Deed) :
    (h.perform d).views[k]? = some ((h.heardAt? k d).toList.foldl Visibility.receive v) := by
  cases d with
  | create visible focused =>
    show (h.views ++ [_])[k]? = some v
    rw [List.getElem?_append_left (List.getElem?_eq_some_iff.mp hview).1, hview]
  | clone i => exact hview
  | subscribe i => exact hview
  | look i => exact hview
  | signal i signal =>
    unfold perform heardAt?
    dsimp only
    cases hhandle : h.handles[i]? with
    | none => exact hview
    | some k' =>
      dsimp only
      rw [List.getElem?_modify, hview]
      by_cases heq : k' = k
      · simp [heq]
      · simp [heq]

/-- What becomes of a view at several deeds. -/
def viewAfter (h : Host) (k : Nat) (v : Visibility) (ds : List Deed) : Visibility :=
  (h.heard k ds).foldl Visibility.receive v

theorem viewAfter_concat (h : Host) (k : Nat) (v : Visibility) (ds : List Deed) (d : Deed) :
    h.viewAfter k v (ds ++ [d])
      = ((h.run ds).heardAt? k d).toList.foldl Visibility.receive (h.viewAfter k v ds) := by
  rw [viewAfter, heard_concat, List.foldl_append, viewAfter]

/-- **A whole run.** -/
theorem views_run (hview : h.views[k]? = some v) (ds : List Deed) :
    (h.run ds).views[k]? = some (h.viewAfter k v ds) := by
  induction ds using List.reverseRecOn with
  | nil => exact hview
  | append_singleton ds d ih => rw [run_concat, views_perform ih, viewAfter_concat]

theorem current_viewAfter (hv : v.Current) (h : Host) (k : Nat) (ds : List Deed) :
    (h.viewAfter k v ds).Current :=
  Visibility.current_foldl_receive hv _

/-- At one more deed the flag is set to what the view is then. -/
theorem eligible_viewAfter_concat (hv : v.Current) (h : Host) (k : Nat) (ds : List Deed)
    (d : Deed) :
    (h.viewAfter k v (ds ++ [d])).eligible
      = (h.viewAfter k v ds).eligible.set (h.viewAfter k v (ds ++ [d])).isEligible := by
  rw [viewAfter_concat]
  exact Visibility.eligible_foldl_toList (current_viewAfter hv h k ds) _

/-! ## Flips -/

/-- Whether something that depends on the deeds so far flips at one of `later`, after `earlier`. -/
def Flips (on : List Deed → Bool) (earlier later : List Deed) : Prop :=
  ∃ xs d ys, later = xs ++ d :: ys ∧ on (earlier ++ xs ++ [d]) ≠ on (earlier ++ xs)

variable {on : List Deed → Bool} {earlier later : List Deed}

theorem not_flips_nil : ¬ Flips on earlier [] := by
  rintro ⟨xs, d, ys, hnil, -⟩
  exact List.append_ne_nil_of_right_ne_nil xs (List.cons_ne_nil d ys) hnil.symm

theorem flips_concat : Flips on earlier (later ++ [d])
    ↔ Flips on earlier later ∨ on (earlier ++ later ++ [d]) ≠ on (earlier ++ later) := by
  constructor
  · rintro ⟨xs, e, ys, hsplit, hflip⟩
    cases ys using List.reverseRecOn with
    | nil =>
      obtain ⟨rfl, he⟩ := List.append_inj' hsplit rfl
      obtain rfl : d = e := List.head_eq_of_cons_eq he
      exact .inr hflip
    | append_singleton ys last =>
      rw [← List.cons_append, ← List.append_assoc] at hsplit
      obtain ⟨rfl, -⟩ := List.append_inj' hsplit rfl
      exact .inl ⟨xs, e, ys, rfl, hflip⟩
  · rintro (⟨xs, e, ys, rfl, hflip⟩ | hflip)
    · exact ⟨xs, e, ys ++ [d], by simp, hflip⟩
    · exact ⟨later, d, [], rfl, hflip⟩

/-- **The version counts.** It never goes back, and it has moved on exactly if eligibility has
flipped, be it that it has flipped back. -/
theorem version_viewAfter (hv : v.Current) (h : Host) (k : Nat) (earlier later : List Deed) :
    (h.viewAfter k v earlier).eligible.version
        ≤ (h.viewAfter k v (earlier ++ later)).eligible.version
      ∧ ((h.viewAfter k v (earlier ++ later)).eligible.version
          ≠ (h.viewAfter k v earlier).eligible.version
        ↔ Flips (fun ds => (h.viewAfter k v ds).isEligible) earlier later) := by
  induction later using List.reverseRecOn with
  | nil =>
    rw [List.append_nil]
    exact ⟨Nat.le_refl _, iff_of_false (fun hne => hne rfl) not_flips_nil⟩
  | append_singleton later d ih =>
    obtain ⟨hle, hflips⟩ := ih
    have hversion :=
      congrArg Watched.version (eligible_viewAfter_concat hv h k (earlier ++ later) d)
    rw [Watched.version_set, current_viewAfter hv] at hversion
    rw [flips_concat, ← hflips, ← List.append_assoc]
    by_cases hsame : (h.viewAfter k v (earlier ++ later ++ [d])).isEligible
        = (h.viewAfter k v (earlier ++ later)).isEligible
    · rw [if_pos hsame.symm] at hversion
      rw [hversion]
      exact ⟨hle, (or_iff_left fun hne => hne hsame).symm⟩
    · rw [if_neg (fun heq => hsame heq.symm)] at hversion
      rw [hversion]
      exact ⟨by omega, iff_of_true (by omega) (.inr hsame)⟩

/-! ## Watchers -/

/-- Handles are on views that are there, and watchers watch such views. -/
structure WellFormed (h : Host) : Prop where
  handles : ∀ k ∈ h.handles, k < h.views.length
  watchers : ∀ w ∈ h.watchers, w.view < h.views.length

/-- Whether a watcher sees the flag at a deed: it looks, or it is the new watcher of a view. -/
def Sees (h : Host) (watcher : Nat) : Deed → Prop
  | .look j => j = watcher
  | .subscribe i => watcher = h.watchers.length ∧ (h.handles[i]?).isSome
  | _ => False

theorem length_views_perform (h : Host) (d : Deed) :
    h.views.length ≤ (h.perform d).views.length := by
  cases d with
  | create visible focused => simp [perform]
  | signal i signal =>
    unfold perform
    dsimp only
    cases h.handles[i]? with
    | none => exact Nat.le_refl _
    | some k => exact Nat.le_of_eq (List.length_modify ..).symm
  | clone | subscribe | look => exact Nat.le_refl _

theorem handles_signal (h : Host) (i : Nat) (signal : Signal) :
    (h.perform (.signal i signal)).handles = h.handles
      ∧ (h.perform (.signal i signal)).watchers = h.watchers := by
  unfold perform
  dsimp only
  cases h.handles[i]? <;> exact ⟨rfl, rfl⟩

theorem watchers_look (h : Host) (i j : Nat) :
    (h.perform (.look i)).watchers[j]?
      = h.watchers[j]?.map fun w => if i = j then h.watcher w.view else w :=
  List.getElem?_modify ..

theorem WellFormed.perform (hh : h.WellFormed) (d : Deed) : (h.perform d).WellFormed := by
  -- views are only ever added, so that a place once in the table stays in it
  have hlength := length_views_perform h d
  cases d with
  | create visible focused =>
    refine ⟨fun k hk => ?_, fun w hw => Nat.lt_of_lt_of_le (hh.watchers w hw) hlength⟩
    rcases List.mem_append.mp hk with hk | hk
    · exact Nat.lt_of_lt_of_le (hh.handles k hk) hlength
    · rw [List.mem_singleton.mp hk]
      simp [Host.perform]
  | clone i =>
    refine ⟨fun k hk => ?_, hh.watchers⟩
    rcases List.mem_append.mp hk with hk | hk
    · exact hh.handles k hk
    · exact hh.handles k (List.mem_of_getElem? (Option.mem_toList.mp hk))
  | signal i signal =>
    obtain ⟨hhandles, hwatchers⟩ := handles_signal h i signal
    exact ⟨fun k hk => Nat.lt_of_lt_of_le (hh.handles k (hhandles ▸ hk)) hlength,
      fun w hw => Nat.lt_of_lt_of_le (hh.watchers w (hwatchers ▸ hw)) hlength⟩
  | subscribe i =>
    refine ⟨hh.handles, fun w hw => ?_⟩
    rcases List.mem_append.mp hw with hw | hw
    · exact hh.watchers w hw
    · obtain ⟨k, hk, rfl⟩ := Option.map_eq_some_iff.mp (Option.mem_toList.mp hw)
      exact hh.handles k (List.mem_of_getElem? hk)
  | look i =>
    refine ⟨hh.handles, fun w hw => ?_⟩
    obtain ⟨j, hj⟩ := List.mem_iff_getElem?.mp hw
    rw [watchers_look] at hj
    obtain ⟨w', hw', rfl⟩ := Option.map_eq_some_iff.mp hj
    have hview : w'.view < h.views.length := hh.watchers w' (List.mem_of_getElem? hw')
    split
    · exact hview
    · exact hview

theorem wellFormed_run (ds : List Deed) : (empty.run ds).WellFormed := by
  induction ds using List.reverseRecOn with
  | nil => exact ⟨nofun, nofun⟩
  | append_singleton ds d ih =>
    rw [run_concat]
    exact ih.perform d

/-- **One deed.** A watcher is as it was, or it has seen the present flag. -/
theorem watchers_perform {w : Watcher} (hj : (h.perform d).watchers[j]? = some w) :
    (h.watchers[j]? = some w ∧ d ≠ .look j)
      ∨ (h.Sees j d ∧ w.seen = (h.perform d).version w.view) := by
  cases d with
  | create visible focused => exact .inl ⟨hj, nofun⟩
  | clone i => exact .inl ⟨hj, nofun⟩
  | signal i signal => exact .inl ⟨(handles_signal h i signal).2 ▸ hj, nofun⟩
  | subscribe i =>
    rcases Nat.lt_or_ge j h.watchers.length with hold | hnew
    · exact .inl ⟨by rwa [perform, List.getElem?_append_left hold] at hj, nofun⟩
    · rw [perform, List.getElem?_append_right hnew] at hj
      cases hhandle : h.handles[i]? with
      | none =>
        rw [hhandle] at hj
        cases hj
      | some k =>
        rw [hhandle] at hj
        obtain ⟨hlt, hw⟩ := List.getElem?_eq_some_iff.mp hj
        have hfirst : j - h.watchers.length = 0 := Nat.lt_one_iff.mp hlt
        refine .inr ⟨⟨by omega, by simp [hhandle]⟩, ?_⟩
        simp only [hfirst] at hw
        rw [← hw]
        rfl
  | look i =>
    rw [watchers_look] at hj
    obtain ⟨w', hw', rfl⟩ := Option.map_eq_some_iff.mp hj
    by_cases heq : i = j
    · rw [if_pos heq]
      exact .inr ⟨heq, rfl⟩
    · rw [if_neg heq]
      exact .inl ⟨hw', fun he => heq (Deed.look.inj he)⟩

theorem glance?_eq {w : Watcher} (hj : h.watchers[j]? = some w)
    (hview : h.views[w.view]? = some v) :
    h.glance? j = some ⟨v.eligible.changedSince w.seen, v.eligible.value⟩ := by
  show (h.watchers[j]?.bind fun w => h.views[w.view]?.bind fun v =>
    some (Glance.mk (v.eligible.changedSince w.seen) v.eligible.value)) = _
  rw [hj, Option.bind_some, hview, Option.bind_some]

/-- **A whole run.** A watcher is as it was at the beginning, or there is a deed at which it has
seen the flag last. -/
theorem exists_sight {w : Watcher} (hj : (h.run ds).watchers[j]? = some w) :
    h.watchers[j]? = some w
      ∨ ∃ xs d ys, ds = xs ++ d :: ys ∧ (h.run xs).Sees j d ∧ (∀ e ∈ ys, e ≠ .look j)
        ∧ w.seen = (h.run (xs ++ [d])).version w.view := by
  induction ds using List.reverseRecOn with
  | nil => exact .inl hj
  | append_singleton ds last ih =>
    have hj' := hj
    rw [run_concat] at hj'
    rcases watchers_perform hj' with ⟨hsame, hlast⟩ | ⟨hsees, hseen⟩
    · refine (ih hsame).imp_right ?_
      rintro ⟨xs, d, ys, rfl, hsees, hquiet, hseen⟩
      refine ⟨xs, d, ys ++ [last], by simp, hsees, fun e he => ?_, hseen⟩
      rcases List.mem_append.mp he with he | he
      · exact hquiet e he
      · exact List.mem_singleton.mp he ▸ hlast
    · exact .inr ⟨ds, last, [], rfl, hsees, nofun, run_concat h ds last ▸ hseen⟩

/-! ## Handles -/

theorem isEligible?_eq {i : Nat} (hi : h.handles[i]? = some k) (hview : h.views[k]? = some v) :
    h.isEligible? i = some v.isEligible := by
  show (h.handles[i]?.bind fun k => h.views[k]?.bind fun v => some v.isEligible) = _
  rw [hi, Option.bind_some, hview, Option.bind_some]

/-- A handle stays on its view. -/
theorem handles_perform {i : Nat} (hi : h.handles[i]? = some k) (d : Deed) :
    (h.perform d).handles[i]? = some k := by
  have hlt : i < h.handles.length := (List.getElem?_eq_some_iff.mp hi).1
  cases d with
  | create visible focused => rwa [perform, List.getElem?_append_left hlt]
  | clone i' => rwa [perform, List.getElem?_append_left hlt]
  | signal i' signal => rwa [(handles_signal h i' signal).1]
  | subscribe i' => exact hi
  | look j => exact hi

/-- A clone is on the view of the handle that it was cloned from. -/
theorem handles_clone {i : Nat} (hi : h.handles[i]? = some k) :
    (h.perform (.clone i)).handles[h.handles.length]? = some k := by
  rw [perform, List.getElem?_append_right (Nat.le_refl _), hi, Nat.sub_self]
  rfl

/-- Whoever subscribes through a handle watches the view that it is on. -/
theorem watchers_subscribe {i : Nat} (hi : h.handles[i]? = some k) :
    (h.perform (.subscribe i)).watchers[h.watchers.length]? = some (h.watcher k) := by
  rw [perform, List.getElem?_append_right (Nat.le_refl _), hi, Nat.sub_self]
  rfl

/-- **Watchers are told of flips.** A host has done anything, then made a view with a handle on it,
and then done anything else. Every handle that is on the view, and every watcher of it, tells that
it is eligible exactly if the latest signals of both kinds say so, of those that came through any of
its handles. There is a deed at which the watcher saw the flag last, when it looked or subscribed,
and it is told of a change exactly if eligibility has flipped since. A deed that leaves eligibility
alone leaves the flag and its version alone. Handles stay on their view, a clone is on the view of
the handle that it was cloned from, and whoever subscribes through a handle watches its view. -/
theorem glance_of_run (before ds : List Deed) (visible focused : Bool) :
    let opened := empty.run (before ++ [.create visible focused])
    let k := (empty.run before).views.length
    let h := opened.run ds
    let on := fun ds => isOn visible focused (opened.heard k ds)
    (∀ i, h.handles[i]? = some k → h.isEligible? i = some (on ds))
      ∧ (∀ j w, h.watchers[j]? = some w → w.view = k →
          ∃ hasChanged, h.glance? j = some ⟨hasChanged, on ds⟩
            ∧ ∃ xs d ys, ds = xs ++ d :: ys
              ∧ (opened.run xs).Sees j d ∧ (∀ e ∈ ys, e ≠ .look j)
              ∧ (hasChanged = true ↔ Flips on (xs ++ [d]) ys))
      ∧ (∀ d, on (ds ++ [d]) = on ds →
          (h.perform d).views[k]?.map (·.eligible) = h.views[k]?.map (·.eligible))
      ∧ opened.handles[(empty.run before).handles.length]? = some k
      ∧ (∀ i, h.handles[i]? = some k →
          (∀ d, (h.perform d).handles[i]? = some k)
            ∧ (h.perform (.clone i)).handles[h.handles.length]? = some k
            ∧ (h.perform (.subscribe i)).watchers[h.watchers.length]? = some (h.watcher k)) := by
  intro opened k h on
  -- the view stands at its place in every later table, as the fold of what it was told
  obtain ⟨v, hv⟩ : ∃ v, v = Visibility.new visible focused := ⟨_, rfl⟩
  have hcurrent : v.Current := hv ▸ Visibility.current_new visible focused
  have hopened : opened = (empty.run before).perform (.create visible focused) :=
    run_concat empty before _
  have hview : opened.views[k]? = some v := by
    rw [hopened, hv]
    exact List.getElem?_concat_length
  have hafter : ∀ xs, (opened.run xs).views[k]? = some (opened.viewAfter k v xs) :=
    views_run hview
  have hon : ∀ xs, (opened.viewAfter k v xs).isEligible = on xs := by
    intro xs
    rw [viewAfter, Visibility.isEligible_foldl_receive, hv]
    rfl
  have hvalue : ∀ xs, (opened.viewAfter k v xs).eligible.value = on xs :=
    fun xs => (current_viewAfter hcurrent opened k xs).trans (hon xs)
  refine ⟨?_, ?_, ?_, ?_,
    fun i hi => ⟨handles_perform hi, handles_clone hi, watchers_subscribe hi⟩⟩
  · intro i hi
    rw [isEligible?_eq hi (hafter ds), hon]
  · intro j w hj hw
    have hwatched : h.views[w.view]? = some (opened.viewAfter k v ds) := by
      rw [hw]
      exact hafter ds
    have hglance := glance?_eq hj hwatched
    rw [hvalue] at hglance
    refine ⟨_, hglance, ?_⟩
    rcases exists_sight hj with hold | ⟨xs, d, ys, hds, hsees, hquiet, hseen⟩
    · -- whoever watched before the view was made watches another one
      rw [hopened] at hold
      have hother : w.view < k := (wellFormed_run before).watchers w (List.mem_of_getElem? hold)
      exact absurd hw (Nat.ne_of_lt hother)
    · -- a change since that look is a version since then, and versions count flips
      refine ⟨xs, d, ys, hds, hsees, hquiet, ?_⟩
      obtain ⟨-, hflips⟩ := version_viewAfter hcurrent opened k (xs ++ [d]) ys
      have hsplit : ds = xs ++ [d] ++ ys := by rw [hds, List.append_assoc, List.singleton_append]
      rw [← hsplit, funext hon] at hflips
      rw [hseen, hw, version_eq (hafter _), Watched.changedSince, bne_iff_ne, hflips]
  · intro d hsame
    have hset := eligible_viewAfter_concat hcurrent opened k ds d
    rw [hon, hsame, ← hvalue, Watched.set_value] at hset
    rw [← run_concat, hafter, hafter, Option.map_some, Option.map_some, hset]
  · rw [hopened]
    exact List.getElem?_concat_length

/-- Of two views the second one, which has two handles, loses the focus through one of them and has
it back through the other one, and is then told again that it has it. What happens to the first view
in between is none of its business. -/
theorem glance_of_run_back :
    let opened := empty.run [.create true true, .create true false]
    let ds : List Deed := [.clone 1, .subscribe 2, .signal 1 .focus, .signal 0 .blur, .look 0,
      .signal 2 .blur, .signal 1 .focus]
    let h := opened.run ds
    h.isEligible? 2 = some true
      ∧ (∃ hasChanged, h.glance? 0 = some ⟨hasChanged, true⟩ ∧ hasChanged = true)
      ∧ (h.perform (.signal 2 .focus)).views[1]?.map (·.eligible)
        = h.views[1]?.map (·.eligible) := by
  intro opened ds h
  obtain ⟨heligible, hglance, hunchanged, -⟩ := glance_of_run [.create true true] ds true false
  obtain ⟨hasChanged, hseen, -⟩ := hglance 0 ⟨1, 1⟩ rfl rfl
  have htold : h.glance? 0 = some ⟨true, true⟩ := rfl
  refine ⟨heligible 2 rfl, ⟨hasChanged, hseen, ?_⟩, hunchanged (.signal 2 .focus) rfl⟩
  exact congrArg Glance.hasChanged (Option.some.inj (hseen.symm.trans htold))

end Host

end ActivityFeed
