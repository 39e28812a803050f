import ActivityFeed.Visibility

/-!
# The latest signals

A view is eligible if the latest signal of each kind says so, and what was the case at first counts
as long as there is none (`isOn`, `isEligible_foldl_receive`). The flag that watchers see is never
behind (`Current`).
-/

namespace ActivityFeed

namespace Signal

/-- What a signal says of the visibility, if it is about that. -/
def visible? : Signal → Option Bool
  | .appear => some true
  | .vanish => some false
  | .focus | .blur => none

/-- What a signal says of the focus, if it is about that. -/
def focused? : Signal → Option Bool
  | .focus => some true
  | .blur => some false
  | .appear | .vanish => none

end Signal

/-- Whether the latest signals say that a view is visible and that it is focused. What was the case
before the first ones counts where there is none. -/
def isOn (visible focused : Bool) (signals : List Signal) : Bool :=
  (signals.filterMap Signal.visible?).getLastD visible
    && (signals.filterMap Signal.focused?).getLastD focused

theorem getLastD_filterMap_cons {α β : Type} (f : α → Option β) (a : α) (as : List α) (b : β) :
    ((a :: as).filterMap f).getLastD b = (as.filterMap f).getLastD ((f a).getD b) := by
  rw [List.filterMap_cons]
  cases f a with
  | none => rfl
  | some b' => exact List.getLastD_cons

namespace Visibility

/-- Watchers see what the signals so far come to. -/
def Current (v : Visibility) : Prop :=
  v.eligible.value = v.isEligible

variable {v : Visibility}

theorem current_new (visible focused : Bool) : (new visible focused).Current :=
  rfl

theorem current_refresh (v : Visibility) : v.refresh.Current :=
  Watched.value_set _ _

theorem current_receive (v : Visibility) (signal : Signal) : (v.receive signal).Current := by
  cases signal <;> exact current_refresh _

theorem current_foldl_receive {v : Visibility} (h : v.Current) (signals : List Signal) :
    (signals.foldl receive v).Current := by
  induction signals generalizing v with
  | nil => exact h
  | cons signal signals ih => exact ih (current_receive v signal)

theorem visible_receive (v : Visibility) (signal : Signal) :
    (v.receive signal).visible = signal.visible?.getD v.visible := by
  cases signal <;> rfl

theorem focused_receive (v : Visibility) (signal : Signal) :
    (v.receive signal).focused = signal.focused?.getD v.focused := by
  cases signal <;> rfl

theorem eligible_receive (v : Visibility) (signal : Signal) :
    (v.receive signal).eligible = v.eligible.set (v.receive signal).isEligible := by
  cases signal <;> rfl

/-- **Eligibility is what the latest signals say.** -/
theorem isEligible_foldl_receive (v : Visibility) (signals : List Signal) :
    (signals.foldl receive v).isEligible = isOn v.visible v.focused signals := by
  induction signals generalizing v with
  | nil => rfl
  | cons signal signals ih =>
    rw [List.foldl_cons, ih, visible_receive, focused_receive, isOn, isOn,
      getLastD_filterMap_cons, getLastD_filterMap_cons]

/-- Receiving at most one signal sets the flag to what the view is then. -/
theorem eligible_foldl_toList (hv : v.Current) (heard : Option Signal) :
    (heard.toList.foldl receive v).eligible
      = v.eligible.set (heard.toList.foldl receive v).isEligible := by
  cases heard with
  | none =>
    show v.eligible = v.eligible.set v.isEligible
    rw [← hv, Watched.set_value]
  | some signal => exact eligible_receive v signal

end Visibility

end ActivityFeed
