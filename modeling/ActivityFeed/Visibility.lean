/-!
# Watched values and visibility

A watched value has a version that grows with every change, so that a watcher who remembers the
version it saw can tell whether there was a change since, even if the value has come back to what it
was.

A feed may hold a connection only while its view is visible and has the input focus. Watchers of
that flag are told of its changes only, not of every signal.
-/

namespace ActivityFeed

/-- A value and the number of its changes. -/
structure Watched (α : Type) where
  value : α
  version : Nat
deriving DecidableEq, Repr, Inhabited

namespace Watched

variable {α : Type}

/-- A value that has not changed yet. -/
def new (a : α) : Watched α := ⟨a, 0⟩

/-- A new value, which counts as a change even if it is the old one. -/
def put (w : Watched α) (a : α) : Watched α := ⟨a, w.version + 1⟩

/-- A new value, which counts as a change only if it is another one. -/
def set [DecidableEq α] (w : Watched α) (a : α) : Watched α :=
  if w.value = a then w else w.put a

/-- Whether there was a change since a version was seen. -/
def changedSince (w : Watched α) (seen : Nat) : Bool :=
  w.version != seen

theorem value_set [DecidableEq α] (w : Watched α) (a : α) : (w.set a).value = a := by
  unfold set
  split
  · assumption
  · rfl

theorem set_value [DecidableEq α] (w : Watched α) : w.set w.value = w :=
  if_pos rfl

theorem version_set [DecidableEq α] (w : Watched α) (a : α) :
    (w.set a).version = if w.value = a then w.version else w.version + 1 := by
  unfold set
  split <;> rfl

end Watched

/-- What a host tells about its view. -/
inductive Signal where
  | focus
  | blur
  | appear
  | vanish
deriving DecidableEq, Repr, Inhabited

/-- The signals so far, and the flag derived from them. -/
structure Visibility where
  visible : Bool
  focused : Bool
  /-- What watchers see. -/
  eligible : Watched Bool
deriving DecidableEq, Repr, Inhabited

namespace Visibility

/-- Before the first signal. -/
def new (visible focused : Bool) : Visibility :=
  ⟨visible, focused, .new (visible && focused)⟩

/-- The view of a host that knows nothing of visibility. -/
def always : Visibility := new true true

/-- Whether a connection may be held. -/
def isEligible (v : Visibility) : Bool := v.visible && v.focused

/-- The derived flag brought up to date. -/
def refresh (v : Visibility) : Visibility :=
  { v with eligible := v.eligible.set v.isEligible }

/-- One more signal. -/
def receive (v : Visibility) : Signal → Visibility
  | .focus => refresh { v with focused := true }
  | .blur => refresh { v with focused := false }
  | .appear => refresh { v with visible := true }
  | .vanish => refresh { v with visible := false }

end Visibility

end ActivityFeed
