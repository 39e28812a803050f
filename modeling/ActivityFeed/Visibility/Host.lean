import ActivityFeed.Visibility

/-!
# Handles and watchers

A host reaches its views through handles. A handle that is cloned from another one is on the same
view, so that a signal through either of them reaches both. A watcher looks at the derived flag of
a view from time to time and remembers which change it saw last, so that it is told of a change even
if the flag has flipped back since.
-/

namespace ActivityFeed

/-- Who watches a view. -/
structure Watcher where
  /-- The number of the view. -/
  view : Nat
  /-- The version of the flag that the watcher saw last. -/
  seen : Nat
deriving DecidableEq, Repr, Inhabited

/-- What a watcher can see. -/
structure Glance where
  /-- Whether the flag changed since the watcher saw it last. -/
  hasChanged : Bool
  /-- The flag as the watcher sees it. -/
  value : Bool
deriving DecidableEq, Repr, Inhabited

/-- The views of a host, the handles on them and their watchers, each numbered in the order in which
they came. -/
structure Host where
  views : List Visibility
  /-- The number of the view that each handle is on. -/
  handles : List Nat
  watchers : List Watcher
deriving DecidableEq, Repr, Inhabited

namespace Host

/-- Before the first view. -/
def empty : Host := ⟨[], [], []⟩

/-- One thing that a host does. What it does through a handle, or to a watcher, that is not there
has no effect. -/
inductive Deed where
  /-- A new view, with a handle on it. -/
  | create (visible focused : Bool)
  /-- One more handle on the view of a handle. -/
  | clone (handle : Nat)
  | signal (handle : Nat) (signal : Signal)
  /-- A new watcher of the view of a handle, who has seen the present flag. -/
  | subscribe (handle : Nat)
  /-- A watcher takes note of the present flag. -/
  | look (watcher : Nat)
deriving DecidableEq, Repr, Inhabited

/-- The version of the flag of a view. -/
def version (h : Host) (view : Nat) : Nat :=
  h.views[view]?.elim 0 (·.eligible.version)

/-- A watcher of a view who has seen the present flag. -/
def watcher (h : Host) (view : Nat) : Watcher := ⟨view, h.version view⟩

/-- One more deed. -/
def perform (h : Host) : Deed → Host
  | .create visible focused =>
    { h with
      views := h.views ++ [.new visible focused]
      handles := h.handles ++ [h.views.length] }
  | .clone i => { h with handles := h.handles ++ h.handles[i]?.toList }
  | .signal i signal =>
    match h.handles[i]? with
    | some k => { h with views := h.views.modify k (·.receive signal) }
    | none => h
  | .subscribe i => { h with watchers := h.watchers ++ (h.handles[i]?.map h.watcher).toList }
  | .look j => { h with watchers := h.watchers.modify j fun w => h.watcher w.view }

/-- Several deeds, one after another. -/
def run (h : Host) (ds : List Deed) : Host :=
  ds.foldl perform h

/-- Whether a connection may be held, as a handle tells. -/
def isEligible? (h : Host) (handle : Nat) : Option Bool := do
  let k ← h.handles[handle]?
  let v ← h.views[k]?
  return v.isEligible

/-- What a watcher can see. -/
def glance? (h : Host) (watcher : Nat) : Option Glance := do
  let w ← h.watchers[watcher]?
  let v ← h.views[w.view]?
  return ⟨v.eligible.changedSince w.seen, v.eligible.value⟩

end Host

end ActivityFeed
