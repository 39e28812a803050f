import ActivityFeed.Proofs.Frame.Records
import ActivityFeed.Proofs.Store.Window
import ActivityFeed.Sync.State

/-!
# Replaying what was taken in

A synchronizer takes in two things: the page of its snapshot, and chunks, each from one connection.
What a list of these does to the records is settled by the list alone (`Config.effects`): a page is
added as one batch, and a chunk merges, one by one, the records that it completes among those of all
the octets of its connection.

The records of different connections have nothing to do with each other but the order
(`Config.recordsOf_effects`): each connection has a decoder of its own, which starts with the
connection and sees all its octets.
-/

namespace ActivityFeed

/-- What a synchronizer takes in. -/
inductive Intake where
  | page (items : List Record)
  | chunk (connection : Nat) (octets : List UInt8)

/-- The octets that a chunk of a connection brings. -/
def Intake.octetsOf (n : Nat) : Intake → List UInt8
  | .page _ => []
  | .chunk connection octets => if connection = n then octets else []

def Intake.page? : Intake → Option (List Record)
  | .page items => some items
  | .chunk .. => none

/-- How many records a snapshot had, if one has been loaded. -/
def SnapshotStatus.counts : SnapshotStatus → List Nat
  | .loaded count => [count]
  | _ => []

/-- All octets that have been read of a connection. -/
def heard (n : Nat) (history : List Intake) : List UInt8 :=
  history.flatMap (Intake.octetsOf n)

theorem heard_concat (n : Nat) (h : List Intake) (x : Intake) :
    heard n (h ++ [x]) = heard n h ++ x.octetsOf n := by
  simp [heard]

/-- What is done to the store, and on whose account. -/
inductive Effect where
  | seed (items : List Record)
  | merge (connection : Nat) (record : Record)

/-- The call that an effect is. -/
def Effect.call : Effect → Store.Call
  | .seed items => .seed items
  | .merge _ record => .merge record

/-- The record that comes from a connection. -/
def Effect.recordOf? (n : Nat) : Effect → Option Record
  | .seed _ => none
  | .merge connection record => if connection = n then some record else none

def Effect.page? : Effect → Option (List Record)
  | .seed items => some items
  | .merge .. => none

namespace Config

variable (config : Config)

/-- The records that octets complete after others. -/
def recordsAfter (before octets : List UInt8) : List Record :=
  (config.recordsIn (before ++ octets)).drop (config.recordsIn before).length

/-- What something that is taken in does, after all that was taken in before. -/
def effectsOf (past : List Intake) : Intake → List Effect
  | .page items => [.seed items]
  | .chunk n octets => (config.recordsAfter (heard n past) octets).map (.merge n)

/-- What a history does, after another one. -/
def effectsAfter : List Intake → List Intake → List Effect
  | _, [] => []
  | past, x :: history => config.effectsOf past x ++ effectsAfter (past ++ [x]) history

/-- What a history does. -/
def effects (history : List Intake) : List Effect :=
  config.effectsAfter [] history

variable {config}

theorem effectsAfter_append (past h h' : List Intake) :
    config.effectsAfter past (h ++ h')
      = config.effectsAfter past h ++ config.effectsAfter (past ++ h) h' := by
  induction h generalizing past with
  | nil => simp [effectsAfter]
  | cons x h ih => simp [effectsAfter, ih]

theorem effects_append (h h' : List Intake) :
    config.effects (h ++ h') = config.effects h ++ config.effectsAfter h h' :=
  effectsAfter_append [] h h'

theorem effects_concat (h : List Intake) (x : Intake) :
    config.effects (h ++ [x]) = config.effects h ++ config.effectsOf h x := by
  rw [effects_append, effectsAfter, effectsAfter, List.append_nil]

theorem recordsAfter_eq (before octets : List UInt8) :
    config.recordsAfter before octets
      = ((Decoder.fresh.push before).2.push octets).1.filterMap config.recordOf? := by
  rw [recordsAfter, recordsIn_append, List.drop_left]

theorem recordsAfter_append (before x y : List UInt8) :
    config.recordsAfter before (x ++ y)
      = config.recordsAfter before x ++ config.recordsAfter (before ++ x) y := by
  have hfresh := Decoder.Reachable.fresh.settled
  rw [recordsAfter_eq, recordsAfter_eq, recordsAfter_eq, Decoder.push_push hfresh before x,
    Decoder.push_push (Decoder.settled_push hfresh before), List.filterMap_append]

@[simp] theorem recordsAfter_nil (before : List UInt8) : config.recordsAfter before [] = [] := by
  simp [recordsAfter]

theorem recordsOf_effectsOf (n : Nat) (past : List Intake) (x : Intake) :
    (config.effectsOf past x).filterMap (Effect.recordOf? n)
      = config.recordsAfter (heard n past) (x.octetsOf n) := by
  cases x with
  | page items => simp [effectsOf, Effect.recordOf?, Intake.octetsOf]
  | chunk m octets =>
    rw [effectsOf, List.filterMap_map, Intake.octetsOf]
    by_cases hmn : m = n
    · subst hmn
      simp [Effect.recordOf?, Function.comp_def]
    · simp [Effect.recordOf?, Function.comp_def, hmn]

theorem recordsOf_effectsAfter (n : Nat) (past h : List Intake) :
    (config.effectsAfter past h).filterMap (Effect.recordOf? n)
      = config.recordsAfter (heard n past) (heard n h) := by
  induction h generalizing past with
  | nil => simp [effectsAfter, heard]
  | cons x h ih =>
    rw [effectsAfter, List.filterMap_append, recordsOf_effectsOf, ih, heard_concat,
      ← recordsAfter_append]
    rfl

/-- **Each connection is read as if it were the only one**, by a decoder of its own. -/
theorem recordsOf_effects (n : Nat) (h : List Intake) :
    (config.effects h).filterMap (Effect.recordOf? n)
      = (Decoder.fresh.push (heard n h)).1.filterMap config.recordOf? := by
  rw [effects, recordsOf_effectsAfter, ← recordsIn_eq]
  rfl

theorem pages_effects (h : List Intake) :
    (config.effects h).filterMap Effect.page? = h.filterMap Intake.page? := by
  have hpages : ∀ past, (config.effectsAfter past h).filterMap Effect.page?
      = h.filterMap Intake.page? := by
    induction h with
    | nil => exact fun _ => rfl
    | cons x h ih =>
      intro past
      rw [effectsAfter, List.filterMap_append, ih, List.filterMap_cons]
      cases x with
      | page items => rfl
      | chunk n octets => simp [effectsOf, Effect.page?, Intake.page?, Function.comp_def]
  exact hpages []

end Config

namespace Store

theorem calls_append (s : Store) (cs cs' : List Call) :
    s.calls (cs ++ cs') = (s.calls cs).calls cs' :=
  List.foldl_append

/-- Merges one by one are calls. -/
theorem calls_merges (s : Store) (n : Nat) (records : List Record) :
    s.calls ((records.map (Effect.merge n)).map Effect.call) = s.mergeAll records := by
  rw [List.map_map, calls, List.foldl_map]
  rfl

end Store

end ActivityFeed
