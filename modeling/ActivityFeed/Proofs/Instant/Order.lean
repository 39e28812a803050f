import ActivityFeed.Instant.Basic
import Mathlib.Order.Lattice

/-!
# The order of instants

Instants compare by their seconds first and by their nanoseconds then. That is a linear order, so
newest and oldest records, largest creation times and cursors that never go back can all be spoken
of in the usual words; its `≤` is the comparison by which a store sorts.
-/

namespace ActivityFeed.Instant

theorem le_iff {a b : Instant} :
    a ≤ b ↔ a.seconds < b.seconds ∨ (a.seconds = b.seconds ∧ a.nanos ≤ b.nanos) := by
  show le a b = true ↔ _
  simp [le]

/-- Two instants with equal parts are one instant. -/
theorem eq_of_parts {a b : Instant} (hs : a.seconds = b.seconds) (hn : a.nanos = b.nanos) :
    a = b := by
  cases a
  cases b
  simp_all

instance : LinearOrder Instant where
  le_refl a := le_iff.mpr (Or.inr ⟨rfl, Nat.le_refl _⟩)
  le_trans a b c hab hbc := by
    rw [le_iff] at hab hbc ⊢
    omega
  le_antisymm a b hab hba := by
    rw [le_iff] at hab hba
    exact eq_of_parts (by omega) (by omega)
  le_total a b := by
    rw [le_iff, le_iff]
    omega
  toDecidableLE := inferInstance
  toDecidableEq := inferInstance

end ActivityFeed.Instant
