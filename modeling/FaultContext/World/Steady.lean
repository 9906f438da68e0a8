/-
# FaultContext.World.Steady -- what suspensions have no part in.

How often something has been suspended is counted for those who drive coroutines.  The program
itself never gets to see the count; it only decides when an exception that is scheduled is thrown.
As long as none is scheduled, then, everything happens in the same way however far the count has
come, and counts on from there.
-/
import FaultContext.World.Basic

namespace FaultContext.World

variable {α β : Type}

/-- The world after a number of further suspensions and nothing else. -/
def suspended (n : Nat) (w : World) : World := { w with suspensions := w.suspensions + n }

@[simp] theorem store_suspended (n : Nat) (w : World) : (w.suspended n).store = w.store := rfl

theorem suspended_suspended (m n : Nat) (w : World) :
    (w.suspended m).suspended n = w.suspended (m + n) := by
  simp only [suspended, Nat.add_assoc]

/-- What is seen of a world, whatever has been counted, as long as no exception is scheduled. -/
structure Unaware (f : World → α) : Prop where
  suspended : ∀ (w : World) (n : Nat), w.scheduled = none → f (w.suspended n) = f w

/-- What is done to a world, whatever has been counted, as long as no exception is scheduled. -/
structure Steady (f : World → α × World) : Prop where
  suspended : ∀ (w : World) (n : Nat), w.scheduled = none →
    f (w.suspended n) = ((f w).1, (f w).2.suspended n)
  scheduled : ∀ w : World, w.scheduled = none → (f w).2.scheduled = none

/-- Looking changes nothing. -/
theorem Unaware.steady {f : World → α} (h : Unaware f) : Steady fun w => (f w, w) where
  suspended w n hw := by rw [h.suspended w n hw]
  scheduled _ hw := hw

/-- The store knows nothing of suspensions. -/
theorem steady_store (f : Store → α × Store) :
    Steady fun w => ((f w.store).1, { w with store := (f w.store).2 }) :=
  ⟨fun _ _ _ => rfl, fun _ hw => hw⟩

end FaultContext.World
