/-
# FaultContext.Sorting.Gallop -- places in a list that is in order.

Looking for a place goes in two steps: from a hint on, in distances that double, until the place is
passed, and then by halving what is left.  All questions are put as "does this come before that",
and which questions are put is part of what is promised here, because an order need not be
consistent and a question may fail.
-/

namespace FaultContext.Sorting

variable {α ε : Type}

/-- An order: whether one thing comes before another one. -/
abbrev Less (α ε : Type) := α → α → Except ε Bool

/-- The place between two bounds that a test tells: items for which it holds are before the place.
-/
def halve (isBefore : Nat → Except ε Bool) (low high : Nat) : Nat → Except ε Nat
  | 0 => .ok high
  | steps + 1 => do
    if high ≤ low then return high
    else
      let middle := low + (high - low) / 2
      if ← isBefore middle then halve isBefore (middle + 1) high steps
      else halve isBefore low middle steps

/-- Doubles a distance as long as a test of the distance holds and the greatest one is not reached:
the last distance for which it held, and the first one beyond. -/
def double (holds : Nat → Except ε Bool) (most last next : Nat) : Nat → Except ε (Nat × Nat)
  | 0 => .ok (last, min next most)
  | steps + 1 => do
    if most ≤ next then return (last, most)
    else if ← holds next then double holds most next (2 * next + 1) steps
    else return (last, next)

/-- The place that a test tells in a list of a size, looked for from a hint on. -/
def gallop (isBefore : Nat → Except ε Bool) (size hint : Nat) : Except ε Nat := do
  if ← isBefore hint then
    let (last, next) ← double (fun d => isBefore (hint + d)) (size - hint) 0 1 size
    halve isBefore (hint + last + 1) (hint + next) size
  else
    let holds (d : Nat) : Except ε Bool := do return !(← isBefore (hint - d))
    let (last, next) ← double holds (hint + 1) 0 1 size
    halve isBefore (hint + 1 - next) (hint - last) size

/-- The first place in a list at which a key can stand: in front of what does not come before it. -/
def gallopLeft (less : Less α ε) (key : α) (items : Array α) (hint : Nat) : Except ε Nat :=
  gallop (fun k =>
    match items[k]? with
    | some item => less item key
    | none => .ok false) items.size hint

/-- The last place in a list at which a key can stand: behind all that it does not come before. -/
def gallopRight (less : Less α ε) (key : α) (items : Array α) (hint : Nat) : Except ε Nat :=
  gallop (fun k =>
    match items[k]? with
    | some item => do return !(← less key item)
    | none => .ok false) items.size hint

end FaultContext.Sorting
