/-
# FaultContext.Sorting.Runs -- stable sorting.

A list is cut into runs that rise or fall; falling ones are turned round and short ones are filled
up by inserting what follows them.  Runs are merged as soon as the place of their border in the
whole list says so, and what is left at the end is merged from the back.  Items that are equal keep
their order.
-/
import FaultContext.Sorting.Merge

namespace FaultContext.Sorting

variable {α ε : Type}

/-! ## Runs -/

/-- Splits off the items that go on rising, or falling, from the one before them. -/
def splitRun (less : Less α ε) (falling : Bool) (last : α) :
    List α → Except ε (List α × List α)
  | [] => .ok ([], [])
  | item :: rest => do
    if (← less item last) == falling then
      let (run, left) ← splitRun less falling item rest
      return (item :: run, left)
    else return ([], item :: rest)

/-- The run at the front of a list, rising, and the rest. -/
def firstRun (less : Less α ε) : List α → Except ε (List α × List α)
  | first :: second :: rest => do
    let falling ← less second first
    let (run, left) ← splitRun less falling second rest
    let run := first :: second :: run
    return (if falling then run.reverse else run, left)
  | items => return (items, [])

/-- Puts an item into a list that is in order, behind all that it does not come before. -/
def insertItem (less : Less α ε) (sorted : List α) (item : α) : Except ε (List α) := do
  let items := sorted.toArray
  let isBefore (k : Nat) : Except ε Bool :=
    match items[k]? with
    | some other => do return !(← less item other)
    | none => .ok false
  let place ← halve isBefore 0 items.size (items.size + 1)
  return sorted.take place ++ item :: sorted.drop place

/-- A list of fewer items is one run, filled up to the end. -/
def shortList : Nat := 64

/-- The least length of a run in a list of the given size: the size halved until it is that of a
short list, one more if anything was lost on the way. -/
def leastRun (size : Nat) : Nat :=
  let rec halved (size lost : Nat) : Nat → Nat
    | 0 => size + lost
    | steps + 1 =>
      if size < shortList then size + lost
      else halved (size / 2) (if size % 2 = 1 then 1 else lost) steps
  halved size 0 size

/-- The run at the front of a list, filled up to a least length as far as there are items. -/
def filledRun (less : Less α ε) (least : Nat) (items : List α) : Except ε (List α × List α) := do
  let (run, rest) ← firstRun less items
  let wanted := least - run.length
  return (← (rest.take wanted).foldlM (insertItem less) run, rest.drop wanted)

/-! ## Runs that wait to be merged -/

/-- A run that waits to be merged with its neighbours. -/
structure Pending (α : Type) where
  items : List α
  start : Nat
  /-- How deep the border behind the run lies: the deeper, the sooner the runs beside it are
  merged. -/
  depth : Nat

/-- How deep the border between two neighbouring runs lies in a list of a size: how often the list
has to be halved until a border of halves lies between the middles of the runs.  `a` and `b` are
twice the middles. -/
def borderDepth (size a b : Nat) : Nat → Nat
  | 0 => 0
  | steps + 1 =>
    if size ≤ a then 1 + borderDepth size (2 * (a - size)) (2 * (b - size)) steps
    else if size ≤ b then 1
    else 1 + borderDepth size (2 * a) (2 * b) steps

/-- Runs that wait, the last one first, and how often a run has to win in a merge. -/
structure Stack (α : Type) where
  pending : List (Pending α)
  wins : Nat

/-- Merges two neighbouring runs. -/
def joinPending (less : Less α ε) (wins : Nat) (first second : Pending α) :
    Except ε (Pending α × Nat) := do
  let (items, wins) ← mergeRuns less wins first.items second.items
  return (⟨items, first.start, second.depth⟩, wins)

/-- Merges the last runs as long as the border before them is deeper than the given one. -/
def settle (less : Less α ε) (depth : Nat) (wins : Nat) :
    List (Pending α) → Nat → Except ε (Stack α)
  | second :: first :: rest, steps + 1 => do
    if depth < first.depth then
      let (merged, wins) ← joinPending less wins first second
      settle less depth wins (merged :: rest) steps
    else return ⟨{ second with depth } :: first :: rest, wins⟩
  | last :: rest, _ => return ⟨{ last with depth } :: rest, wins⟩
  | [], _ => return ⟨[], wins⟩

/-- Adds a run at a place of a list of a size. -/
def Stack.push (less : Less α ε) (size start : Nat) (stack : Stack α) (run : List α) :
    Except ε (Stack α) := do
  match stack.pending with
  | [] => return { stack with pending := [⟨run, start, 0⟩] }
  | last :: _ =>
    let a := 2 * last.start + last.items.length
    let b := a + last.items.length + run.length
    let depth := borderDepth size a b (size + 1)
    let settled ← settle less depth stack.wins stack.pending stack.pending.length
    return { settled with pending := ⟨run, start, 0⟩ :: settled.pending }

/-- Merges all runs from the back; of three the first two, if the last one is longer than the
first. -/
def collapse (less : Less α ε) (wins : Nat) : List (Pending α) → Nat → Except ε (List α)
  | [], _ => return []
  | [only], _ => return only.items
  | runs, 0 => return (runs.reverse.map Pending.items).flatten
  | [second, first], steps + 1 => do
    let (merged, wins) ← joinPending less wins first second
    collapse less wins [merged] steps
  | third :: second :: first :: rest, steps + 1 => do
    if first.items.length < third.items.length then
      let (merged, wins) ← joinPending less wins first second
      collapse less wins (third :: merged :: rest) steps
    else
      let (merged, wins) ← joinPending less wins second third
      collapse less wins (merged :: first :: rest) steps

/-! ## Sorting -/

/-- Cuts a list into runs, which are merged as they come. -/
def gather (less : Less α ε) (size least : Nat) (stack : Stack α) (start : Nat) (items : List α) :
    Nat → Except ε (Stack α)
  | 0 => return stack
  | steps + 1 => do
    if items.isEmpty then return stack
    else
      let (run, rest) ← filledRun less least items
      let stack ← stack.push less size start run
      gather less size least stack (start + run.length) rest steps

/-- A list in order; items that are equal keep their places. -/
def sort (less : Less α ε) (items : List α) : Except ε (List α) := do
  let size := items.length
  if size < 2 then return items
  else
    let stack ← gather less size (leastRun size) ⟨[], leastGallop⟩ 0 items size
    collapse less stack.wins stack.pending stack.pending.length

end FaultContext.Sorting
