/-
# FaultContext.Sorting.Merge -- two neighbouring runs made one.

The shorter run is taken aside and the two are merged towards the end it leaves free.  Items are
taken one by one until one run has won several times in a row; then whole stretches are taken,
whose ends are found by galloping, for as long as that pays.  How often a run has to win is
adjusted on the way.

Both directions are one: merging towards the front is merging towards the back with everything
turned round, except that the stretch of the first run is always looked for first.
-/
import FaultContext.Sorting.Gallop

namespace FaultContext.Sorting

variable {α ε : Type}

/-- Stretches shorter than this are not worth galloping. -/
def leastGallop : Nat := 7

/-- Two runs being merged.  `aside` is the run that was taken aside, `other` the one that stays;
`out` is what has been merged, the last item first. -/
structure Merging (α : Type) where
  aside : List α
  other : List α
  out : List α
  /-- How often one run has to win in a row. -/
  wins : Nat

/-- How runs are merged: which of two heads goes first, and how many heads of a run go before the
head of the other one. -/
structure Direction (α ε : Type) where
  /-- Whether the head of the other run goes before the head of the run aside. -/
  otherFirst : α → α → Except ε Bool
  /-- How many items of the run aside go before the head of the other run. -/
  stretchAside : α → List α → Except ε Nat
  /-- How many items of the other run go before the head of the run aside. -/
  stretchOther : α → List α → Except ε Nat
  /-- Whether the stretch of the run aside is looked for before that of the other one. -/
  asideLeads : Bool

/-- Takes items from the run aside. -/
def Merging.takeAside (m : Merging α) (count : Nat) : Merging α :=
  { m with aside := m.aside.drop count, out := (m.aside.take count).reverse ++ m.out }

/-- Takes items from the other run. -/
def Merging.takeOther (m : Merging α) (count : Nat) : Merging α :=
  { m with other := m.other.drop count, out := (m.other.take count).reverse ++ m.out }

/-- Whether what is left needs no further question: the other run has ended, or at most one item is
left aside, which is the last of all. -/
def Merging.isOver (m : Merging α) : Bool := m.other.isEmpty || m.aside.length ≤ 1

/-- What has been merged, with what is left. -/
def Merging.finish (m : Merging α) : List α := m.out.reverse ++ (m.other ++ m.aside)

/-- Takes items one by one until one run has won often enough or nothing is left to decide. -/
def Merging.oneByOne (d : Direction α ε) (m : Merging α) (asideWins otherWins : Nat) :
    Nat → Except ε (Merging α)
  | 0 => .ok m
  | steps + 1 =>
    match m.aside, m.other with
    | a :: _, b :: _ => do
      if ← d.otherFirst b a then
        let m := m.takeOther 1
        if m.isOver || m.wins ≤ otherWins + 1 then return m
        else oneByOne d m 0 (otherWins + 1) steps
      else
        let m := m.takeAside 1
        if m.isOver || m.wins ≤ asideWins + 1 then return m
        else oneByOne d m (asideWins + 1) 0 steps
    | _, _ => .ok m

/-- Takes the stretch of the run aside that goes before the head of the other run, and then that
head; also tells how long the stretch was. -/
def Merging.stretchOfAside (d : Direction α ε) (m : Merging α) : Except ε (Merging α × Nat) := do
  match m.other with
  | [] => return (m, 0)
  | b :: _ =>
    let count ← d.stretchAside b m.aside
    let m := m.takeAside count
    return (if m.isOver then m else m.takeOther 1, count)

/-- Takes the stretch of the other run that goes before the head of the run aside, and then that
head; also tells how long the stretch was. -/
def Merging.stretchOfOther (d : Direction α ε) (m : Merging α) : Except ε (Merging α × Nat) := do
  match m.aside with
  | [] => return (m, 0)
  | a :: _ =>
    let count ← d.stretchOther a m.other
    let m := m.takeOther count
    return (if m.isOver then m else m.takeAside 1, count)

/-- Takes whole stretches as long as they are long enough. -/
def Merging.byStretches (d : Direction α ε) (m : Merging α) : Nat → Except ε (Merging α)
  | 0 => .ok m
  | steps + 1 => do
    let m := { m with wins := m.wins - (if 1 < m.wins then 1 else 0) }
    let (m, first) ← if d.asideLeads then m.stretchOfAside d else m.stretchOfOther d
    if m.isOver then return m
    let (m, second) ← if d.asideLeads then m.stretchOfOther d else m.stretchOfAside d
    if m.isOver then return m
    if leastGallop ≤ first || leastGallop ≤ second then byStretches d m steps
    else return { m with wins := m.wins + 1 }

/-- Merges two runs in turns, one by one and by stretches. -/
def Merging.run (d : Direction α ε) (m : Merging α) : Nat → Except ε (Merging α)
  | 0 => .ok m
  | steps + 1 => do
    let bound := m.aside.length + m.other.length + 1
    let m ← m.oneByOne d 0 0 bound
    if m.isOver then return m
    let m ← { m with wins := m.wins + 1 }.byStretches d bound
    if m.isOver then return m
    run d m steps

/-- Merges a run that was taken aside and another one, whose head is known to go first. -/
def mergeWith (d : Direction α ε) (wins : Nat) (aside other : List α) :
    Except ε (List α × Nat) := do
  let m : Merging α := (⟨aside, other, [], wins⟩ : Merging α).takeOther 1
  if m.isOver then return (m.finish, m.wins)
  let m ← m.run d (aside.length + other.length + 1)
  return (m.finish, m.wins)

/-- Merging from the front: the first run is aside, and of equal items it goes first. -/
def fromFront (less : Less α ε) : Direction α ε where
  otherFirst b a := less b a
  stretchAside b aside := gallopRight less b aside.toArray 0
  stretchOther a other := gallopLeft less a other.toArray 0
  asideLeads := true

/-- Merging from the back: the second run is aside, both runs are turned round, and of equal items
the second run goes first. -/
def fromBack (less : Less α ε) : Direction α ε where
  otherFirst a b := less b a
  stretchAside a aside := do
    let n := aside.length
    return n - (← gallopLeft less a aside.reverse.toArray (n - 1))
  stretchOther b other := do
    let n := other.length
    return n - (← gallopRight less b other.reverse.toArray (n - 1))
  asideLeads := false

/-- Merges two neighbouring runs.  What is in place already is left alone. -/
def mergeRuns (less : Less α ε) (wins : Nat) (first second : List α) :
    Except ε (List α × Nat) := do
  match second with
  | [] => return (first, wins)
  | head :: _ =>
    let start ← gallopRight less head first.toArray 0
    let a := first.drop start
    match a.getLast? with
    | none => return (first ++ second, wins)
    | some last =>
      let stop ← gallopLeft less last second.toArray (second.length - 1)
      let b := second.take stop
      let front := first.take start
      let back := second.drop stop
      if b.isEmpty then return (first ++ second, wins)
      else if a.length ≤ b.length then
        let (merged, wins) ← mergeWith (fromFront less) wins a b
        return (front ++ merged ++ back, wins)
      else
        let (merged, wins) ← mergeWith (fromBack less) wins b.reverse a.reverse
        return (front ++ merged.reverse ++ back, wins)

end FaultContext.Sorting
