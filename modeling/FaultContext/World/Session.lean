/-
# FaultContext.World.Session -- what happens between computations.

A session runs computations one after the other, with no exception being handled when one starts.
Between them it may do what no computation does: declare classes, make sets of bindings, register
bindings, change threads, and decide what is traced.
-/
import FaultContext.Binding.Resolution

namespace FaultContext

/-- A sequence of computations and of what happens between them. -/
abbrev Session := ExceptT Signal (StateM World)

namespace Session

open Eval

variable {α : Type}

/-- Runs a computation. -/
def eval (m : Eval α) : Session α := fun w => m.run none w

instance : MonadLift Eval Session := ⟨eval⟩

/-- Runs a session to its end, raised exceptions included. -/
def attempt (m : Session α) : Session (Except Ref α) :=
  tryCatch (do return .ok (← m)) fun
    | .raised r => return .error r
    | signal => throw signal

/-- Runs a session on the thread of the program, or on a new one. -/
def onThread (isNew : Bool) (m : Session α) : Session α := do
  if isNew then
    modify fun w => { w with threads := w.threads + 1, thread := w.threads + 1 }
    let ended ← tryCatch (do return Except.ok (← m)) fun signal => return .error signal
    modify fun w => { w with thread := 0 }
    match ended with
    | .ok a => return a
    | .error signal => throw signal
  else m

/-! ## Registering -/

/-- Adds a set of bindings: its number. -/
def addSet (set : BindingSet) : Session Nat := do
  let id := (← get).sets.size
  modify fun w => { w with sets := w.sets.push set }
  return id

/-- Why a binding cannot be registered for a type. -/
def checkRegistrable (id : Nat) (type : Value) : Eval Unit := do
  let s ← store
  if let some unhashable := s.unhashable? type then fault (.unhashable unhashable)
  if let .cls c := type then
    if ((← Resolution.bindingSet id).registry.get? c).isSome && c ≠ .standard .object then
      raiseNew .ambiguousBinding
        ("A WrapErr binding for " ++ (← repr type) ++ " is already registered")
  if TypeHint.isSubclassSafe s type [.std .wrapErr] then
    raiseNew .ambiguousBinding
      ((← repr type) ++
        " implements wrap_err; registering another binding for it is ambiguous")

/-- Registers a binding for a type, and for each member of a union.  What was remembered before no
longer counts. -/
def register (id : Nat) (type : Value) (b : Binding) : Session Unit := do
  checkRegistrable id type
  match Registry.targets? type with
  | none =>
    (do
      fault (.plain .typeError ("Invalid first argument to \x60register()\x60. " ++
        (← repr type) ++ " is not a class or union type.")) : Eval Unit)
  | some targets =>
    modify fun w => { w with sets := w.sets.modify id fun set => set.register targets b }
    trace do
      return "register(" ++ (← repr type) ++ "): " ++ Resolution.bindingName (← store) (some b)

end Session
end FaultContext
