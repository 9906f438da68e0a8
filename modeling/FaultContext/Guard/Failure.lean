/-
# FaultContext.Guard.Failure -- the failure branch of a guarded call.

A guard calls the function it replaces.  A success is handed back untouched.  A raised exception or
a returned failure gets the context of the call merged into it by the binding for its type; where
the context cannot be rendered, a diagnostic that carries the failure is raised instead.

Only exceptions derived from the class of ordinary exceptions are failures.  The very exception that
was raised goes on unchanged where the arguments of the call did not fit, so that the body was never
entered, and where the binding hands it back.
-/
import FaultContext.Binding.Resolution
import FaultContext.Template.Render

namespace FaultContext

open Eval

/-- The name of the function that a guard replaces, as messages show it. -/
def Descriptor.name (d : Descriptor) : Eval String := do
  match (← store).qualifiedName? d.target with
  | some "" | none => repr d.target
  | some name => return name

namespace Guard

/-- Raises the diagnostic for a context that could not be rendered, while the exception that
prevented it is being handled. -/
def unrendered {α : Type} (g : Guard) (failure : Value) (exc : Ref) : Eval α := do
  let name ← g.descriptor.name
  let message := "Couldn't render the context for a failure of " ++ name ++ ": " ++
    (← str (.object exc))
  raiseNewFrom .renderError message [("failure", failure)] exc

/-- The context of a failed call; what prevents it is raised as it is. -/
def rendering (engine : Engine) (g : Guard) (args : List Value) (named : Named) : Eval Value :=
  g.context.render engine (Scope.ofCall g.descriptor args named)

/-- The context of a failed call. -/
def render (engine : Engine) (g : Guard) (failure : Value) (args : List Value) (named : Named) :
    Eval Value :=
  catching .exception (g.rendering engine args named) (g.unrendered failure)

/-- Raises the diagnostic for a binding that made something of an exception which cannot be
raised. -/
def unraisable {α : Type} (exc : Ref) (wrapped : Value) : Eval α := do
  let message := "The WrapErr binding for " ++ (← store).typeName (.object exc) ++ " returned " ++
    (← repr wrapped) ++ ", which can't be raised"
  raiseNewFrom .applicabilityError message [] exc

/-- A raised exception with the context of the call merged into it. -/
def merged (engine : Engine) (g : Guard) (exc : Ref) (args : List Value) (named : Named) :
    Eval Ref := do
  let context ← g.render engine (.object exc) args named
  let wrapped ← Resolution.wrap engine g.bindings (.object exc) context
  match (← store).exception? wrapped with
  | some r => return r
  | none => unraisable exc wrapped

/-- The exception to go on with in place of a raised one. -/
def raised (engine : Engine) (g : Guard) (exc : Ref) (args : List Value) (named : Named) :
    Eval Ref :=
  if g.descriptor.callSignature.accepts args named then g.merged engine exc args named
  else pure exc

/-- Goes on with a raised exception. -/
def failing (engine : Engine) (g : Guard) (args : List Value) (named : Named) (exc : Ref) :
    Eval Value := do
  let r ← g.raised engine exc args named
  if r = exc then raiseAgain else raiseFrom r exc

/-- The payload of a failure that was returned. -/
def payload? (s : Store) : Value → Option Value
  | .object r =>
    match s.get? r with
    | some ⟨_, _, .err error⟩ => some error
    | _ => none
  | _ => none

/-- The value to return in place of a returned one. -/
def returned (engine : Engine) (g : Guard) (result : Value) (args : List Value) (named : Named) :
    Eval Value := do
  match payload? (← store) result with
  | none => return result
  | some error =>
    let context ← g.render engine error args named
    err (← Resolution.wrap engine g.bindings error context)

/-- Runs a call under a guard. -/
def run (engine : Engine) (g : Guard) (args : List Value) (named : Named) (call : Eval Value) :
    Eval Value := do
  let result ← catching .exception call (g.failing engine args named)
  g.returned engine result args named

end Guard
end FaultContext
