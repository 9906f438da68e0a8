/-
# FaultContext.Template.Render -- the context of a failed call.

A scope is a failed call as contexts see it: its arguments as they were given, and again under the
names of the parameters they went to.  Rendering is the only place where captures and providers are
called.  Positional captures are evaluated first, then named ones, each once and in the order in
which they were written; only then is the format text filled.

Deliberately not here: what becomes of an exception that rendering raises
(`FaultContext.Guard.Failure`).
-/
import FaultContext.Format.Render
import FaultContext.Signature.Binding
import FaultContext.World.Eval

namespace FaultContext

/-- A failed call. -/
structure Scope where
  args : List Value
  named : Named
  arguments : Named

namespace Scope

/-- The arguments of a call by the names of a signature, defaults included, if they fit. -/
def bound? (signature : Signature)
    (bind : Signature → List Value → Named → Except BindFault Named) (args : List Value)
    (named : Named) : Option Named :=
  (bind signature args named).toOption.map signature.withDefaults

/-- The names that the arguments of a call go to.  Arguments that do not fit the signature that
callers see are bound as far as they fit; failing that, the function's own signature counts, and at
last the named arguments speak for themselves. -/
def argumentsOf (d : Descriptor) (args : List Value) (named : Named) : Named :=
  ((bound? d.signature Signature.bind args named).or
    ((bound? d.signature Signature.bindPartial args named).or
      (bound? d.callSignature Signature.bind args named))).getD named

/-- The scope of a call. -/
def ofCall (d : Descriptor) (args : List Value) (named : Named) : Scope :=
  ⟨args, named, argumentsOf d args named⟩

end Scope

/-- The value of a capture: a constant is its own value, and anything else is called with the
arguments it takes, as far as the call has them. -/
def Capture.evaluate (engine : Engine) (scope : Scope) (c : Capture) : Eval Value :=
  match c.parameters with
  | none => pure c.source
  | some names =>
    if c.allArguments then engine.call c.source [] scope.arguments
    else
      engine.call c.source []
        (names.filterMap fun n => (scope.arguments.get? n).map (n, ·))

namespace Template

/-- The values of captures in the order in which they are written. -/
def evaluateAll (engine : Engine) (scope : Scope) : List Capture → Eval (List Value)
  | [] => return []
  | c :: rest => do
    let v ← c.evaluate engine scope
    return v :: (← evaluateAll engine scope rest)

/-- The names that a format text may use: the arguments of the call, then the captures, which win.
-/
def namesFor (scope : Scope) (captures : List Capture) (values : List Value) : Named :=
  (captures.zip values).foldl (fun names (c, v) => names.set (c.name.getD "") v) scope.arguments

/-- Renders a template. -/
def render (engine : Engine) (scope : Scope) (t : Template) : Eval Value := do
  let positional ← evaluateAll engine scope t.positional
  let named ← evaluateAll engine scope t.named
  let arguments := ⟨positional, namesFor scope t.named named⟩
  let text ← Eval.lift (Format.render (← Eval.store) arguments t.format)
  return .str .fresh text

end Template

/-- The context of a failed call. -/
def ContextSource.render (engine : Engine) (scope : Scope) : ContextSource → Eval Value
  | .template t => t.render engine scope
  | .value v => pure v
  | .provider p true => engine.call p scope.args scope.named
  | .provider p false => engine.call p [] []

end FaultContext
