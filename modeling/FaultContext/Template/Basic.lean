/-
# FaultContext.Template.Basic -- where the context of a failure comes from.

A context is rendered from a template with captured values, is a value that was given, or is made by
a provider.  All three are only descriptions here: nothing is rendered until a call has failed.
-/
import FaultContext.Value.Basic

namespace FaultContext

/-- A captured value.  `parameters` is absent for a constant; otherwise the value is called on a
failure with the arguments of these names, or with all arguments. -/
structure Capture where
  name : Option String
  source : Value
  parameters : Option (List String)
  allArguments : Bool

/-- A format text and the captures that fill it. -/
structure Template where
  format : String
  positional : List Capture
  named : List Capture

/-- Where a context comes from. -/
inductive ContextSource where
  | template (t : Template)
  | value (v : Value)
  | provider (provider : Value) (passArguments : Bool)

end FaultContext
