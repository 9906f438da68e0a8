/-
# FaultContext.Binding.Basic -- how a context is merged into a failure.

A binding takes a failure and a context and returns the failure to go on with.  It is one of the
functions of the library or anything that the program has instead; nothing is checked before it is
called.

A rule looks at the type of a failure and answers with a binding, or with nothing if the type is not
its concern.  A rule of the program is a function of the program: what such a function can say by
itself, without its code having to be run, is a binding, nothing, or an exception raised anew.
-/
import FaultContext.Value.Basic

namespace FaultContext

/-! ## Bindings -/

/-- A way to merge a context into a failure. -/
inductive Binding where
  /-- A new outer layer around the failure. -/
  | chain
  /-- A note on the failure itself. -/
  | note
  /-- The failure's own method. -/
  | method
  /-- The placeholder for types that nothing is registered for. -/
  | unregistered
  /-- A function of the program, or whatever stands in the place of one. -/
  | custom (function : Value)

namespace Binding

/-- A binding of the library. -/
def ofMerging : Merging → Binding
  | .chain => .chain
  | .note => .note
  | .method => .method
  | .unregistered => .unregistered

/-- The value that a binding is to the program; the value none is no binding. -/
def toValue : Option Binding → Value
  | none => .none
  | some .chain => .native (.merging .chain)
  | some .note => .native (.merging .note)
  | some .method => .native (.merging .method)
  | some .unregistered => .native (.merging .unregistered)
  | some (.custom f) => f

/-- The binding that a value is; the value none is no binding. -/
def ofValue? : Value → Option Binding
  | .none => none
  | .native (.merging m) => some (ofMerging m)
  | f => some (.custom f)

end Binding

/-! ## What rules say -/

/-- An exception that is raised anew: its class and its arguments. -/
structure Complaint where
  cls : Class
  args : List Value

/-- How a rule compares the type of a failure with its own types. -/
inductive Matching where
  | all
  | exact
  | derived
  deriving DecidableEq, Repr

/-- What a function does that is written as a rule: it puts a text into the log, compares the type
with its own types, and answers with its binding.  Before it answers it may give the cache an entry,
and it may ask for the binding of another type instead. -/
structure CustomRule where
  label : String
  matching : Matching
  types : List Value
  seed : Option Binding
  delegate : Option Value
  binding : Option Binding

end FaultContext
