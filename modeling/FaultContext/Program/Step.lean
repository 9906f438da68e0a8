/-
# FaultContext.Program.Step -- the steps of a program.

A program is a list of steps, each of which does one thing with the library: declare a class, build
a set of bindings, guard a function, call it, or look at a value.  Steps are terms; what they do is
said in `FaultContext.Program.Run`.
-/
import FaultContext.Binding.Registry
import FaultContext.Language.Term

namespace FaultContext

/-! ## Bindings and rules -/

/-- A binding: one that the library has, or a function of the failure and the context. -/
inductive BindingTerm where
  | standard (binding : Binding)
  | function (name : String) (body : Expr)

/-- A rule: one that the library has, or one of the program. -/
inductive RuleTerm where
  | standard (rule : Rule)
  | custom (name : String) (anonymous : Bool) (matching : Matching) (types : List TypeTerm)
      (seed : Option BindingTerm) (delegate : Option TypeTerm) (binding : Option BindingTerm)

/-- A set of bindings. -/
structure BindingSetTerm where
  rules : List RuleTerm
  conventions : List RuleTerm
  fallback : Option (Option BindingTerm)
  threadLocal : Bool

/-! ## Functions -/

/-- A guard that a function gets: a template with captures, or a provider. -/
inductive DecoratorTerm where
  | template (template : Term) (args : List Term) (named : List (String × Term))
      (bindings : Option String)
  | provider (provider : Term) (bindings : Option String)

/-- A function with its guards, the first one innermost. -/
structure DefinitionTerm where
  name : String
  target : Term
  decorators : List DecoratorTerm

/-- A method of a class, and how it is attached once it is guarded. -/
structure MethodTerm where
  definition : DefinitionTerm
  outer : ShapeTerm

/-- How a declared class merges contexts. -/
inductive MemberTerm where
  | value (value : Term)
  | method (body : Expr)
  | ofClass (body : Expr)
  | static (body : Expr)

/-- A class. -/
structure ClassTerm where
  name : String
  bases : List TypeTerm
  member : Option MemberTerm
  unhashable : Bool

/-! ## Calls -/

/-- The arguments of a call. -/
structure ArgumentsTerm where
  args : List Term
  named : List (String × Term)

/-- A failed call as a template sees it. -/
structure ScopeTerm where
  arguments : List (String × Term)
  call : ArgumentsTerm

/-- What is called: a function of the program, or a method through an instance or the class. -/
inductive CalleeTerm where
  | function (name : String)
  | method (struct name : String) (throughInstance : Bool)

/-- An exception that is thrown into a coroutine after a number of suspensions. -/
structure ThrowTerm where
  suspensions : Nat
  exception : Term

/-! ## Questions -/

/-- A question about types. -/
inductive TypeQuestion where
  | origin (type : TypeTerm)
  | args (type : TypeTerm)
  | failureType (type : TypeTerm)
  | hasOrigin (type : TypeTerm) (origins : List TypeTerm) (count : Option Nat)
  | isSubclass (type : TypeTerm) (ancestors : List TypeTerm)
  | returnHint (function : FunctionTerm)

/-- An operation on a result. -/
inductive ResultOperation where
  | map (body : Expr)
  | mapErr (body : Expr)
  | isOk
  | isErr
  | unwrap
  | unwrapErr
  | unwrapOr (default : Term)
  | isOkOf (value : Option Term)
  | isErrOf (value : Option Term)
  | eq (other : Term)
  | lt (other : Term)
  | le (other : Term)
  | repr
  | set (name : String) (value : Term)

/-- A step with a cache of its own. -/
inductive CacheStep where
  | get (type : TypeTerm)
  | complete (type : TypeTerm) (answer : Term)
  | clear
  | declare (cls : ClassTerm)

/-! ## Steps -/

/-- One step of a program. -/
inductive Step where
  | trace (on : Bool)
  | fields (template : String)
  | template (template : Term) (args : List Term) (named : List (String × Term))
      (params : List String) (scopes : List ScopeTerm)
  | provider (provider : Term) (scopes : List ScopeTerm)
  | result (value : Term) (operations : List ResultOperation)
  | bind (name : String) (value : Term)
  | assign (name field : String) (value : Term)
  | show (value : Term) (cyclic : Bool)
  | question (question : TypeQuestion)
  | cache (threadLocal : Bool) (steps : List (CacheStep × Bool))
  | declare (cls : ClassTerm)
  | bindings (name : String) (set : BindingSetTerm)
  | register (type : TypeTerm) (binding : BindingTerm) (bindings : Option String)
  | lookup (type : TypeTerm) (bindings : Option String)
  | wrap (error context : Term) (bindings : Option String)
  | bindRaw (binding : BindingTerm) (error context : Term)
  | dispatch (error context : Term) (bindings : Option String)
  | rule (rule : RuleTerm) (type : TypeTerm)
  | describe (target : Term) (calls : List ArgumentsTerm)
  | define (definition : DefinitionTerm)
  | struct (name : String) (methods : List MethodTerm)
  | call (callee : CalleeTerm) (args : ArgumentsTerm) (thrown : Option ThrowTerm)

/-- What is to be done: one step, or several in one world, each on the thread of the program or on a
new one. -/
inductive Task where
  | step (step : Step)
  | program (steps : List (Step × Bool))

end FaultContext
