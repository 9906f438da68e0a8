/-
# FaultContext.World.Basic -- everything that a program can change.

A world holds the objects, the names that the program has given to values, functions, classes and
sets of bindings, and what has been observed so far: texts that were logged, warnings, and messages
about the library's own decisions.  It also keeps account of how far the coroutine that is being
driven has come, and of an exception that is to be thrown into it.
-/
import FaultContext.Binding.Registry

namespace FaultContext

/-- What is observed while a step runs. -/
structure Observed where
  log : List String
  warnings : List (String × String)
  trace : List String

/-- Nothing has been observed. -/
def Observed.nothing : Observed := ⟨[], [], []⟩

/-- An exception that is to be thrown after a number of suspensions. -/
structure Scheduled where
  suspensions : Nat
  exception : Ref

/-- Everything that a program can change. -/
structure World where
  store : Store
  /-- How many pieces of data have been handed out. -/
  handedOut : Nat
  values : Named
  functions : Named
  classes : List (String × Class)
  structs : List (String × Class)
  /-- The names that annotations are resolved with, as they were when functions were made. -/
  frames : Array Named
  sets : Array BindingSet
  setNames : List (String × Nat)
  observed : Observed
  /-- Whether the library's decisions are traced. -/
  tracing : Bool
  /-- Whether annotations that cannot be resolved are reported. -/
  reporting : Bool
  /-- The thread that is running; the program itself has the number zero. -/
  thread : Nat
  /-- How many threads have been started. -/
  threads : Nat
  suspensions : Nat
  scheduled : Option Scheduled

/-- The number of the set of bindings that is used where none is named. -/
def defaultSet : Nat := 0

/-- The set of bindings that is used where none is named: the two standard rules, and every other
failure is chained. -/
def BindingSet.standard : BindingSet :=
  ⟨[.contextMethod, .registered], [.chained], .missing, Cache.empty false, Registry.initial⟩

/-- A world in which nothing has happened. -/
def World.initial : World :=
  { store := Store.empty
    handedOut := 0
    values := []
    functions := []
    classes := []
    structs := []
    frames := #[]
    sets := #[BindingSet.standard]
    setNames := []
    observed := Observed.nothing
    tracing := false
    reporting := false
    thread := 0
    threads := 0
    suspensions := 0
    scheduled := none }

end FaultContext
