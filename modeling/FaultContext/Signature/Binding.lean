/-
# FaultContext.Signature.Binding -- arguments matched to a signature from outside.

Binding says which parameter an argument belongs to without calling anything.  It goes through the
parameters twice: positional arguments are given out first, until they run out or a collector takes
the rest, and named arguments are then given to the parameters that are left.  A *partial* binding
leaves parameters without an argument out instead of failing.

A named argument never goes to a positional-only parameter, not even where a collector could take
it; this is stricter than a call (`FaultContext.Signature.Call`).
-/
import FaultContext.Fault
import FaultContext.Signature.Basic

namespace FaultContext.Signature

/-- Gives out positional arguments: what they are bound to, and the parameters that are left for
named arguments. -/
def bindPositional (isPartial : Bool) (named : Named) :
    Signature → List Value → Except BindFault (Named × Signature)
  | [], [] => .ok ([], [])
  | [], _ :: _ => .error (.tooMany true)
  | p :: ps, [] =>
    if p.kind = .varPositional then .ok ([], ps)
    else if named.has p.name then
      if p.kind = .positionalOnly then .error (.positionalOnly p.name true) else .ok ([], p :: ps)
    else if p.kind = .varKeyword || p.default.isSome || isPartial then .ok ([], p :: ps)
    else .error (.missing p.name)
  | p :: ps, a :: as =>
    let further := (bindPositional isPartial named ps as).map fun (bound, left) =>
      ((p.name, a) :: bound, left)
    match p.kind with
    | .varKeyword | .keywordOnly => .error (.tooMany false)
    | .varPositional => .ok ([(p.name, .tuple .fresh (a :: as))], ps)
    | .positionalOnly => further
    | .standard => if named.has p.name then .error (.multipleValues p.name) else further

/-- Gives named arguments to the parameters that are left: what they are bound to, and the arguments
that no parameter has taken. -/
def bindNamed (isPartial : Bool) : Signature → Named → Except BindFault (Named × Named)
  | [], named => .ok ([], named)
  | p :: ps, named =>
    if p.isCollector then bindNamed isPartial ps named
    else
      match named.get? p.name with
      | none =>
        if !isPartial && p.default.isNone then .error (.missing p.name)
        else bindNamed isPartial ps named
      | some v =>
        if p.kind = .positionalOnly then .error (.positionalOnly p.name false)
        else
          (bindNamed isPartial ps (named.erase p.name)).map fun (bound, left) =>
            ((p.name, v) :: bound, left)

/-- Named arguments collected into a table. -/
def collected (named : Named) : Value := .dict .fresh (named.map fun (n, v) => (.str .fresh n, v))

/-- Gives the arguments that no parameter has taken to the collector. -/
def collectExtra (left : Signature) (bound : Named) : Named → Except BindFault Named
  | [] => .ok bound
  | (name, v) :: rest =>
    match left.find? (·.kind = .varKeyword) with
    | some collector => .ok (bound ++ [(collector.name, collected ((name, v) :: rest))])
    | none => .error (.unexpected name)

/-- Binds arguments to parameters, or says why they do not fit. -/
def bindWith (isPartial : Bool) (s : Signature) (args : List Value) (named : Named) :
    Except BindFault Named := do
  let (positional, left) ← bindPositional isPartial named s args
  let (bound, extra) ← bindNamed isPartial left named
  collectExtra left (positional ++ bound) extra

/-- Binds arguments to all parameters that have no default. -/
def bind (s : Signature) (args : List Value) (named : Named) : Except BindFault Named :=
  s.bindWith false args named

/-- Binds the arguments that are given. -/
def bindPartial (s : Signature) (args : List Value) (named : Named) : Except BindFault Named :=
  s.bindWith true args named

/-- Whether arguments fit. -/
def accepts (s : Signature) (args : List Value) (named : Named) : Bool :=
  (s.bind args named).isOk

/-- What a parameter holds where no argument went to it. -/
def defaultOf (p : Param) : Option Value :=
  match p.default, p.kind with
  | some v, _ => some v
  | none, .varPositional => some (.tuple .fresh [])
  | none, .varKeyword => some (.dict .fresh [])
  | none, _ => none

/-- Adds defaults to a binding, in the order of the parameters; parameters without a value stay
out. -/
def withDefaults (s : Signature) (bound : Named) : Named :=
  s.filterMap fun p =>
    match bound.get? p.name with
    | some v => some (p.name, v)
    | none => (defaultOf p).map (p.name, ·)

end FaultContext.Signature
