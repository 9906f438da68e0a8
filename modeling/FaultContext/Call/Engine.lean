/-
# FaultContext.Call.Engine -- calling values and awaiting coroutines.

Calling a function matches the arguments to its parameters and then does what its code says.
Calling an asynchronous function only checks the arguments; the code runs when the coroutine is
awaited, in place, and a suspension is an event that is counted.  An exception that is scheduled
for a suspension is raised there instead of going on.

Calls nest at most as deep as an engine allows.  An engine is built from the next shallower one, so
every definition here is a plain function of an engine, and `Engine.within` is the only recursion.
-/
import FaultContext.Call.Body
import FaultContext.Call.Method
import FaultContext.Guard.Attach

namespace FaultContext

open Eval

/-! ## Arguments -/

/-- The names that a body sees, in the order in which it lists them. -/
def Function.localNames (f : Function) : List String :=
  Signature.localOrder (if f.receiver then f.params.drop 1 else f.params)

/-- What every parameter that a body sees holds in a call. -/
def Function.enter (f : Function) (args : List Value) (named : Named) : Eval Named :=
  match f.params.enter args named with
  | .ok slots => pure (f.localNames.filterMap fun n => (slots.get? n).map (n, ·))
  | .error problem => fault (.call f.qualifiedName problem)

/-- Joins named arguments; a name may be given only once. -/
def joinNamed (f : Function) (first second : Named) : Eval Named :=
  match second.find? fun (n, _) => first.has n with
  | some (n, _) => fault (.repeatedKeyword ("drv." ++ f.qualifiedName) n)
  | none => pure (first ++ second)

/-- Named arguments out of a collector. -/
def spreadNamed : Value → Named
  | .dict _ entries => entries.filterMap fun
    | (.str _ n, v) => some (n, v)
    | _ => none
  | _ => []

/-- Adds an argument that a relaying layer passes on. -/
def passOn (f : Function) (slots : Named) (given : List Value × Named) :
    PassedArgument → Eval (List Value × Named)
  | .positional n => return (given.1 ++ [slots.slot n], given.2)
  | .spread n => do return (given.1 ++ (← lift ((← store).iterate (slots.slot n))), given.2)
  | .spreadNamed n => do return (given.1, ← joinNamed f given.2 (spreadNamed (slots.slot n)))
  | .named keyword n => do return (given.1, ← joinNamed f given.2 [(keyword, slots.slot n)])

/-- The function that a layer is over, for the wording of a call that does not fit. -/
def layered (target : Value) (f : Function) : Eval Function := do
  return ((← store).function? target).getD f

/-- The arguments with which a relaying layer calls its target. -/
def relayed (f : Function) (slots : Named) (passed : List PassedArgument) (args : List Value)
    (named : Named) : Eval (List Value × Named) := do
  let (args, given) ← passed.foldlM (passOn f slots) (args, [])
  return (args, ← joinNamed f given named)

/-! ## Coroutines -/

/-- Runs code that the end of an iteration cannot leave. -/
def enclosed {α : Type} (what : String) (m : Eval α) : Eval α :=
  catching .stopIteration m (raiseNewFrom .runtimeError (what ++ " raised StopIteration") [])

/-- Runs the code of a coroutine. -/
def asCoroutine {α : Type} (m : Eval α) : Eval α := enclosed "coroutine" m

/-- Counts a suspension. -/
def countSuspension : Eval Unit :=
  changeRest (World.suspended 1) (fun _ => ⟨rfl, rfl, rfl, rfl⟩)
    ⟨fun w n _ => by rw [World.suspended_suspended, World.suspended_suspended, Nat.add_comm],
      fun _ hw => hw⟩

/-- The exception that is scheduled for the suspension that has just been counted. -/
def World.due? (w : World) : Option Ref :=
  match w.scheduled with
  | some scheduled =>
    if scheduled.suspensions = w.suspensions then some scheduled.exception else none
  | none => none

theorem World.due?_of_unscheduled {w : World} (hw : w.scheduled = none) : w.due? = none := by
  rw [due?, hw]

/-- The exception that is due. -/
def dueException : Eval (Option Ref) :=
  reading World.due?
    ⟨fun w n hw => by
      rw [World.due?_of_unscheduled hw,
        show (w.suspended n).due? = none from World.due?_of_unscheduled hw]⟩

/-- Nothing is scheduled any longer. -/
def unschedule : Eval Unit :=
  changeRest (fun w => { w with scheduled := none }) (fun _ => ⟨rfl, rfl, rfl, rfl⟩)
    ⟨fun _ _ _ => rfl, fun _ _ => rfl⟩

/-- Suspends; an exception that is scheduled for this suspension is raised there, in the generator
that suspends. -/
def suspend : Eval Unit := do
  countSuspension
  match ← dueException with
  | some r =>
    unschedule
    enclosed "generator" (raise r)
  | none => pure ()

/-- Suspends a number of times. -/
def suspendTimes : Nat → Eval Unit
  | 0 => return
  | n + 1 => do
    suspend
    suspendTimes n

namespace Engine

/-- Calls a value; a coroutine is then run to its end. -/
def complete (engine : Engine) (asynchronous : Bool) (v : Value) (args : List Value)
    (named : Named) : Eval Value := do
  let result ← engine.call v args named
  if asynchronous then engine.await result else return result

/-- Runs the code of a function on arguments that fit. -/
def run (engine : Engine) (f : Function) (args : List Value) (named : Named) : Eval Value :=
  match f.code with
  | .body _ expr awaits awaited => do
    let locals ← f.enter args named
    suspendTimes awaits
    match awaited with
    | none => expr.eval engine locals
    | some call =>
      let r ← engine.await (← call.eval engine locals)
      expr.eval engine (locals ++ [("$r", r)])
  | .inject target injected injectedNamed asynchronous => do
    let named ← joinNamed (← layered target f) injectedNamed named
    engine.complete asynchronous target (injected ++ args) named
  | .relay target passed injected injectedNamed asynchronous => do
    let slots ← f.enter args named
    let (args, named) ← relayed (← layered target f) slots passed injected injectedNamed
    engine.complete asynchronous target args named
  | .rule rule => do
    let slots ← f.enter args named
    Resolution.applyRule engine rule (slots.slot "typ") (slots.slot "ctx")
  | .phrase _ body scope => do
    let slots ← f.enter args named
    let frame ← newFrame slots
    body.eval engine (scope.enter frame)
  | .guard g =>
    g.run engine args named
      (engine.complete g.descriptor.asynchronous g.descriptor.target args named)

/-- Calls a function: what its code does happens now, later or never. -/
def callFunction (engine : Engine) (v : Value) (f : Function) (args : List Value)
    (named : Named) : Eval Value := do
  match f.code.form with
  | .direct => engine.run f args named
  | .asynchronous =>
    discard (f.enter args named)
    return .coroutine .fresh v args named
  | .generator =>
    discard (f.enter args named)
    new ⟨Standard.generator, [], .generator f.qualifiedName⟩
  | .asynchronousGenerator =>
    discard (f.enter args named)
    new ⟨Standard.asyncGenerator, [], .generator f.qualifiedName⟩

/-- Sets the number of calls of a counter. -/
def setCount (r : Ref) (count : Nat) : Eval Unit :=
  modifyObject r
    (fun o =>
      match o.body with
      | .counter v _ => { o with body := .counter v count }
      | _ => o)
    fun ⟨_, _, body⟩ => by cases body <;> rfl

/-- Calls a counter: every call is logged with its number. -/
def callCounter (r : Ref) (v : Value) (count : Nat) (args : List Value) (named : Named) :
    Eval Value := do
  match Signature.enter [⟨"self", .standard, none⟩] (.object r :: args) named with
  | .error problem => fault (.call "Counter.__call__" problem)
  | .ok _ =>
    setCount r (count + 1)
    log s!"count:{count + 1}"
    return v

/-- Calls an object. -/
def callObject (engine : Engine) (r : Ref) (args : List Value) (named : Named) : Eval Value := do
  let s ← store
  match (s.get? r).map Object.body with
  | some (.function f) => engine.callFunction (.object r) f args named
  | some (.counter v count) => callCounter r v count args named
  | some (.applied target given givenNamed) =>
    engine.call target (given ++ args) (named.foldl (fun all (n, v) => all.set n v) givenNamed)
  | some (.callable _ target) => engine.call target (.object r :: args) named
  | some (.static target) => engine.call target args named
  | _ => fault (.notCallable (s.typeName (.object r)))

/-- Whether making an instance of a class takes the items of its arguments. -/
def takesItems : Class → Bool
  | .standard .list | .standard .tuple | .standard .dict | .standard .set | .standard .frozenSet
  | .standard .bytes => true
  | _ => false

/-- Calls a class. -/
def callClass (engine : Engine) (c : Class) (args : List Value) (named : Named) : Eval Value := do
  let iterator := match c with
    | .standard c => Builtin.iterator? engine c args named
    | .declared _ => none
  match iterator with
  | some made => made
  | none =>
    let args ← if takesItems c then args.mapM (Items.held engine) else pure args
    construct c args named

/-- Calls a value. -/
def callValue (engine : Engine) (v : Value) (args : List Value) (named : Named) : Eval Value := do
  match v with
  | .cls c | .generic c _ | .classAlias c _ | .spreadAlias c _ => engine.callClass c args named
  | .typing head _ | .bare (.alias head) =>
    let name := Store.headText head
    let cls := (TypeHint.headClass head).name
    fault (.plain .typeError
      ("Type " ++ String.ofList (name.toList.drop 7) ++ " cannot be instantiated; use " ++ cls ++
        "() instead"))
  | .union _ | .bare .union => fault (.plain .typeError "Cannot instantiate typing.Union")
  | .bare .optional => fault (.plain .typeError "Cannot instantiate typing.Optional")
  | .unpacked _ | .bare .unpack => fault (.plain .typeError "Cannot instantiate typing.Unpack")
  | .native f => Method.callNative engine f args named
  | .member owner name =>
    if (← store).isCallable v then Method.callUnbound engine owner name args named
    else fault (.notCallable ((← store).typeName v))
  | .method self owner name => Method.call engine self owner name args named
  | .bound self f => engine.call f (self :: args) named
  | .object r => engine.callObject r args named
  | v => fault (.notCallable ((← store).typeName v))

/-- Awaits a value. -/
def awaitValue (engine : Engine) (v : Value) : Eval Value := do
  let s ← store
  match v with
  | .coroutine _ f args named =>
    match s.function? f with
    | some f => asCoroutine (engine.run f args named)
    | none => fault (.notAwaitable (s.typeName v))
  | v => fault (.notAwaitable (s.typeName v))

/-- An engine in which calls nest at most as deep as the given number. -/
def within : Nat → Engine
  | 0 => ⟨fun _ _ _ => exhausted, fun _ => exhausted⟩
  | depth + 1 => ⟨callValue (within depth), awaitValue (within depth)⟩

/-- How deep calls may nest. -/
def deepest : Nat := 2000

/-- The engine that programs run on. -/
def standard : Engine := within deepest

end Engine
end FaultContext
