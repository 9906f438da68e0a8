/-
# FaultContext.Program.Run -- what the steps of a program do.

Each step is a computation that ends with an answer.  A step that raises ends with the answer that
says so, and what it had changed until then stays changed; the steps after it go on from there.
-/
import FaultContext.Answer.Show
import FaultContext.Program.Declare

namespace FaultContext

open Eval

/-! ## Ends of computations -/

/-- Runs a computation to its end, raised exceptions included. -/
def attempt {α : Type} (m : Eval α) : Eval (Except Ref α) :=
  catchingIf (fun _ _ => true) (do return .ok (← m)) fun r => return .error r

/-- The answer of a computation that may have raised an exception. -/
def answered (m : Eval Answer) : Eval Answer := do
  match ← attempt m with
  | .ok a => return a
  | .error r => return .failed (ShownFailure.ofException (← store) r none)

/-- Runs a session and tells what was observed meanwhile. -/
def observing (m : Session Answer) : Session (Answer × Observed) := do
  modify fun w => { w with observed := Observed.nothing }
  let a ← tryCatch m fun
    | .raised r => do return .failed (ShownFailure.ofException (← get).store r none)
    | .exhausted => return .failed ShownFailure.exhausted
  let seen := (← get).observed
  modify fun w => { w with observed := Observed.nothing }
  return (a, seen)

/-! ## Templates -/

/-- The arguments of a call. -/
def ArgumentsTerm.eval (engine : Engine) (t : ArgumentsTerm) : Eval (List Value × Named) := do
  let args ← evalTerms engine t.args
  return (args, ← evalNamed engine [] t.named)

/-- A failed call. -/
def ScopeTerm.eval (engine : Engine) (t : ScopeTerm) : Eval Scope := do
  let arguments ← evalNamed engine [] t.arguments
  let (args, named) ← t.call.eval engine
  return ⟨args, named, arguments⟩

/-- Renders a context for several failed calls. -/
def renderAll (engine : Engine) (source : ContextSource) : List ScopeTerm → Eval (List Answer)
  | [] => return []
  | t :: rest => do
    let a ← answered do
      let scope ← t.eval engine
      let v ← source.render engine scope
      return .value (Shown.ofValue (← store) v)
    return a :: (← renderAll engine source rest)

/-- Shows a source and what it renders to. -/
def answerSource (engine : Engine) (source : ContextSource) (scopes : List ScopeTerm) :
    Eval Answer := do
  let shown := ShownSource.ofSource (← store) source
  return .source shown (← renderAll engine source scopes)

/-- The fields of a template. -/
def answerFields (template : String) : Eval Answer := do
  let fields := Format.Fields.ofText template.toList
  match fields.malformed with
  | some m => templateFault (.str .fresh template) (.malformed m)
  | none => return .fields (fields.found.map fun (n, c) => (String.ofList n, c))

/-! ## Results -/

/-- An answer with a value that may be the result it was made from. -/
def answerFrom (current v : Value) : Eval Answer := do
  let s ← store
  let shown := Shown.ofValue s v
  if (Outcome.of? s v).isSome then return .valueSame shown (v.same current)
  else return .value shown

/-- The value that a question is about: the current one unless another is given. -/
def subject (engine : Engine) (current : Value) : Option Term → Eval Value
  | none => return current
  | some t => t.eval engine

/-- What an operation makes of a result. -/
def ResultOperation.apply (engine : Engine) (current : Value) : ResultOperation → Eval Value
  | .map body => Outcome.map (fun v => body.eval engine [("x", v)]) current
  | .mapErr body => Outcome.mapErr (fun v => body.eval engine [("x", v)]) current
  | .isOk => do
    discard (Outcome.need "is_ok" current)
    return .bool (Outcome.isOk (← store) current)
  | .isErr => do
    discard (Outcome.need "is_err" current)
    return .bool (Outcome.isErr (← store) current)
  | .unwrap => Outcome.unwrapped current
  | .unwrapErr => Outcome.unwrapErr current
  | .unwrapOr t => do Outcome.unwrapOr current (← t.eval engine)
  | .isOkOf t => do
    let v ← subject engine current t
    return .bool (Outcome.isOk (← store) v)
  | .isErrOf t => do
    let v ← subject engine current t
    return .bool (Outcome.isErr (← store) v)
  | .eq t => do
    let other ← t.eval engine
    return .bool ((← store).equal current other)
  | .lt t => do
    let other ← t.eval engine
    return .bool (← lift ((← store).before .less current other))
  | .le t => do
    let other ← t.eval engine
    return .bool (← lift ((← store).before .atMost current other))
  | .repr => do return .str .fresh (← Eval.repr current)
  | .set name t => do
    let v ← t.eval engine
    Eval.assign current name v
    return .none

/-- Whether the result of an operation is what the next one is applied to. -/
def ResultOperation.isStep : ResultOperation → Bool
  | .map _ | .mapErr _ => true
  | _ => false

/-- Applies operations to a result, one after the other. -/
def applyAll (engine : Engine) (current : Value) : List ResultOperation → Eval (List Answer)
  | [] => return []
  | op :: rest => do
    match ← attempt (op.apply engine current) with
    | .ok v =>
      let a ← answerFrom current v
      return a :: (← applyAll engine (if op.isStep then v else current) rest)
    | .error r =>
      let a := .failed (ShownFailure.ofException (← store) r none)
      return a :: (← applyAll engine current rest)

/-! ## Values -/

/-- A failure as the value it carries, and anything else as it is. -/
def payloadOr (s : Store) (v : Value) : Value := (Guard.payload? s v).getD v

/-- Shows a value with its texts and, for a layer of context, the layers below. -/
def answerShow (engine : Engine) (t : Term) (cyclic : Bool) : Eval Answer := do
  let v ← t.eval engine
  let s ← store
  let v := payloadOr s v
  let text ← str v
  let repr ← if cyclic then pure none else do pure (some (← Eval.repr v))
  let chain ←
    if s.isInstance v Standard.contextError then do
      pure (some (← lift (ShownChain.ofValue s cyclic v)))
    else pure none
  return .shown (Shown.ofValue s v) text repr chain

/-- Sets a variable. -/
def setVariable (name : String) (v : Value) : Eval Unit :=
  changeRest (fun w => { w with values := w.values.set name v }) (fun _ => ⟨rfl, rfl, rfl, rfl⟩)
    ⟨fun _ _ _ => rfl, fun _ hw => hw⟩

/-- The name under which the last outcome is kept. -/
def lastName : String := "$last"

/-! ## Types -/

/-- Answers a question about types. -/
def TypeQuestion.answer (engine : Engine) : TypeQuestion → Eval Answer
  | .origin t => do
    let v ← t.eval engine
    return .type (ShownType.ofValue (← store) (TypeHint.originOf v))
  | .args t => do
    let v ← t.eval engine
    return .types (ShownType.ofValues (← store) (TypeHint.argsOf v))
  | .failureType t => do
    let v ← t.eval engine
    let found := (TypeHint.failureType v).map Value.cls
    return .type (ShownType.ofValue (← store) (.ofOption found))
  | .hasOrigin t origins count => do
    let v ← t.eval engine
    let origins ← evalTypes engine origins
    return .truth (TypeHint.hasOrigin (← store) v origins count)
  | .isSubclass t ancestors => do
    let v ← t.eval engine
    let ancestors ← evalTypes engine ancestors
    return .truth (TypeHint.isSubclassSafe (← store) v ancestors)
  | .returnHint f => do
    let v ← f.eval engine
    let hint ← Descriptor.returnHint engine v
    return .type (ShownType.ofValue (← store) hint)

/-- What a class answers when it has been declared. -/
def answerClass (c : Class) : Eval Answer := do
  let s ← store
  return .order ((s.order c).map s.className)
    (TypeHint.isSubclassSafe s (.cls c) [.std .wrapErr])

/-! ## Caches -/

/-- Gives a cache an answer, and tells the answer that counts. -/
def completeCache (c : Cache Value) (type : Value) (answer : Option Value) :
    Eval (Option Value × Cache Value) := do
  if ← Resolution.warnUnhashable type then return (answer, c)
  else return c.remember (← store) (← thread) type answer

/-- What a step does with a cache. -/
def CacheStep.apply (engine : Engine) (c : Cache Value) :
    CacheStep → Session (Cache Value × Answer)
  | .get t => do
    let type ← t.eval engine
    let found ← Resolution.remembered c type
    return (c, .value (Shown.ofValue (← store) (.ofOption found)))
  | .complete t answer => do
    let type ← t.eval engine
    let v ← answer.eval engine
    let (counts, c) ← completeCache c type (if v.isNone then none else some v)
    return (c, .value (Shown.ofValue (← store) (.ofOption counts)))
  | .clear => return (c.clear, .done)
  | .declare t => do
    let cls ← t.declare engine
    return (c, ← answerClass cls)

/-- Runs steps with a cache. -/
def runCache (engine : Engine) (c : Cache Value) :
    List (CacheStep × Bool) → Session (List (Answer × Observed))
  | [] => return []
  | (step, isNew) :: rest => do
    modify fun w => { w with observed := Observed.nothing }
    let outcome ← Session.attempt (Session.onThread isNew (step.apply engine c))
    let seen := (← get).observed
    modify fun w => { w with observed := Observed.nothing }
    match outcome with
    | .ok (next, a) => return (a, seen) :: (← runCache engine next rest)
    | .error r =>
      let a := .failed (ShownFailure.ofException (← get).store r none)
      return (a, seen) :: (← runCache engine c rest)

/-! ## Bindings -/

/-- The number of a set of bindings. -/
def setNamed : Option String → Eval Nat
  | none => return defaultSet
  | some name => do named (← reading (·.setNames.lookup name) ⟨fun _ _ _ => rfl⟩) name

/-- The value of a binding term. -/
def BindingTerm.eval : BindingTerm → Eval Binding
  | .standard b => return b
  | .function name body => do
    let f ← newFunction
      { name
        qualifiedName := name
        doc := none
        annotations := []
        params := [⟨"error", .standard, none⟩, ⟨"context", .standard, none⟩]
        attributes := []
        wrapped := none
        code := .body .direct body 0 none }
    return .custom f

/-- The value of a binding term that may be left out. -/
def evalBinding? : Option BindingTerm → Eval (Option Binding)
  | none => return none
  | some t => do return some (← t.eval)

/-- A new function that is written as a rule; one without a name of its own is an object that is
called. -/
def newRule (name : String) (anonymous : Bool) (params : List String) (rule : CustomRule) :
    Eval Value := do
  let own : Signature := params.map fun n => ⟨n, .standard, none⟩
  let f ← newFunction
    { name
      qualifiedName := name
      doc := none
      annotations := []
      params := if anonymous then withSelf own else own
      attributes := []
      wrapped := none
      receiver := anonymous
      code := .rule rule }
  if anonymous then new ⟨Standard.callable, [], .callable ("<rule " ++ name ++ ">") f⟩ else return f

/-- The value of a rule term. -/
def RuleTerm.eval (engine : Engine) : RuleTerm → Eval Rule
  | .standard rule => return rule
  | .custom name anonymous matching types seed delegate binding => do
    let types ← evalTypes engine types
    let binding ← evalBinding? binding
    let delegate ← match delegate with
      | none => pure none
      | some t => do pure (some (← t.eval engine))
    let seed ← evalBinding? seed
    let rule := { label := "rule:" ++ name, matching, types, seed, delegate, binding }
    return .program (← newRule name anonymous ["typ", "ctx"] rule)

/-- The value of a fallback that answers with a binding, or with none. -/
def evalFallback (answer : Option BindingTerm) : Eval Fallback := do
  let binding ← evalBinding? answer
  let rule :=
    { label := "fallback", matching := .all, types := [], seed := none, delegate := none, binding }
  return .program (← newRule "fallback" false ["typ"] rule)

/-- A new set of bindings. -/
def BindingSetTerm.eval (engine : Engine) (t : BindingSetTerm) : Eval BindingSet := do
  let rules ← t.rules.mapM (RuleTerm.eval engine)
  let conventions ← t.conventions.mapM (RuleTerm.eval engine)
  let fallback ← match t.fallback with
    | none => pure .missing
    | some answer => evalFallback answer
  return ⟨rules, conventions, fallback, Cache.empty t.threadLocal, Registry.initial⟩

/-- Makes a set of bindings and gives it a name, unless its conventions are at odds. -/
def BindingSetTerm.make (engine : Engine) (name : String) (t : BindingSetTerm) : Session Unit := do
  let id ← Session.addSet (← t.eval engine)
  Resolution.checkConventions engine id
  modify fun w => { w with setNames := (name, id) :: w.setNames }

/-- An answer with the outcome of merging, which is kept as the last one. -/
def answerMerged (error merged : Value) : Eval Answer := do
  setVariable lastName merged
  return .valueSame (Shown.ofValue (← store) merged) (merged.same error)

/-- Asks a rule that has no set of bindings to turn to: in the place of one there is an object that
has no registry. -/
def askAlone (engine : Engine) (type : Value) : Rule → Eval (Option Binding)
  | .registered => return none
  | .program f => do
    let context ← new ⟨Standard.object, [], .plain⟩
    return Binding.ofValue? (← engine.call f [] [("typ", type), ("ctx", context)])
  | rule => Resolution.ask engine defaultSet type rule

/-! ## Functions -/

/-- Refuses a capture under a name that is taken. -/
def checkCaptureNames (named : Named) : Eval Unit :=
  match named.find? fun (n, _) => n = "self" || n = "template" with
  | some (n, _) => fault (.call "Errify.context" (.multipleValues n))
  | none => pure ()

/-- Checks a guard as far as it can be checked without the function. -/
def DecoratorTerm.build (engine : Engine) : DecoratorTerm → Eval Decoration
  | .template t args named bindings => do
    let id ← setNamed bindings
    let template ← t.eval engine
    let args ← evalTerms engine args
    let named ← evalNamed engine [] named
    checkCaptureNames named
    match template with
    | .str _ format => return .template format args named id
    | v =>
      let context ← liftTemplate v (ContextSource.parse (← store) v args named [])
      return .source context id
  | .provider t bindings => do
    let id ← setNamed bindings
    let v ← t.eval engine
    let context ← liftTemplate .none (ContextSource.parseProvider (← store) v)
    return .source context id

/-- Puts guards around a function, numbered from the given number on; a failure is put down to the
building or the applying of one of them. -/
def decorate (engine : Engine) (v : Value) : Nat → List DecoratorTerm → Eval (Except Answer Value)
  | _, [] => return .ok v
  | number, t :: rest => do
    let failed (stage : String) (r : Ref) : Eval (Except Answer Value) := do
      return .error (.failed (ShownFailure.ofException (← store) r (some s!"{stage} {number}")))
    match ← attempt (t.build engine) with
    | .error r => failed "build" r
    | .ok decoration =>
      match ← attempt (decoration.apply engine v) with
      | .error r => failed "apply" r
      | .ok v => decorate engine v (number + 1) rest

/-- A guarded function. -/
def DefinitionTerm.eval (engine : Engine) (t : DefinitionTerm) : Eval (Except Answer Value) := do
  decorate engine (← t.target.eval engine) 0 t.decorators

/-- What can be asked about a function. -/
def answerFunction (v : Value) : Eval Answer := do
  let s ← store
  let (target, kind) := Descriptor.unwrapMethod s v
  return .defined (← lift (ShownFunction.ofValue s target kind))

/-- Gives a function a name. -/
def setFunction (name : String) (v : Value) : Eval Unit :=
  changeRest (fun w => { w with functions := w.functions.set name v })
    (fun _ => ⟨rfl, rfl, rfl, rfl⟩) ⟨fun _ _ _ => rfl, fun _ hw => hw⟩

/-- Defines a function under a name. -/
def DefinitionTerm.define (engine : Engine) (t : DefinitionTerm) : Eval Answer := do
  match ← t.eval engine with
  | .error a => return a
  | .ok v =>
    setFunction t.name v
    answerFunction v

/-- The methods of a class with an answer for each; one that fails is left out. -/
def evalMethods (engine : Engine) : List MethodTerm → Eval (Named × List Answer)
  | [] => return ([], [])
  | m :: rest => do
    let outcome ← attempt do
      match ← m.definition.eval engine with
      | .error a => return (none, a)
      | .ok v =>
        let v ← m.outer.eval engine m.definition.name v
        return (some v, ← answerFunction v)
    let (member, a) ← match outcome with
      | .ok found => pure found
      | .error r => do pure (none, .failed (ShownFailure.ofException (← store) r none))
    let (members, answers) ← evalMethods engine rest
    return (member.toList.map (m.definition.name, ·) ++ members, a :: answers)

/-- Declares a class with methods. -/
def declareStruct (engine : Engine) (name : String) (methods : List MethodTerm) :
    Session Answer := do
  let (members, answers) ← evalMethods engine methods
  let c ← addClass name [Standard.object] members false
  modify fun w => { w with structs := (name, c) :: w.structs }
  return .methods answers

/-- What a guard would know of a function, and what it makes of some calls. -/
def answerDescribe (engine : Engine) (target : Term) (calls : List ArgumentsTerm) :
    Eval Answer := do
  let d ← Descriptor.ofValue engine (← target.eval engine)
  let calls ← calls.mapM (ArgumentsTerm.eval engine)
  let name ← d.name
  let s ← store
  let failure := (TypeHint.failureType d.hint).map Value.cls
  return .described {
    name
    params := d.signature.names
    signature := shownSignature s d.signature
    callSignature := shownSignature s d.callSignature
    asynchronous := d.asynchronous
    kind := d.kind
    hint := ShownType.ofValue s d.hint
    failureType := ShownType.ofValue s (.ofOption failure)
    accepts := calls.map fun (args, named) => d.callSignature.accepts args named
    scopes := calls.map fun (args, named) => shownNamed s (Scope.argumentsOf d args named) }

/-! ## Calls -/

/-- What is called. -/
def CalleeTerm.eval : CalleeTerm → Eval Value
  | .function name => definedFunction name
  | .method struct name throughInstance => do
    let c ← named (← reading (·.structs.lookup struct) ⟨fun _ _ _ => rfl⟩) struct
    if throughInstance then
      let v ← new ⟨c, [], .named struct⟩
      lift ((← store).attr v name)
    else lift ((← store).attr (.cls c) name)

/-- Whether a value waits to be run. -/
def isCoroutine : Value → Bool
  | .coroutine .. => true
  | _ => false

/-- Whether a value has an identity that an answer tells of. -/
def hasIdentity (s : Store) (v : Value) : Bool :=
  s.isException v || (Outcome.of? s v).isSome || s.isInstance v Standard.report ||
    s.isInstance v Standard.named

/-- Runs a coroutine to its end.  An exception that is scheduled before anything has happened is
raised in its place. -/
def drive (engine : Engine) (v : Value) : Option Scheduled → Eval Value
  | some ⟨0, r⟩ => asCoroutine (raise r)
  | _ => engine.await v

/-- The exception that is to be thrown. -/
def ThrowTerm.eval (engine : Engine) (t : ThrowTerm) : Eval Scheduled := do
  let v ← t.exception.eval engine
  match (← store).exception? v with
  | some r => return ⟨t.suspensions, r⟩
  | none =>
    let type := (← store).typeName v
    let r ← newException Standard.typeError
      [.str .fresh
        ("exceptions must be classes or instances deriving from BaseException, not " ++ type)] []
    return ⟨t.suspensions, r⟩

/-- The exception that is to be thrown, if there is one. -/
def evalThrow? (engine : Engine) : Option ThrowTerm → Eval (Option Scheduled)
  | none => return none
  | some t => do return some (← t.eval engine)

/-- Calls something and tells how it ended.  A coroutine that is returned is run to its end.
Suspensions are counted from the beginning of the call. -/
def answerCall (engine : Engine) (callee : CalleeTerm) (args : ArgumentsTerm)
    (thrown : Option ThrowTerm) : Session Answer := do
  let f ← callee.eval
  let (args, named) ← args.eval engine
  let scheduled ← evalThrow? engine thrown
  modify fun w => { w with suspensions := 0, scheduled := none }
  let called ← attempt (engine.call f args named)
  let (outcome, driven) ← match called with
    | .ok v =>
      if isCoroutine v then do
        modify fun w => { w with scheduled }
        let ended ← attempt (drive engine v scheduled)
        modify fun w => { w with scheduled := none }
        pure (ended, true)
      else pure (.ok v, false)
    | .error r => pure (.error r, false)
  let w ← get
  let (raised, v) := match outcome with
    | .ok v => (false, v)
    | .error r => (true, .object r)
  let known := ((w.values.filter fun (n, _) => n != lastName) ++ named).map Prod.snd ++ args
  setVariable lastName v
  return .called {
    raised
    value := Shown.ofValue w.store v
    suspensions := if driven then some w.suspensions else none
    same := if hasIdentity w.store v then some (known.any v.same) else none }

/-! ## Steps -/

/-- What a step does. -/
def Step.run (engine : Engine) : Step → Session Answer
  | .trace on => do
    modify fun w => { w with tracing := on, reporting := on }
    return .done
  | .fields text => answerFields text
  | .template t args named params scopes => do
    let v ← t.eval engine
    let args ← evalTerms engine args
    let named ← evalNamed engine [] named
    let source ← liftTemplate v (ContextSource.parse (← store) v args named params)
    answerSource engine source scopes
  | .provider t scopes => do
    let v ← t.eval engine
    let source ← liftTemplate .none (ContextSource.parseProvider (← store) v)
    answerSource engine source scopes
  | .result t operations => do
    let v ← t.eval engine
    return .results (← applyAll engine v operations)
  | .bind name t => do
    let v ← t.eval engine
    setVariable name v
    return .value (Shown.ofValue (← store) v)
  | .assign name field t => do
    let target ← variableNamed name
    let v ← t.eval engine
    Eval.assign target field v
    return .value (Shown.ofValue (← store) target)
  | .show t cyclic => answerShow engine t cyclic
  | .question q => q.answer engine
  | .cache threadLocal steps => do
    return .steps (← runCache engine (Cache.empty threadLocal) steps)
  | .declare t => do answerClass (← t.declare engine)
  | .bindings name set => do
    set.make engine name
    return .done
  | .register t binding chosen => do
    let id ← setNamed chosen
    let type ← t.eval engine
    Session.register id type (← binding.eval)
    return .same true
  | .lookup t chosen => do
    let id ← setNamed chosen
    let type ← t.eval engine
    let found ← Resolution.lookup engine id type
    return .binding (some (Resolution.bindingName (← store) found))
  | .wrap error context chosen => do
    let id ← setNamed chosen
    let error ← error.eval engine
    let context ← context.eval engine
    answerMerged error (← Resolution.wrap engine id error context)
  | .bindRaw binding error context => do
    let b ← binding.eval
    let error ← error.eval engine
    let context ← context.eval engine
    answerMerged error (← Resolution.apply engine (some b) error context)
  | .dispatch error context chosen => do
    let id ← setNamed chosen
    let error ← error.eval engine
    let context ← context.eval engine
    let s ← store
    let type := .cls (s.classOf error)
    match (← Resolution.bindingSet id).registry.dispatch s type with
    | .error refusal => Resolution.refuse type refusal
    | .ok found =>
      let v ← Resolution.apply engine found error context
      return .value (Shown.ofValue (← store) v)
  | .rule t type => do
    let asked ← t.eval engine
    let type ← type.eval engine
    let found ← askAlone engine type asked
    let s ← store
    return .binding (found.map fun b => Resolution.bindingName s (some b))
  | .describe target calls => answerDescribe engine target calls
  | .define t => t.define engine
  | .struct name methods => declareStruct engine name methods
  | .call callee args thrown => answerCall engine callee args thrown

/-- Runs steps one after the other. -/
def runSteps (engine : Engine) : List (Step × Bool) → Session (List (Answer × Observed))
  | [] => return []
  | (step, isNew) :: rest => do
    let a ← observing (Session.onThread isNew (step.run engine))
    return a :: (← runSteps engine rest)

/-- Does a task in a new world: the answer and what was observed. -/
def Task.run (engine : Engine) : Task → Answer × Observed
  | .step one => finish (observing (one.run engine))
  | .program steps => finish do return (.steps (← runSteps engine steps), Observed.nothing)
where
  finish (m : Session (Answer × Observed)) : Answer × Observed :=
    match (m World.initial).1 with
    | .ok a => a
    | .error _ => (.failed ShownFailure.exhausted, Observed.nothing)

end FaultContext
