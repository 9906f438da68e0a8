/-
# FaultContext.Language.Evaluate -- what terms denote.

Evaluating a term builds its value anew, so two evaluations of one term give two objects; only the
names of the program stand for what they stood for before.  The parts of a term are evaluated in the
order in which they are written.

Bodies of functions are not looked into here: a function takes its body along as it is
(`FaultContext.Call.Body`).
-/
import FaultContext.Language.Names
import FaultContext.TypeHint.Source
import FaultContext.World.Assign

namespace FaultContext

open Eval

/-! ## Names -/

/-- The value of a name, or the exception for a name that nothing is known under. -/
def named {α : Type} (found : Option α) (name : String) : Eval α :=
  match found with
  | some a => pure a
  | none => fault (.missingKey (.str .fresh name))

/-- The value of a variable. -/
def variableNamed (name : String) : Eval Value := do
  named (← reading (·.values.get? name) ⟨fun _ _ _ => rfl⟩) name

/-- A function that the program has defined. -/
def definedFunction (name : String) : Eval Value := do
  named (← reading (·.functions.get? name) ⟨fun _ _ _ => rfl⟩) name

/-- A type by its name. -/
def typeNamed (name : String) : Eval Value := do
  named (← reading (·.typeNamed? name) ⟨fun _ _ _ => rfl⟩) name

/-! ## Functions -/

/-- A new function object. -/
def newFunction (f : Function) : Eval Value := new ⟨Standard.function, [], .function f⟩

/-- A layer around a function: it shows what the function shows, apart from its own parameters. -/
def layerOver (target : Value) (params : Signature) (code : Code) : Eval Value := do
  match (← store).function? target with
  | some f => newFunction { f with params, wrapped := some target, receiver := false, code }
  | none => return target

/-- The parameters of a function that objects are called by: the object itself comes first. -/
def withSelf (params : Signature) : Signature :=
  let kind : ParamKind :=
    if params.any (·.kind = .positionalOnly) then .positionalOnly else .standard
  ⟨"self", kind, none⟩ :: params

/-- Whether a function is handed out as an object that is called. -/
def ShapeTerm.isCallable : ShapeTerm → Bool
  | .callable => true
  | _ => false

/-- Adds notes to a value. -/
def addNotes (v : Value) (notes : List String) : Eval Unit := do
  for note in notes do
    match (← store).exception? v with
    | some r => addNote r (.str .fresh note)
    | none => fault (.noAttribute ((← store).typeName v) "add_note")

/-- The value of an entry of a table: its key has to be one that can be a key. -/
def addEntry (entries : List (Value × Value)) (k v : Value) : Eval (List (Value × Value)) := do
  let s ← store
  match s.unhashable? k with
  | some type => fault (.unhashable type)
  | none => return s.putEntry entries k v

mutual

/-- The value of a term. -/
def Term.eval (engine : Engine) : Term → Eval Value
  | .none => return .none
  | .bool b => return .bool b
  | .int n => handOut (.int .fresh n)
  | .str s => handOut (.str .fresh s)
  | .float spelling => do handOut (← lift (toFloatValue (← store) (.str .fresh spelling)))
  | .list items => do handOut (.list .fresh (← evalTerms engine items))
  | .tuple items => do handOut (.tuple .fresh (← evalTerms engine items))
  | .dict entries => do handOut (.dict .fresh (← evalEntries engine [] entries))
  | .contextExpr number => do
    construct Standard.contextExpr [← Term.eval engine number] []
  | .report message contexts => do
    let message ← Term.eval engine message
    construct Standard.report [message, .list .fresh (← evalTerms engine contexts)] []
  | .named id attributes => do
    new ⟨Standard.named, ← evalNamed engine [] attributes, .named id⟩
  | .unprintable => new ⟨Standard.unprintable, [], .plain⟩
  | .ok value => do ok (← Term.eval engine value)
  | .err error => do err (← Term.eval engine error)
  | .subErr error => do new ⟨Standard.subErr, [], .err (← Term.eval engine error)⟩
  | .construct cls args cause notes => do
    let cls ← TypeTerm.eval engine cls
    let v ← handOut (← engine.call cls (← evalTerms engine args) [])
    match ← evalTerm? engine cause with
    | some cause => assign v "__cause__" cause
    | none => pure ()
    addNotes v notes
    return v
  | .contextError context source => do
    let context ← Term.eval engine context
    match ← evalTerm? engine source with
    | some source => contextError context source
    | none => contextError context .none
  | .type type => TypeTerm.eval engine type
  | .function function => FunctionTerm.eval engine function
  | .builtin id => named (native? id) id
  | .counter value => do new ⟨Standard.counter, [], .counter (← Term.eval engine value) 0⟩
  | .variable id => variableNamed id
  | .defined id => definedFunction id

/-- The value of a term that may be left out. -/
def evalTerm? (engine : Engine) : Option Term → Eval (Option Value)
  | none => return none
  | some t => do return some (← Term.eval engine t)

/-- The values of several terms. -/
def evalTerms (engine : Engine) : List Term → Eval (List Value)
  | [] => return []
  | t :: rest => do
    let v ← Term.eval engine t
    return v :: (← evalTerms engine rest)

/-- Adds the values of named terms to names; a later value of a name replaces an earlier one. -/
def evalNamed (engine : Engine) (names : Named) : List (String × Term) → Eval Named
  | [] => return names
  | (id, t) :: rest => do
    let v ← Term.eval engine t
    evalNamed engine (names.set id v) rest

/-- The entries of a table. -/
def evalEntries (engine : Engine) (entries : List (Value × Value)) :
    List (Term × Term) → Eval (List (Value × Value))
  | [] => return entries
  | (k, v) :: rest => do
    let key ← Term.eval engine k
    let value ← Term.eval engine v
    evalEntries engine (← addEntry entries key value) rest

/-- The value of a type term. -/
def TypeTerm.eval (engine : Engine) : TypeTerm → Eval Value
  | .name id => typeNamed id
  | .generic head args => do
    let head ← typeNamed head
    let key ← match ← evalTypes engine args with
      | [one] => pure one
      | args => pure (.tuple .fresh args)
    lift (TypeHint.subscript (← store) head key)
  | .union members => do
    let members ← evalTypes engine members
    lift (TypeHint.joinAll (← store) members)
  | .typeVar id => return .typeVar id
  | .quoted type => return .str .fresh (TypeHint.typeSource type)
  | .source text => return .str .fresh text
  | .value value => Term.eval engine value

/-- The values of several type terms. -/
def evalTypes (engine : Engine) : List TypeTerm → Eval (List Value)
  | [] => return []
  | t :: rest => do
    let v ← TypeTerm.eval engine t
    return v :: (← evalTypes engine rest)

/-- The value of a type term that may be left out, under a name. -/
def evalAnnotation (engine : Engine) (name : String) : Option TypeTerm → Eval Named
  | none => return []
  | some t => do return [(name, ← TypeTerm.eval engine t)]

/-- A parameter, and its annotation under its name. -/
def ParamTerm.eval (engine : Engine) : ParamTerm → Eval (Param × Named)
  | .mk name kind default hint => do
    let default ← evalTerm? engine default
    return (⟨name, kind, default⟩, ← evalAnnotation engine name hint)

/-- Parameters, and their annotations. -/
def evalParams (engine : Engine) : List ParamTerm → Eval (Signature × Named)
  | [] => return ([], [])
  | p :: rest => do
    let (param, hints) ← ParamTerm.eval engine p
    let (params, annotations) ← evalParams engine rest
    return (param :: params, hints ++ annotations)

/-- A function with one more layer around it. -/
def LayerTerm.eval (engine : Engine) (target : Value) : LayerTerm → Eval Value
  | .inject args named asynchronous => do
    let args ← evalTerms engine args
    let named ← evalNamed engine [] named
    layerOver target Signature.everything (.inject target args named asynchronous)
  | .relay params passed args named asynchronous => do
    let (params, _) ← evalParams engine params
    let args ← evalTerms engine args
    let named ← evalNamed engine [] named
    layerOver target params (.relay target passed args named asynchronous)

/-- A function with layers around it, the first one innermost. -/
def evalLayers (engine : Engine) (target : Value) : List LayerTerm → Eval Value
  | [] => return target
  | layer :: rest => do evalLayers engine (← LayerTerm.eval engine target layer) rest

/-- A function in the shape in which it is handed out. -/
def ShapeTerm.eval (engine : Engine) (name : String) (target : Value) : ShapeTerm → Eval Value
  | .plain => return target
  | .callable => new ⟨Standard.callable, [], .callable ("<callable " ++ name ++ ">") target⟩
  | .applied args named => do
    let args ← evalTerms engine args
    new ⟨Standard.partialFunction, [], .applied target args (← evalNamed engine [] named)⟩
  | .static => new ⟨Standard.staticMethod, [], .static target⟩
  | .ofClass => new ⟨Standard.classMethod, [], .ofClass target⟩

/-- The value of a function term. -/
def FunctionTerm.eval (engine : Engine) : FunctionTerm → Eval Value
  | .mk name params body form doc attributes returns layers shape awaits awaited => do
    let (params, annotations) ← evalParams engine params
    let returns ← evalAnnotation engine "return" returns
    let attributes ← evalNamed engine [] attributes
    let frame ← newFrame (← reading World.classNames ⟨fun _ _ _ => rfl⟩)
    let f ← newFunction
      { name
        qualifiedName := name
        doc
        annotations := annotations ++ returns
        params := if shape.isCallable then withSelf params else params
        attributes
        wrapped := none
        receiver := shape.isCallable
        frame
        code := .body form (body.getD (.value .none)) awaits awaited }
    ShapeTerm.eval engine name (← evalLayers engine f layers) shape

end

end FaultContext
