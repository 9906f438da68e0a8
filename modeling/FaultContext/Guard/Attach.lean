/-
# FaultContext.Guard.Attach -- functions that can be guarded, and their guards.

A function is described before it is guarded: something without a single result, such as a class or
a generator, is refused.  Where the return annotation names the type of the failures, the binding
for that type is resolved at once, so that a missing or ambiguous one is found before the first
call.

The guard takes over everything that can be asked about the function: its names, documentation,
annotations and attributes.
-/
import FaultContext.Guard.Failure
import FaultContext.Language.Names
import FaultContext.TypeHint.Resolve

namespace FaultContext

open Eval

namespace Descriptor

/-! ## The return annotation -/

/-- The function whose annotations speak for a value. -/
def annotated? (s : Store) : Value → Option Function
  | .bound _ f => s.function? f
  | .object r =>
    match s.get? r with
    | some ⟨_, _, .static target⟩ | some ⟨_, _, .ofClass target⟩ => s.function? target
    | _ => s.function? (.object r)
  | _ => none

/-- Where the names in the annotations of a value are looked for: in the frame of the function at
the bottom of all wrappers. -/
def scopeOf (s : Store) (v : Value) : NameScope :=
  let inner := match v with
    | .bound _ f => f
    | v => v
  match s.function? (s.unwrap inner) with
  | some f => ⟨[f.frame], f.frame⟩
  | none => ⟨[], 0⟩

/-- Whether a function asks not to be looked at by its types. -/
def isUntyped (f : Function) : Bool := (f.attributes.get? "__no_type_check__").any Store.truthy

/-- Whether an exception leaves the annotation open until the first failure. -/
def isDeferred (s : Store) (r : Ref) : Bool :=
  s.isInstance (.object r) Standard.nameError || s.isInstance (.object r) Standard.typeError

/-- The return type that the annotation of a function names; the value none where there is no
annotation or where it cannot be resolved yet. -/
def returnHint (engine : Engine) (v : Value) : Eval Value := do
  let s ← store
  match annotated? s v with
  | none => return .none
  | some f =>
    if !f.annotations.has "return" || isUntyped f then return .none
    else
      let resolution := do
        let hints ← TypeHint.resolveNamed engine (scopeOf s v) f.annotations
        return (hints.get? "return").getD .none
      catchingIf isDeferred resolution fun r => do
        if ← reading World.reporting ⟨fun _ _ _ => rfl⟩ then
          addTrace ("Couldn't resolve return annotation of " ++ (← repr v) ++ ": " ++
            (← str (.object r)))
        return .none

/-! ## Describing -/

/-- A value without the wrapper that attaches it to a class, and the kind of that wrapper. -/
def unwrapMethod (s : Store) (v : Value) : Value × Option MethodKind :=
  match v with
  | .object r =>
    match s.get? r with
    | some ⟨_, _, .static target⟩ => (target, some .static)
    | some ⟨_, _, .ofClass target⟩ => (target, some .ofClass)
    | _ => (v, none)
  | _ => (v, none)

/-- A value without the wrapper that attaches it to a class. -/
def targetOf (s : Store) (v : Value) : Value := (unwrapMethod s v).1

/-- Whether a value is a class. -/
def isClass : Value → Bool
  | .cls _ => true
  | _ => false

/-- Both signatures of a function. -/
def signatures (s : Store) (v : Value) : Except Fault (Signature × Signature) := do
  let signature ← s.signature true v
  return (signature, ← s.signature false v)

/-- Whether an exception says that a function has no signature. -/
def isUnreadable (s : Store) (r : Ref) : Bool :=
  s.isInstance (.object r) Standard.typeError || s.isInstance (.object r) Standard.valueError

/-- Both signatures of a function; one without is refused. -/
def readSignatures (v : Value) : Eval (Signature × Signature) :=
  catchingIf isUnreadable (do lift (signatures (← store) v)) fun exc => do
    let message := "Can't read the signature of " ++ (← repr v)
    raiseNewFrom .applicabilityError message [] exc

/-- The qualified name of a value, or its text. -/
def nameOrText (v : Value) : Eval String := do
  match (← store).qualifiedName? v with
  | some name => return name
  | none => str v

/-- Refuses what has no single result: a class, something that cannot be called, or a generator.
The target is the value without the wrapper that attaches it to a class. -/
def checkTarget (v target : Value) : Eval Unit := do
  let s ← store
  if isClass target || !s.isCallable target then
    raiseNew .applicabilityError
      ("Error context can only be added to functions, not " ++ (← repr v))
  else if s.formOf target = .generator || s.formOf target = .asynchronousGenerator then
    raiseNew .applicabilityError
      ((← nameOrText target) ++
        " is a generator function; it has no single result to add context to")

/-- Describes a function that is to be guarded. -/
def ofValue (engine : Engine) (v : Value) : Eval Descriptor := do
  let s ← store
  let (target, kind) := unwrapMethod s v
  checkTarget v target
  let (signature, callSignature) ← readSignatures target
  return {
    target, signature, callSignature, kind
    asynchronous := s.isAsynchronous target
    hint := ← returnHint engine target }

end Descriptor

namespace Guard

/-! ## Attaching -/

/-- The names of a guard over something that has none. -/
def ownName : String := "errify_wrapper"

/-- The qualified name of a guard over something that has none. -/
def ownQualifiedName : String := "transform.<locals>.errify_wrapper"

/-- A text that a value has as an attribute. -/
def textOf? (s : Store) (v : Value) (name : String) : Option String :=
  match s.attr v name with
  | .ok (.str _ t) => some t
  | _ => none

/-- A guard as a function: it shows what its target shows. -/
def toFunction (s : Store) (g : Guard) : Function :=
  let target := g.descriptor.target
  match Descriptor.annotated? s target with
  | some f =>
    { f with
      params := Signature.everything
      wrapped := some target
      receiver := false
      code := .guard g }
  | none =>
    { name := (textOf? s target "__name__").getD ownName
      qualifiedName := (textOf? s target "__qualname__").getD ownQualifiedName
      doc := none
      annotations := []
      params := Signature.everything
      attributes := []
      wrapped := some target
      code := .guard g }

/-- Attaches a function to a class in the way its target was attached. -/
def rewrap (kind : Option MethodKind) (v : Value) : Eval Value :=
  match kind with
  | none => pure v
  | some .static => new ⟨Standard.staticMethod, [], .static v⟩
  | some .ofClass => new ⟨Standard.classMethod, [], .ofClass v⟩

/-- Resolves the binding for the failures that the return annotation names. -/
def resolveAhead (engine : Engine) (g : Guard) : Eval Unit := do
  match TypeHint.failureType g.descriptor.hint with
  | some payload => discard (Resolution.lookup engine g.bindings (.cls payload))
  | none =>
    let name ← g.descriptor.name
    trace (pure ("transform(" ++ name ++ "): failure types resolved on first failure"))

/-- The replacement of a described function. -/
def attach (engine : Engine) (g : Guard) : Eval Value := do
  g.resolveAhead engine
  let f := g.toFunction (← store)
  rewrap g.descriptor.kind (← new ⟨Standard.function, [], .function f⟩)

end Guard

/-- What a function is guarded with: a template with captures, or a context that is known before the
function is; and the number of a set of bindings. -/
inductive Decoration where
  | template (format : String) (args : List Value) (named : Named) (bindings : Nat)
  | source (context : ContextSource) (bindings : Nat)

namespace Decoration

/-- The number of the set of bindings. -/
def bindings : Decoration → Nat
  | .template _ _ _ id => id
  | .source _ id => id

/-- The context of a described function; a template is checked against the function's parameters.
-/
def context (d : Descriptor) : Decoration → Eval ContextSource
  | .template format args named _ => do
    let template := .str .fresh format
    liftTemplate template
      (ContextSource.parse (← store) template args named d.signature.names)
  | .source context _ => pure context

/-- Guards a function. -/
def apply (engine : Engine) (decoration : Decoration) (v : Value) : Eval Value := do
  let d ← Descriptor.ofValue engine v
  Guard.attach engine ⟨d, ← decoration.context d, decoration.bindings⟩

/-- Guards a function several times, beginning with the innermost guard. -/
def applyAll (engine : Engine) : List Decoration → Value → Eval Value
  | [], v => return v
  | decoration :: rest, v => do applyAll engine rest (← decoration.apply engine v)

end Decoration
end FaultContext
