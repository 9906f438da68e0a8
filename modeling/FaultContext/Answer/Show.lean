/-
# FaultContext.Answer.Show -- the parts of answers, from what they show.

Everything here looks at a store and changes nothing.
-/
import FaultContext.Answer.Basic
import FaultContext.Chain
import FaultContext.Signature.Reading

namespace FaultContext

/-- The exception that ended a step.  Its links and contents are shown where it has any. -/
def ShownFailure.ofException (s : Store) (r : Ref) (stage : Option String) : ShownFailure :=
  let shown := Shown.ofValue s (.object r)
  let detail := match shown with
    | .exception _ _ _ [] => none
    | shown => some shown
  ⟨s.ownClassName (.object r), textOr "str" (s.str (.object r)), detail, stage⟩

/-- The end of a step whose calls are nested too deep. -/
def ShownFailure.exhausted : ShownFailure :=
  ⟨Fault.endlessText.cls.name, Fault.endlessText.message, none, none⟩

/-- A parameter. -/
def ShownParam.ofParam (s : Store) (p : Param) : ShownParam :=
  ⟨p.name, p.kind, p.default.map (Shown.ofValue s)⟩

/-- The parameters of a signature. -/
def shownSignature (s : Store) (params : Signature) : List ShownParam :=
  params.map (ShownParam.ofParam s)

/-- A captured value. -/
def ShownCapture.ofCapture (s : Store) (c : Capture) : ShownCapture :=
  ⟨c.name, Shown.ofValue s c.source, c.parameters, c.allArguments⟩

/-- Where a context comes from. -/
def ShownSource.ofSource (s : Store) : ContextSource → ShownSource
  | .template t =>
    .template t.format (t.positional.map (ShownCapture.ofCapture s))
      (t.named.map (ShownCapture.ofCapture s))
  | .value v => .value (Shown.ofValue s v)
  | .provider _ passArguments => .provider passArguments

/-- Named values. -/
def shownNamed (s : Store) (named : Named) : List (String × Shown) :=
  named.map fun (n, v) => (n, Shown.ofValue s v)

/-- The layers of a failure.  The last one is told apart by its text where the layers may form a
circle. -/
def ShownChain.ofValue (s : Store) (cyclic : Bool) (v : Value) : Except Fault ShownChain := do
  let layers ← (← (Chain.layers s v).all).mapM fun layer => do
    return (s.ownClassName layer, ← s.str layer)
  let root ← Chain.root s v
  let text ← if cyclic then s.str root else s.repr root
  return ⟨layers, (s.ownClassName root, text), ← Chain.report s v⟩

/-- The plain name of a value that has one. -/
def plainName? (s : Store) (v : Value) : Option String :=
  match s.function? v with
  | some f => some f.name
  | none => s.qualifiedName? v

/-- The documentation that counts: that of the function at the bottom of all wrappers. -/
def innermostDoc (s : Store) (v : Value) : Option String :=
  (s.function? (s.unwrap v)).bind Function.doc

/-- What can be asked about a function, however it is attached to a class. -/
def ShownFunction.ofValue (s : Store) (target : Value) (kind : Option MethodKind) :
    Except Fault ShownFunction := do
  let params ← s.signature true target
  let ownParams ← s.signature false target
  let f := s.function? target
  let annotations := (f.map Function.annotations).getD []
  let attributes := ((f.map Function.attributes).getD []).mergeSort fun a b => decide (a.1 ≤ b.1)
  return {
    name := plainName? s target
    qualifiedName := s.qualifiedName? target
    doc := innermostDoc s target
    annotations := annotations.map fun (n, v) => (n, ShownType.ofValue s v)
    kind
    params := shownSignature s params
    ownParams := shownSignature s ownParams
    asynchronous := s.isAsynchronous target
    attributes := shownNamed s attributes }

end FaultContext
