/-
# FaultContext.World.Initialize -- what a new object is given.

The initializers of the classes along the order of a class call one another in turn, so each of
them is run with the classes that follow it.  Most exceptions end the turn: they keep the
arguments, and a few of them repeat what the arguments say in attributes.

No initializer looks at anything but its arguments, so what an object is given is settled before
there is an object.
-/
import FaultContext.Value.Attribute
import FaultContext.World.Eval

namespace FaultContext

/-- The argument that a parameter holds. -/
def Named.slot (slots : Named) (name : String) : Value := (slots.get? name).getD .none

/-- What a new object is given: the arguments that an exception keeps, the attributes, and the
cause. -/
structure Initial where
  args : List Value
  attributes : Named
  cause : Option Ref

namespace Initial

/-- Gives one more attribute. -/
def set (i : Initial) (name : String) (v : Value) : Initial :=
  { i with attributes := i.attributes.set name v }

/-- Gives several attributes. -/
def setAll (i : Initial) (named : Named) : Initial := named.foldl (fun i (n, v) => i.set n v) i

/-! ## Arguments -/

/-- Matches the arguments of an initializer, the new object being the first of them. -/
def enter (name : String) (params : Signature) (args : List Value) (named : Named) :
    Except Fault Named :=
  match Signature.enter (⟨"self", .standard, none⟩ :: params) (.none :: args) named with
  | .ok slots => .ok slots
  | .error f => .error (.call (name ++ ".__init__") f)

/-! ## Exceptions that initialize themselves -/

/-- Whether the arguments of an error of the operating system are a number, a message and perhaps
more about it. -/
def isSystemReport (args : List Value) : Bool := 2 ≤ args.length && args.length ≤ 5

/-- Refuses a count of characters that is none. -/
def checkCount : Value → Except Fault Unit
  | .float _ _ =>
    .error (.plain .typeError "'float' object cannot be interpreted as an integer")
  | v =>
    match Store.place? v with
    | some n =>
      if Store.isPlace n then .ok () else .error (.plain .valueError Fault.placeRange.message)
    | none => .ok ()

/-- Gives what an error of the operating system is about.  Once a file is known only the number and
the message stay arguments.  Where an operation would have blocked, a number in the place of the
file is the count of characters that were written. -/
def systemReport (blocked : Bool) (args : List Value) (i : Initial) : Except Fault Initial := do
  if isSystemReport args then
    let i := (i.set "errno" (args.getD 0 .none)).set "strerror" (args.getD 1 .none)
    let file := args.getD 2 .none
    if blocked && file.number?.isSome then
      checkCount file
      return i
    else if !file.isNone then
      let i := i.set "filename" file
      let second := args.getD 4 .none
      let i := if second.isNone then i else i.set "filename2" second
      return { i with args := args.take 2 }
    else return i
  else return i

/-- Refuses named arguments other than the given ones. -/
def checkNamed (name : String) (allowed : List String) (named : Named) : Except Fault Unit :=
  if allowed.length < named.length then
    let ending := plural allowed.length
    .error (.plain .typeError
      (s!"{name}() takes at most {allowed.length} keyword argument{ending} " ++
        s!"({named.length} given)"))
  else
    match named.find? fun (n, _) => !allowed.contains n with
    | some (n, _) =>
      .error (.plain .typeError s!"'{n}' is an invalid keyword argument for {name}()")
    | none => .ok ()

/-- The attributes that the named arguments of an exception become; most exceptions take none. -/
def ofNamed (name : String) (c : Standard) (named : Named) : Except Fault Named :=
  match c with
  | .nameError | .attributeError => do
    checkNamed c.name c.slots named
    return named
  | _ =>
    if named.isEmpty then .ok []
    else .error (.plain .typeError (name ++ "() takes no keyword arguments"))

/-- Initializes an exception of the class `cls` by the class `c` that does so itself: the arguments
are kept, and some classes repeat them in attributes. -/
def byException (s : Store) (cls : Class) (c : Standard) (args : List Value) (named : Named)
    (i : Initial) : Except Fault Initial := do
  let i := i.setAll (← ofNamed (s.className cls) c named)
  let i := { i with args }
  if c = .stopIteration then return i.set "value" (args.headD .none)
  else if c = .systemExit then
    return i.set "code" (match args with
      | [] => .none
      | [a] => a
      | _ => .tuple .fresh args)
  else if c.isSubclass .osError then systemReport (cls = Standard.blockingIOError) args i
  else return i

/-! ## Initializers that call one another -/

/-- Runs the initializers of the classes along an order, for an object of the class `cls`. -/
def along (s : Store) (cls : Class) :
    List Class → List Value → Named → Initial → Except Fault Initial
  | [], _, _, i => .ok i
  | c :: rest, args, named, i => do
    let enter (owner : String) := enter owner ((Store.initializer? c).getD []) args named
    match c with
    | .standard .contextError =>
      let slots ← enter "ContextError"
      let context := slots.slot "context"
      let source := slots.slot "source"
      let i ← along s cls rest [context] [] i
      let i := (i.set "context" context).set "source" source
      return { i with cause := (s.exception? source).or i.cause }
    | .standard .renderError =>
      let slots ← enter "RenderError"
      let i ← along s cls rest [slots.slot "message"] [] i
      return i.set "failure" (slots.slot "failure")
    | .standard .errorWithContext =>
      let slots ← enter "ErrorWithContext"
      let msg := slots.slot "msg"
      let i ← along s cls rest [msg] [] i
      return (i.set "msg" (.str .fresh (← s.str msg))).set "cx" (slots.slot "cx")
    | .standard .report =>
      let slots ← enter "Report"
      let contexts ← s.iterate (slots.slot "contexts")
      return (i.set "message" (slots.slot "message")).set "contexts" (.tuple .fresh contexts)
    | .standard .contextExpr =>
      let slots ← enter "ContextExpr"
      return i.set "num" (slots.slot "num")
    | .standard .object =>
      if args.isEmpty && named.isEmpty then return i
      else .error (.plain .typeError (s.className cls ++ "() takes no arguments"))
    | .standard k =>
      if k.initializesItself then byException s cls k args named i
      else along s cls rest args named i
    | .declared _ => along s cls rest args named i

/-- What a new object of a class is given. -/
def ofClass (s : Store) (c : Class) (args : List Value) (named : Named) : Except Fault Initial :=
  along s c (s.order c) args named ⟨args, [], none⟩

end Initial
end FaultContext
