/-
# FaultContext.Store.Object -- objects, functions and declared classes.

An object has a class, attributes and a body that says what it is apart from these.  Functions are
objects whose code is an expression, a layer around another function, a rule, or a guard: the
replacement of a function that adds context to its failures.  A store holds all objects and all
declared classes; places are never reused, so a reference stays valid.
-/
import FaultContext.Annotation.Phrase
import FaultContext.Binding.Basic
import FaultContext.Class.Members
import FaultContext.Signature.Basic
import FaultContext.Template.Basic

namespace FaultContext

/-! ## Functions -/

/-- How a function is attached to a class other than as a plain method. -/
inductive MethodKind where
  | static
  | ofClass
  deriving DecidableEq, Repr

/-- What a guard knows about the function it replaces.  `signature` is the one callers see and
`callSignature` is what the function itself accepts; they differ where an inner layer adds
arguments. -/
structure Descriptor where
  target : Value
  signature : Signature
  callSignature : Signature
  asynchronous : Bool
  kind : Option MethodKind
  hint : Value

/-- The failure branch that a guard adds to a function: the context to render and the set of
bindings, by its number, that merges the context into the failure. -/
structure Guard where
  descriptor : Descriptor
  context : ContextSource
  bindings : Nat

/-- Where the names of an expression are looked for: in frames, from the inside out.  An assignment
goes to one of them. -/
structure NameScope where
  frames : List Nat
  target : Nat

/-- A scope with one more frame, for a function. -/
def NameScope.enter (scope : NameScope) (frame : Nat) : NameScope := ⟨frame :: scope.frames, frame⟩

/-- A scope with one more frame, for a comprehension. -/
def NameScope.within (scope : NameScope) (frame : Nat) : NameScope :=
  ⟨frame :: scope.frames, scope.target⟩

/-- What calling a function does. -/
inductive Code where
  | body (form : Form) (expr : Expr) (awaits : Nat) (awaited : Option Expr)
  | inject (target : Value) (args : List Value) (named : Named) (asynchronous : Bool)
  | relay (target : Value) (passed : List PassedArgument) (args : List Value) (named : Named)
    (asynchronous : Bool)
  | guard (g : Guard)
  /-- A rule of the program, or what it does where no rule answers. -/
  | rule (rule : CustomRule)
  /-- An expression of an annotation, with the frames of names around it. -/
  | phrase (form : Form) (body : Annotation.Phrase) (scope : NameScope)

/-- A function with all that can be asked about it.  `wrapped` is the function that it stands for.
Where there is a `receiver`, the first parameter is the object that is called, and the body does not
see it.  The names in its annotations are looked for in its `frame`. -/
structure Function where
  name : String
  qualifiedName : String
  doc : Option String
  annotations : Named
  params : Signature
  attributes : Named
  wrapped : Option Value
  receiver : Bool := false
  frame : Nat := 0
  code : Code

/-- What calling a function gives. -/
def Code.form : Code → Form
  | .body form .. => form
  | .inject _ _ _ asynchronous => if asynchronous then .asynchronous else .direct
  | .relay _ _ _ _ asynchronous => if asynchronous then .asynchronous else .direct
  | .rule _ => .direct
  | .phrase form .. => form
  | .guard g => if g.descriptor.asynchronous then .asynchronous else .direct

/-! ## Objects -/

/-- Items that are computed when they are asked for: those that a function lists, those that a
function makes of others, those that a function lets through, or the layers of a failure. -/
inductive Pending where
  | listed (function : Value)
  | mapped (function : Value) (sources : List Value)
  | filtered (function source : Value)
  | layers (failure : Value)

/-- What an object is, apart from its class and its attributes. -/
inductive Body where
  /-- Nothing but attributes. -/
  | plain
  /-- Something that is shown by its name. -/
  | named (name : String)
  | exception (args : List Value) (cause context : Option Ref)
  | ok (value : Value)
  | err (error : Value)
  | counter (value : Value) (count : Nat)
  | function (f : Function)
  /-- A function some of whose arguments are given already. -/
  | applied (target : Value) (args : List Value) (named : Named)
  /-- An object that is called through a function, which gets the object as its first argument, and
  that is shown as a text. -/
  | callable (text : String) (target : Value)
  | static (target : Value)
  | ofClass (target : Value)
  /-- A call that is never run. -/
  | generator (name : String)
  /-- What is left of an iteration. -/
  | iterator (name : String) (items : List Value)
  /-- An iteration that has not begun. -/
  | pending (name : String) (items : Pending)

/-- An object. -/
structure Object where
  cls : Class
  attributes : Named
  body : Body

/-- An order that goes through the ancestors of whatever stands in it. -/
def ClosedOrder (order : List Class) : Prop :=
  ∀ c, Class.standard c ∈ order → ∀ a ∈ c.order, Class.standard a ∈ order

/-- A declared class.  `order` is the order in which members are looked for, the class itself
included.  Whether it `merges` contexts is found out once, when it is declared, and holds from then
on, whatever becomes of its members. -/
structure Declaration where
  name : String
  bases : List Class
  order : List Class
  hashable : Bool
  merges : Bool
  closed : ClosedOrder order

/-- All objects and all declared classes, with the members of each. -/
structure Store where
  objects : Array Object
  declarations : Array Declaration
  members : Array Named

namespace Store

/-- A store without objects and declared classes. -/
def empty : Store := ⟨#[], #[], #[]⟩

/-- The object at a place. -/
def get? (s : Store) (r : Ref) : Option Object := s.objects[r.index]?

/-- Adds an object; its place is the first free one. -/
def insert (s : Store) (o : Object) : Ref × Store :=
  (⟨s.objects.size⟩, { s with objects := s.objects.push o })

/-- Changes the object at a place. -/
def modify (s : Store) (r : Ref) (change : Object → Object) : Store :=
  { s with objects := s.objects.modify r.index change }

/-- Adds a declared class and its members. -/
def declare (s : Store) (d : Declaration) (members : Named) : Class × Store :=
  (.declared s.declarations.size,
    { s with declarations := s.declarations.push d, members := s.members.push members })

/-- A new object is found at its place. -/
theorem get?_insert (s : Store) (o : Object) : (s.insert o).2.get? (s.insert o).1 = some o := by
  simp [insert, get?]

/-! ## Classes -/

/-- The name of a class. -/
def className (s : Store) : Class → String
  | .standard c => c.name
  | .declared k => (s.declarations[k]?.map Declaration.name).getD ""

/-- The module that a class belongs to, as its text shows it. -/
def classHome : Class → String
  | .standard c => c.home
  | .declared _ => "drv"

/-- The order in which members of a class are looked for. -/
def order (s : Store) : Class → List Class
  | .standard c => c.order.map .standard
  | .declared k => (s.declarations[k]?.map Declaration.order).getD []

theorem closed_order (s : Store) (c : Class) : ClosedOrder (s.order c) := by
  cases c with
  | standard c =>
    intro d hd a ha
    obtain ⟨d', hd', heq⟩ := List.mem_map.mp hd
    cases heq
    exact List.mem_map_of_mem (c.mem_order_of_mem d hd' a ha)
  | declared k =>
    cases h : s.declarations[k]? with
    | none => simp [order, h, ClosedOrder]
    | some d => simpa [order, h] using d.closed

/-- Whether a class is derived from another one, or is that one. -/
def isSubclass (s : Store) (c ancestor : Class) : Bool := (s.order c).contains ancestor

/-- Whether instances of a class can be raised. -/
def isExceptionClass (s : Store) (c : Class) : Bool := s.isSubclass c Standard.baseException

/-- Whether a class can be a key: its metaclass has to be one whose instances can be hashed. -/
def isHashableClass (s : Store) : Class → Bool
  | .standard _ => true
  | .declared k => (s.declarations[k]?.map Declaration.hashable).getD false

/-- The class of a class: abstract classes have one of their own. -/
def metaclass (s : Store) (c : Class) : Standard :=
  if !s.isHashableClass c then .unhashableMeta
  else if s.isSubclass c Standard.abstractBase then .abstractMeta
  else if s.isSubclass c Standard.any then .anyMeta
  else .type

/-- The class of a member that a class has from the start. -/
def memberClass (owner : Standard) (name : String) : Standard :=
  match owner.memberKind? name with
  | some .method => .methodDescriptor
  | some .slot => .wrapperDescriptor
  | some .computed => .getSetDescriptor
  | some .field => .memberDescriptor
  | some .ofClass => .classMethodDescriptor
  | some .static => .nativeFunction
  | _ => .function

/-- The class of a value. -/
def classOf (s : Store) : Value → Class
  | .none => Standard.noneType
  | .bool _ => Standard.bool
  | .int _ _ => Standard.int
  | .float _ _ => Standard.float
  | .str _ _ => Standard.str
  | .list _ _ => Standard.list
  | .tuple _ _ => Standard.tuple
  | .dict _ _ => Standard.dict
  | .bytes _ _ => Standard.bytes
  | .complex .. => Standard.complex
  | .set _ frozen _ => if frozen then Standard.frozenSet else Standard.set
  | .range .. => Standard.range
  | .slice .. => Standard.slice
  | .ellipsis => Standard.ellipsis
  | .notImplemented => Standard.notImplementedType
  | .member owner name => memberClass owner name
  | .method _ owner name =>
    if owner.memberKind? name = some .slot then Standard.methodWrapper else Standard.nativeFunction
  | .cls c => s.metaclass c
  | .generic .. | .typing .. => Standard.typingAlias
  | .classAlias .. | .spreadAlias .. => Standard.classAlias
  | .unpacked _ => Standard.unpackAlias
  | .union _ => Standard.typingUnion
  | .unionType _ => Standard.unionType
  | .typeVar _ => Standard.typeVar
  | .forward _ => Standard.forwardRef
  | .bare (.alias .tuple) => Standard.bareTuple
  | .bare (.alias _) => Standard.bareAlias
  | .bare _ => Standard.typingForm
  | .native .contextMethod | .native .abstractMethod | .native (.method ..)
  | .native (.merging _) => Standard.function
  | .native (.builtin "exit") | .native (.builtin "quit") => Standard.siteQuitter
  | .native (.builtin "help") => Standard.siteHelper
  | .native _ => Standard.nativeFunction
  | .bindings _ => Standard.bindingSet
  | .bound .. => Standard.boundMethod
  | .coroutine .. => Standard.coroutine
  | .object r => (s.get? r).elim (Class.standard .object) Object.cls

/-- The name of the class of a value. -/
def ownClassName (s : Store) (v : Value) : String := s.className (s.classOf v)

/-- A class as operators call it: a few classes are called with their module. -/
def callName (s : Store) (c : Class) : String :=
  match c with
  | .standard .unionType | .standard .classAlias | .standard .partialFunction =>
    classHome c ++ "." ++ s.className c
  | c => s.className c

/-- The class of a value as operators call it. -/
def typeName (s : Store) (v : Value) : String := s.callName (s.classOf v)

/-- Whether a value is an instance of a class. -/
def isInstance (s : Store) (v : Value) (c : Class) : Bool := s.isSubclass (s.classOf v) c

/-- An instance of a class is an instance of its ancestors. -/
theorem isInstance_of_mem_order {s : Store} {v : Value} {c a : Standard} (h : s.isInstance v c)
    (ha : a ∈ c.order) : s.isInstance v a := by
  have hc : Class.standard c ∈ s.order (s.classOf v) := List.contains_iff_mem.mp h
  exact List.contains_iff_mem.mpr (s.closed_order _ c hc a ha)

/-- The place of an exception, for a value that is one. -/
def exception? (s : Store) : Value → Option Ref
  | .object r =>
    match s.get? r with
    | some ⟨_, _, .exception ..⟩ => some r
    | _ => none
  | _ => none

/-- Whether a value can be raised. -/
def isException (s : Store) (v : Value) : Bool := (s.exception? v).isSome

/-- The attribute that an object holds itself. -/
def attribute? (s : Store) (r : Ref) (name : String) : Option Value :=
  (s.get? r).bind fun o => o.attributes.get? name

/-- A member that a class declares itself. -/
def ownMember? (s : Store) (c : Class) (name : String) : Option Value :=
  match c with
  | .standard .errorWithContext =>
    if name = "wrap_err" then some (.native .contextMethod)
    else if Standard.memberKind? .errorWithContext name = some .written then
      some (.native (.method .errorWithContext name))
    else none
  | .standard .wrapErr => if name = "wrap_err" then some (.native .abstractMethod) else none
  | .standard c =>
    match c.memberKind? name with
    | some .written => some (.native (.method c name))
    | some _ => some (.member c name)
    | none => none
  | .declared k => s.members[k]?.bind (·.get? name)

/-- The first member of a name along the order of a class. -/
def member? (s : Store) (c : Class) (name : String) : Option Value :=
  (s.order c).findSome? fun c => s.ownMember? c name

/-! ## Calling -/

/-- Whether a value can be called. -/
def isCallable (s : Store) : Value → Bool
  | .cls _ | .generic .. | .typing .. | .classAlias .. | .spreadAlias .. | .unpacked _ | .union _
  | .bare _ | .native _ | .bound .. | .method .. => true
  | .member owner name => (owner.memberKind? name).any fun k => k != .computed && k != .field
  | .object r =>
    match s.get? r with
    | some o =>
      match o.body with
      | .counter .. | .function _ | .applied .. | .callable .. | .static _ => true
      | _ => false
    | none => false
  | _ => false

/-- The function at the bottom of an object, for a value that is a function. -/
def function? (s : Store) : Value → Option Function
  | .object r =>
    match s.get? r with
    | some ⟨_, _, .function f⟩ => some f
    | _ => none
  | _ => none

/-- The name of the method that merges a context into a failure. -/
def contextMethodName : String := "wrap_err"

/-- Whether a class with these members of its own, which looks for others along these classes, has
the method that merges a context: the first member of that name decides, and it has to be callable.
-/
def offersContextMethod (s : Store) (members : Named) (ancestors : List Class) : Bool :=
  let inherited := ancestors.findSome? fun c => s.ownMember? c contextMethodName
  match (members.get? contextMethodName).or inherited with
  | some v => s.isCallable v
  | none => false

/-- Whether a class has the method that merges a context. -/
def hasContextMethod (s : Store) : Class → Bool
  | .standard c => c.isSubclass .errorWithContext || c.isSubclass .wrapErr
  | .declared k => (s.declarations[k]?.map Declaration.merges).getD false

/-- Whether a class implements the interface of failures that merge contexts themselves.  A class
that cannot be hashed is never found to implement it. -/
def implementsContext (s : Store) (c : Class) : Bool :=
  s.isHashableClass c && s.hasContextMethod c

end Store
end FaultContext
