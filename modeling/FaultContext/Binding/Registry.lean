/-
# FaultContext.Binding.Registry -- bindings registered for classes.

A registry has a binding for some classes; a class without one takes the binding of the nearest
class along its order that has one.  The most general class always has an entry, so every class
finds one.

Registering goes by classes: a union registers each of its members.  The interface of failures that
merge contexts themselves is a class too, and a class that implements it without being derived from
it counts as if it had the interface among its bases.

A set of bindings asks rules, of which looking into the registry is one.  A rule of the program is a
function, and so is what a set does where no rule answers; what happens when they are called is
`FaultContext.Binding.Resolution`.
-/
import FaultContext.Binding.Basic
import FaultContext.Binding.Cache
import FaultContext.Class.Linearization
import FaultContext.TypeHint.Query

namespace FaultContext

/-- Registered bindings, in the order of registration; every class stands once. -/
structure Registry where
  entries : List (Class × Binding)

namespace Registry

/-- A registry with the placeholder for the most general class. -/
def initial : Registry := ⟨[(Standard.object, .unregistered)]⟩

/-- The binding registered for exactly a class. -/
def get? (r : Registry) (c : Class) : Option Binding := r.entries.lookup c

/-- Registers a binding for a class, in place of an earlier one. -/
def insert (r : Registry) (c : Class) (b : Binding) : Registry :=
  if (r.get? c).isSome then
    ⟨r.entries.map fun (d, old) => if d = c then (d, b) else (d, old)⟩
  else ⟨r.entries ++ [(c, b)]⟩

/-- The classes that a type stands for when it is registered; nothing where it stands for none. -/
def targets? : Value → Option (List Class)
  | .cls c => some [c]
  | .union members | .unionType members =>
    members.mapM fun
      | .cls c => some c
      | _ => none
  | _ => none

/-- The bases of a declared class in two parts: those up to the last abstract one, and the others.
-/
def splitBases (s : Store) (bases : List Class) : List Class × List Class :=
  let isOther (c : Class) := !s.isSubclass c Standard.abstractBase
  let others := (bases.reverse.takeWhile isOther).reverse
  (bases.take (bases.length - others.length), others)

/-- The order of a class, going through at most `depth` declared classes that are derived from one
another.  While the place of the interface is `pending` it is put among the bases of the first
class that implements it although none of its bases does, behind the abstract ones.  Orders that
contradict one another name the classes that block one another. -/
def orderWithin (s : Store) : Nat → Bool → Class → Except (List Class) (List Class)
  | _, pending, .standard c =>
    if pending && s.implementsContext c && !c.isSubclass .wrapErr then
      Linearization.ofBases (.standard c)
        [s.order Standard.wrapErr, c.ancestors.map .standard] [Standard.wrapErr]
    else .ok (s.order c)
  | 0, _, c => .ok (s.order c)
  | depth + 1, pending, .declared k => do
    let bases := (s.declarations[k]?.map Declaration.bases).getD []
    let introduced := pending && s.implementsContext (.declared k) &&
      !bases.any s.implementsContext
    let (abstract, others) := splitBases s bases
    let interface : List Class := if introduced then [Standard.wrapErr] else []
    let order := orderWithin s depth (pending && !introduced)
    let first ← abstract.mapM order
    let last ← others.mapM order
    let merged ← Linearization.merge
      (first ++ interface.map s.order ++ last ++ [abstract, interface, others])
    return .declared k :: merged

/-- The order in which a class looks for a registered binding.  The interface has a place in it if
something is registered for it and the class implements it without being derived from it. -/
def dispatchOrder (r : Registry) (s : Store) (c : Class) : Except (List Class) (List Class) :=
  let pending := (r.get? Standard.wrapErr).isSome && s.implementsContext c &&
    !s.isSubclass c Standard.wrapErr
  orderWithin s (s.declarations.size + 1) pending c

/-- The first registered binding along an order. -/
def firstOf (r : Registry) (order : List Class) : Option Binding :=
  order.findSome? r.get?

/-- Why there is no binding for a type. -/
inductive Refusal where
  | noWeakReference (type : String)
  | unhashable (type : String)
  | noOrder
  | notClass
  | contradiction

/-- The class of the exception that a refusal raises; a type without an order is passed over. -/
def Refusal.cls? : Refusal → Option Standard
  | .noOrder => none
  | .noWeakReference _ | .unhashable _ | .notClass => some .typeError
  | .contradiction => some .runtimeError

/-- The binding for a class: its own one, or that of the nearest class that has one. -/
def dispatchClass (r : Registry) (s : Store) (c : Class) : Except Refusal (Option Binding) :=
  match r.get? c with
  | some own => .ok (some own)
  | none =>
    match r.dispatchOrder s c with
    | .ok order => .ok (r.firstOf order)
    | .error _ => .error .contradiction

/-- The binding for a type.  A class applied to arguments goes by the class, as long as nothing is
registered that the class is not derived from. -/
def dispatch (r : Registry) (s : Store) (type : Value) : Except Refusal (Option Binding) :=
  match type with
  | .cls c =>
    if s.isHashableClass c then r.dispatchClass s c
    else .error (.unhashable (s.metaclass c).name)
  | .classAlias c args =>
    match s.unhashable? (.classAlias c args) with
    | some type => .error (.unhashable type)
    | none =>
      if r.entries.all fun (d, _) => s.isSubclass c d then .ok (r.firstOf (s.order c))
      else .error .notClass
  | .generic .. | .typing .. | .union _ | .typeVar _ | .forward _ | .bare _ =>
    match s.unhashable? type with
    | some type => .error (.unhashable type)
    | none => .error .noOrder
  | .native _ | .bindings _ | .bound .. | .coroutine .. => .error .noOrder
  | .object r =>
    match s.get? r with
    | some ⟨_, _, .ok _⟩ | some ⟨_, _, .err _⟩ =>
      match s.unhashable? type with
      | some type => .error (.unhashable type)
      | none => .error .noOrder
    | some ⟨.standard c, _, .exception ..⟩ =>
      if c.home = "builtins" then .error (.noWeakReference c.name) else .error .noOrder
    | _ => .error .noOrder
  | v => .error (.noWeakReference (s.typeName v))

end Registry

/-! ## Rules -/

/-- What is answered for a type: a binding, nothing, or a complaint.  The answers of such a function
depend on what is registered and on the type and on nothing else. -/
abbrev Answers := Registry → Value → Except Complaint (Option Binding)

/-- A rule.  A rule of the program is known by its answers or by the function that is called. -/
inductive Rule where
  /-- Types that implement the interface of failures which merge contexts themselves. -/
  | contextMethod
  /-- Types with a registered binding. -/
  | registered
  /-- Every type is chained. -/
  | chained
  /-- Every type is noted. -/
  | noted
  /-- A function that does nothing but answer. -/
  | function (name : String) (answers : Answers)
  /-- A function of the program, which is called with the type and the set. -/
  | program (function : Value)

/-- What is done for a type that no rule and no convention answers for. -/
inductive Fallback where
  /-- There is no binding, which is a diagnostic. -/
  | missing
  /-- A function that does nothing but answer. -/
  | function (answers : Answers)
  /-- A function of the program, which is called with the type. -/
  | program (function : Value)

/-- A set of bindings: its rules, the conventions that are asked where no rule answers, what happens
where nothing answers, and what has been registered and remembered. -/
structure BindingSet where
  rules : List Rule
  conventions : List Rule
  fallback : Fallback
  cache : Cache Binding
  registry : Registry

/-- Registers a binding for classes.  What was remembered before no longer counts. -/
def BindingSet.register (set : BindingSet) (targets : List Class) (b : Binding) : BindingSet :=
  { set with
    registry := targets.foldl (fun r c => r.insert c b) set.registry
    cache := set.cache.clear }

end FaultContext
