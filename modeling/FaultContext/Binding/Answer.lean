/-
# FaultContext.Binding.Answer -- what a set of bindings answers.

The rules of the library look at nothing but the type and what is registered, and so does a rule of
the program that is known by its answers.  What such rules answer can be told without asking them.
A set that has no others, and whose fallback is known in the same way, is thereby a function of the
class; a cache that remembers only values of this function tells the truth.

Classes are declared once and for all, so the answers depend on the declared classes alone and not
on the objects in the store.
-/
import FaultContext.Binding.Registry

namespace FaultContext

/-- The registered binding for a type; the placeholder does not count. -/
def Registry.found? (registry : Registry) (s : Store) (type : Value) : Option Binding :=
  match registry.dispatch s type with
  | .ok (some .unregistered) => none
  | .ok found => found
  | .error _ => none

/-- Why the registry cannot be asked about a type: the class of the exception that is raised. -/
def Registry.refusal? (registry : Registry) (s : Store) (type : Value) : Option Class :=
  match registry.dispatch s type with
  | .ok _ => none
  | .error refusal => refusal.cls?.map .standard

namespace Rule

/-- Whether a rule answers on its own, without code of the program having to be run. -/
def isIndependent : Rule → Bool
  | .program _ => false
  | _ => true

/-- What a rule claims for a type if it answers on its own. -/
def claim? (registry : Registry) (s : Store) (type : Value) : Rule → Option Binding
  | .contextMethod =>
    if TypeHint.isSubclassSafe s type [.std .wrapErr] then some .method else none
  | .registered => registry.found? s type
  | .chained => some .chain
  | .noted => some .note
  | .function _ answers => (answers registry type).toOption.join
  | .program _ => none

/-- Why a rule cannot be asked about a type: the class of the exception that it raises. -/
def refusal? (registry : Registry) (s : Store) (type : Value) : Rule → Option Class
  | .registered => registry.refusal? s type
  | .function _ answers =>
    match answers registry type with
    | .ok _ => none
    | .error complaint => some complaint.cls
  | _ => none

end Rule

namespace Fallback

/-- Whether what is done where no rule answers needs no code of the program. -/
def isIndependent : Fallback → Bool
  | .program _ => false
  | _ => true

/-- What is answered for a type that no rule answers for. -/
def answer? (registry : Registry) (type : Value) : Fallback → Option Binding
  | .function answers => (answers registry type).toOption.join
  | _ => none

end Fallback

namespace BindingSet

/-- Whether a set answers on its own. -/
def isIndependent (set : BindingSet) : Bool :=
  set.rules.all Rule.isIndependent && set.conventions.all Rule.isIndependent &&
    set.fallback.isIndependent

/-- A set that answers on its own, part by part. -/
theorem isIndependent_iff (set : BindingSet) : set.isIndependent ↔
    (∀ rule ∈ set.rules, rule.isIndependent) ∧
      (∀ rule ∈ set.conventions, rule.isIndependent) ∧ set.fallback.isIndependent := by
  simp [isIndependent, and_assoc]

/-- What the rules of a tier claim. -/
def claims (set : BindingSet) (s : Store) (type : Value) (rules : List Rule) : List Binding :=
  rules.filterMap (Rule.claim? set.registry s type)

/-- Why the rules of a tier cannot all be asked: what the first of them raises that raises. -/
def refusal? (set : BindingSet) (s : Store) (type : Value) (rules : List Rule) : Option Class :=
  rules.findSome? (Rule.refusal? set.registry s type)

/-- What a tier of rules comes to: perhaps an answer, or nothing at all where a rule cannot be asked
or several rules answer. -/
def verdict? (set : BindingSet) (s : Store) (type : Value) (rules : List Rule) :
    Option (Option Binding) :=
  match set.refusal? s type rules with
  | some _ => none
  | none =>
    match set.claims s type rules with
    | [] => some none
    | [b] => some (some b)
    | _ => none

/-- What a set that answers on its own answers for a type. -/
def answer? (set : BindingSet) (s : Store) (type : Value) : Option Binding :=
  match set.verdict? s type set.rules with
  | some (some b) => some b
  | some none =>
    match set.verdict? s type set.conventions with
    | some (some b) => some b
    | some none => set.fallback.answer? set.registry type
    | none => none
  | none => none

/-- What a set remembers for classes is what it would answer, and it remembers nothing for a class
that cannot be a key. -/
def Truthful (set : BindingSet) (s : Store) : Prop :=
  set.isIndependent → ∀ thread c b, (thread, .cls c, b) ∈ set.cache.entries →
    s.isHashableClass c = true ∧ set.answer? s (.cls c) = some b

/-- A set apart from what it remembers. -/
def core (set : BindingSet) : BindingSet :=
  { set with cache := Cache.empty set.cache.threadLocal }

theorem isIndependent_core (set : BindingSet) : set.core.isIndependent = set.isIndependent := rfl

theorem answer?_core (set : BindingSet) (s : Store) (type : Value) :
    set.core.answer? s type = set.answer? s type := rfl

end BindingSet

/-! ## Declared classes are all that counts -/

/-- The interface of failures that merge contexts is a matter of the class. -/
theorem TypeHint.isSubclassSafe_wrapErr (s : Store) (c : Class) :
    isSubclassSafe s (.cls c) [.std .wrapErr] = s.implementsContext c := by
  simp only [isSubclassSafe, derivesAny?, derives?, Store.implementsContext]
  cases s.isHashableClass c <;> cases s.hasContextMethod c <;> rfl

section Hierarchy

variable {s s' : Store} (h : s'.declarations = s.declarations)
include h

theorem Store.order_congr : s'.order = s.order := by
  funext c
  cases c <;> simp [Store.order, h]

theorem Store.isSubclass_congr : s'.isSubclass = s.isSubclass := by
  funext c ancestor
  simp only [Store.isSubclass, Store.order_congr h]

theorem Store.isHashableClass_congr : s'.isHashableClass = s.isHashableClass := by
  funext c
  cases c <;> simp [Store.isHashableClass, h]

theorem Store.metaclass_congr : s'.metaclass = s.metaclass := by
  funext c
  simp only [Store.metaclass, Store.isHashableClass_congr h, Store.isSubclass_congr h]

theorem Store.hasContextMethod_congr : s'.hasContextMethod = s.hasContextMethod := by
  funext c
  cases c <;> simp [Store.hasContextMethod, h]

theorem Store.implementsContext_congr : s'.implementsContext = s.implementsContext := by
  funext c
  simp only [Store.implementsContext, Store.isHashableClass_congr h, Store.hasContextMethod_congr h]

theorem TypeHint.derivesAny?_congr (c : Class) (ancestors : List Value) :
    derivesAny? s' c ancestors = derivesAny? s c ancestors := by
  have hderives : derives? s' c = derives? s c := by
    funext ancestor
    simp only [derives?.eq_def, Store.isHashableClass_congr h, Store.hasContextMethod_congr h,
      Store.isSubclass_congr h]
  induction ancestors with
  | nil => rfl
  | cons ancestor rest ih => rw [derivesAny?, derivesAny?, hderives, ih]

theorem TypeHint.isSubclassSafe_congr (type : Value) (ancestors : List Value) :
    isSubclassSafe s' type ancestors = isSubclassSafe s type ancestors := by
  cases type with
  | cls c => rw [isSubclassSafe, isSubclassSafe, derivesAny?_congr h]
  | _ => rfl

namespace Registry

theorem splitBases_congr : splitBases s' = splitBases s := by
  funext bases
  simp only [splitBases, Store.isSubclass_congr h]

theorem orderWithin_congr (depth : Nat) : orderWithin s' depth = orderWithin s depth := by
  induction depth with
  | zero =>
    funext pending c
    cases c <;> simp only [orderWithin, Store.order_congr h, Store.implementsContext_congr h]
  | succ depth ih =>
    funext pending c
    cases c <;> simp only [orderWithin, Store.order_congr h, Store.implementsContext_congr h,
      splitBases_congr h, ih, h]

theorem dispatch_congr (registry : Registry) (c : Class) :
    registry.dispatch s' (.cls c) = registry.dispatch s (.cls c) := by
  simp only [dispatch, dispatchClass, dispatchOrder, Store.metaclass_congr h,
    Store.isHashableClass_congr h, Store.implementsContext_congr h, Store.isSubclass_congr h,
    orderWithin_congr h, h]

end Registry

theorem Rule.claim?_congr (registry : Registry) (c : Class) :
    Rule.claim? registry s' (.cls c) = Rule.claim? registry s (.cls c) := by
  funext rule
  cases rule <;>
    simp only [Rule.claim?, Registry.found?, Registry.dispatch_congr h,
      TypeHint.isSubclassSafe_wrapErr, Store.implementsContext_congr h]

theorem Rule.refusal?_congr (registry : Registry) (c : Class) :
    Rule.refusal? registry s' (.cls c) = Rule.refusal? registry s (.cls c) := by
  funext rule
  cases rule <;> simp only [Rule.refusal?, Registry.refusal?, Registry.dispatch_congr h]

/-- The answer for a class depends on the declared classes alone. -/
theorem BindingSet.answer?_congr (set : BindingSet) (c : Class) :
    set.answer? s' (.cls c) = set.answer? s (.cls c) := by
  simp only [answer?, verdict?, claims, refusal?, Rule.claim?_congr h, Rule.refusal?_congr h]

end Hierarchy
end FaultContext
