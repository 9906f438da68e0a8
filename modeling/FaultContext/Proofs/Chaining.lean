/-
# FaultContext.Proofs.Chaining -- failures that are left to a convention.

A set with the two standard rules has one convention at most.  As long as nothing is registered, a
class that does not merge contexts itself is left to the convention.  The set that is used where none
is named chains, and so every failure of such a class gets a layer of context around it.

Looking the class up asks the registry for an order of the class, and there are classes for which
this fails (`Registry.Refusal.contradiction`); `Chained` excludes these.  Apart from that nothing
can go wrong, and nothing happens to any object: traces are written and the answer is remembered.
-/
import FaultContext.Proofs.Answering

namespace FaultContext

open Eval

/-! ## Classes that are chained -/

/-- A class whose failures are left to the convention: it can be a key, it does not merge contexts
itself, and a registry finds an order for it. -/
structure Store.Chained (s : Store) (c : Class) : Prop where
  hashable : s.isHashableClass c = true
  plain : s.hasContextMethod c = false
  ordered : ∃ found, Registry.initial.dispatch s (.cls c) = .ok found

theorem Store.Chained.congr {s s' : Store} (h : s'.declarations = s.declarations) {c : Class}
    (hc : s.Chained c) : s'.Chained c where
  hashable := by rw [isHashableClass_congr h]; exact hc.hashable
  plain := by rw [hasContextMethod_congr h]; exact hc.plain
  ordered := by
    obtain ⟨found, hfound⟩ := hc.ordered
    exact ⟨found, (Registry.dispatch_congr h _ c).trans hfound⟩

/-- Layers of context are chained themselves. -/
theorem Store.chained_contextError (s : Store) : s.Chained Standard.contextError :=
  ⟨rfl, rfl, _, rfl⟩

theorem Registry.eq_of_get?_initial {c : Class} {b : Binding} (h : initial.get? c = some b) :
    b = .unregistered := by
  simp only [initial, get?, List.lookup_cons, List.lookup_nil] at h
  split at h
  · exact (Option.some.inj h).symm
  · cases h

/-- A registry in which nothing is registered finds the placeholder at most. -/
theorem Registry.of_dispatch_initial {s : Store} {c : Class} {found : Option Binding}
    (h : initial.dispatch s (.cls c) = .ok found) : found = none ∨ found = some .unregistered := by
  rw [dispatch] at h
  split at h
  · rw [dispatchClass] at h
    split at h
    next own hown =>
      cases h
      exact .inr (congrArg some (eq_of_get?_initial hown))
    next =>
      split at h
      next order _ =>
        cases h
        cases hfirst : initial.firstOf order with
        | none => exact .inl rfl
        | some b =>
          obtain ⟨d, -, hd⟩ := List.exists_of_findSome?_eq_some hfirst
          exact .inr (congrArg some (eq_of_get?_initial hd))
      next => cases h
  · cases h

theorem Registry.found?_initial {s : Store} {c : Class} {found : Option Binding}
    (h : initial.dispatch s (.cls c) = .ok found) : initial.found? s (.cls c) = none := by
  rcases of_dispatch_initial h with rfl | rfl <;> rw [found?, h]

/-- A class that can be a key is refused for no other reason than that it has no order. -/
theorem Registry.dispatch_of_unordered {s : Store} {c : Class}
    (hhashable : s.isHashableClass c = true)
    (h : ¬∃ found, initial.dispatch s (.cls c) = .ok found) :
    initial.dispatch s (.cls c) = .error .contradiction := by
  rcases hfound : initial.dispatch s (.cls c) with refusal | found
  · cases hrefusal : initial.refusal? s (.cls c) with
    | some problem => exact hfound ▸ (Resolution.dispatch_of_refusal hhashable hrefusal).1
    | none =>
      -- A type without an order is passed over, but that is not said of classes.
      rw [refusal?, hfound] at hrefusal
      cases refusal with
      | noOrder =>
        rw [dispatch, if_pos hhashable, dispatchClass] at hfound
        split at hfound
        · cases hfound
        · split at hfound <;> cases hfound
      | _ => cases hrefusal
  · exact absurd ⟨found, hfound⟩ h

/-! ## Sets without registrations -/

/-- A set of a world goes by the standard rules and a convention, nothing is registered in it, and
what is remembered anywhere is true. -/
structure World.Leaves (w : World) (id : Nat) (convention : Convention) : Prop where
  core : ∃ threadLocal, (w.bindingSet id).core = .standardWith convention threadLocal
  truthful : w.Truthful

namespace World.Leaves

variable {w w' : World} {id : Nat} {convention : Convention}

theorem registry (hw : w.Leaves id convention) :
    (w.bindingSet id).registry = Registry.initial := by
  obtain ⟨threadLocal, hcore⟩ := hw.core
  exact congrArg BindingSet.registry hcore

theorem goesBy (hw : w.Leaves id convention) : (w.bindingSet id).GoesBy convention := by
  obtain ⟨threadLocal, hcore⟩ := hw.core
  exact ⟨congrArg BindingSet.rules hcore, congrArg BindingSet.conventions hcore,
    congrArg BindingSet.fallback hcore⟩

theorem keeps (hw : w.Leaves id convention) (h : w.Keeps w') : w'.Leaves id convention := by
  refine ⟨?_, h.truthful hw.truthful⟩
  rw [h.core_bindingSet]
  exact hw.core

/-- Looking up a class that is left to the convention ends with what the convention answers. -/
theorem outcome (hw : w.Leaves id convention) {c : Class} (hc : w.store.Chained c) :
    (w.bindingSet id).outcome w.store c = convention.outcome := by
  obtain ⟨found, hfound⟩ := hc.ordered
  have hplain : w.store.implementsContext c = false := by
    rw [Store.implementsContext, hc.plain, Bool.and_false]
  rw [← hw.registry] at hfound
  rw [BindingSet.outcome_standard hw.goesBy hfound, hplain]
  rw [hw.registry] at hfound ⊢
  rw [Registry.found?_initial hfound]

/-- It succeeds if there is a convention. -/
theorem run_lookup (hw : w.Leaves id convention) (engine : Engine) {c : Class}
    (hc : w.store.Chained c) {b : Option Binding} (hconvention : convention.outcome = .ok b)
    (handled : Option Ref) :
    ∃ w', (Resolution.lookup engine id (.cls c)).run handled w = (.ok b, w') ∧
      w'.store = w.store :=
  Resolution.run_lookup_of_outcome hw.truthful hw.goesBy.isIndependent hc.hashable
    ((hw.outcome hc).trans hconvention) handled

/-- A class that a registry finds no order for cannot be looked up: an exception is raised that has
nothing to do with the failure. -/
theorem raises_lookup (hw : w.Leaves id convention) (engine : Engine) {c : Class}
    (hhashable : w.store.isHashableClass c = true)
    (h : Registry.initial.dispatch w.store (.cls c) = .error .contradiction)
    (handled : Option Ref) :
    Raises w .runtimeError ((Resolution.lookup engine id (.cls c)).run handled w) := by
  rw [← hw.registry] at h
  exact Resolution.raises_lookup hw.truthful hw.goesBy.isIndependent hhashable
    (BindingSet.outcome_standard_of_unordered hw.goesBy h) handled

/-- Neither can a context be merged into a failure of such a class. -/
theorem raises_wrap (hw : w.Leaves id convention) (engine : Engine) {error : Value}
    (hhashable : w.store.isHashableClass (w.store.classOf error) = true)
    (h : Registry.initial.dispatch w.store (.cls (w.store.classOf error)) = .error .contradiction)
    (context : Value) (handled : Option Ref) :
    Raises w .runtimeError ((Resolution.wrap engine id error context).run handled w) := by
  rw [Resolution.wrap, run_bind_of_ok run_store]
  exact (hw.raises_lookup engine hhashable h handled).bind

end World.Leaves

/-- A set of a world is the standard one, nothing is registered in it, and what is remembered
anywhere is true. -/
structure World.Chains (w : World) (id : Nat) : Prop where
  standard : (w.bindingSet id).core = BindingSet.standard
  truthful : w.Truthful

theorem World.Chains.leaves {w : World} {id : Nat} (hw : w.Chains id) : w.Leaves id .chained :=
  ⟨⟨false, hw.standard⟩, hw.truthful⟩

theorem World.Keeps.chains {w w' : World} (h : w.Keeps w') {id : Nat} (hw : w.Chains id) :
    w'.Chains id :=
  ⟨(h.core_bindingSet id).trans hw.standard, h.truthful hw.truthful⟩

end FaultContext
