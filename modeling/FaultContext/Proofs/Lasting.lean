/-
# FaultContext.Proofs.Lasting -- what lasts while nothing is registered.

Between one moment and a later one a session may look bindings up, decorate and call functions,
declare classes, make other sets and register bindings in them.  As long as nothing is registered in
a set itself, that set comes to the same outcome for every class that was there before
(`World.Later.outcome`).
-/
import FaultContext.Proofs.Answering
import FaultContext.Proofs.Registering

namespace FaultContext

open Eval

/-- Looking up a class comes to the same whether or not more classes have been declared. -/
theorem BindingSet.outcome_of_has {s s' : Store} (h : s.Extends s') (hs : s.Founded) {c : Class}
    (hc : s.Has c) (set : BindingSet) : set.outcome s' c = set.outcome s c := by
  simp only [outcome, tier, claims, refusal?, Rule.claim?_of_has h hs hc,
    Rule.refusal?_of_has h hs hc]

/-- Adding a class leaves all objects, the other classes and all sets as they are. -/
theorem after_addClass {w : World} (name : String) (bases : List Class) (members : Named)
    (unhashable : Bool) :
    let w' := (addClass name bases members unhashable).after w
    w.store.Persists w'.store ∧ w.store.Extends w'.store ∧
      w'.sets.map BindingSet.core = w.sets.map BindingSet.core := by
  intro w'
  cases withClass_after_addClass name bases members unhashable w with
  | @declared d _ _ heq =>
    rw [show w' = _ from heq]
    exact ⟨.refl w.store, w.store.extends_declare d members, rfl⟩
  | refused hkeeps =>
    exact ⟨hkeeps.store.objects, fun _ _ hk => hkeeps.store.classes ▸ hk, hkeeps.sets⟩

/-- Registering leaves all objects as they are. -/
theorem Session.persists_register (id : Nat) (type : Value) (b : Binding) (w : World) :
    w.store.Persists ((register id type b).after w).store := by
  cases registration id type b w with
  | admitted _ _ hkeeps => exact hkeeps.store.objects
  | refused _ hkeeps => exact hkeeps.store.objects

namespace World

/-! ## Later worlds -/

/-- A later world, with no registration in a set meanwhile.  Computations may be run to their end or
up to any point; the bases of a class are classes that are there. -/
inductive Later (id : Nat) (w : World) : World → Prop
  | refl : Later id w w
  | run {α : Type} {m : Eval α} {handled : Option Ref} {ended : Except Signal α} {w' w'' : World} :
    Later id w w' → m.run handled w' = (ended, w'') → Later id w w''
  | addSet {w' : World} {set : BindingSet} : Later id w w' → set.cache.entries = [] →
    Later id w ((Session.addSet set).after w')
  | register {w' : World} {other : Nat} (type : Value) (b : Binding) : Later id w w' → other ≠ id →
    Later id w ((Session.register other type b).after w')
  | addClass {w' : World} {bases : List Class} (name : String) (members : Named)
    (unhashable : Bool) : Later id w w' → (∀ b ∈ bases, w'.store.Has b) →
    Later id w ((FaultContext.addClass name bases members unhashable).after w')
  /-- Threads, names and observations come and go. -/
  | besides {w' w'' : World} : Later id w w' → w''.store = w'.store → w''.sets = w'.sets →
    Later id w w''

/-- A world with all the objects and classes of another one, in which a set is the same apart from
what it remembers. -/
structure Retains (id : Nat) (w w' : World) : Prop where
  objects : w.store.Persists w'.store
  classes : w.store.Extends w'.store
  core : w'.sets[id]?.map BindingSet.core = w.sets[id]?.map BindingSet.core

namespace Retains

variable {id : Nat} {w w' w'' : World}

theorem trans (h : w.Retains id w') (h' : w'.Retains id w'') : w.Retains id w'' :=
  ⟨h.objects.trans h'.objects, fun k d hk => h'.classes k d (h.classes k d hk),
    h'.core.trans h.core⟩

theorem of_level (hobjects : w.store.Persists w'.store) (h : w.Level id w') : w.Retains id w' :=
  ⟨hobjects, fun _ _ hk => h.classes ▸ hk, h.core⟩

theorem of_keeps (h : w.Keeps w') (id : Nat) : w.Retains id w' :=
  .of_level h.store.objects (.of_keeps h id)

theorem size (h : w.Retains id w') (hid : id < w.sets.size) : id < w'.sets.size := by
  have hcore := h.core
  rw [Array.getElem?_eq_getElem hid] at hcore
  obtain ⟨set, hset, -⟩ := Option.map_eq_some_iff.mp hcore
  exact (Array.getElem?_eq_some_iff.mp hset).1

theorem core_bindingSet (h : w.Retains id w') :
    (w'.bindingSet id).core = (w.bindingSet id).core :=
  core_bindingSet_congr h.core

theorem isIndependent (h : w.Retains id w') :
    (w'.bindingSet id).isIndependent = (w.bindingSet id).isIndependent := by
  rw [← BindingSet.isIndependent_core, h.core_bindingSet, BindingSet.isIndependent_core]

end Retains

namespace Later

variable {id : Nat} {w w' : World}

theorem trans {w'' : World} (h : w.Later id w') (h' : w'.Later id w'') : w.Later id w'' := by
  induction h' with
  | refl => exact h
  | run _ hrun ih => exact ih.run hrun
  | addSet _ hset ih => exact ih.addSet hset
  | register type b _ hother ih => exact ih.register type b hother
  | addClass name members unhashable _ hbases ih => exact ih.addClass name members unhashable hbases
  | besides _ hstore hsets ih => exact ih.besides hstore hsets

theorem sound (h : w.Later id w') (hw : w.Sound) : w'.Sound := by
  induction h with
  | refl => exact hw
  | run _ hrun ih => exact ih.keeps (keeps_of_run hrun)
  | addSet _ hset ih => exact Session.safe_addSet hset _ ih
  | register type b _ _ ih => exact Session.safe_register _ type b _ ih
  | addClass name members unhashable _ hbases ih =>
    exact sound_after_addClass ih hbases name members unhashable
  | besides _ hstore hsets ih =>
    exact ⟨ih.truthful.of_sets hsets (by rw [hstore]), hstore ▸ ih.founded⟩

theorem retains (h : w.Later id w') (hid : id < w.sets.size) : w.Retains id w' := by
  induction h with
  | refl => exact .of_keeps (.refl w) id
  | run _ hrun ih => exact ih.trans (.of_keeps (keeps_of_run hrun) id)
  | @addSet w' set _ _ ih =>
    refine ih.trans ⟨.refl _, fun _ _ hk => hk, ?_⟩
    show (w'.sets.push set)[id]?.map BindingSet.core = _
    rw [Array.getElem?_push_lt (ih.size hid), Array.getElem?_eq_getElem (ih.size hid)]
  | register type b _ hother ih =>
    exact ih.trans (.of_level (Session.persists_register _ type b _)
      (.register_other hother type b))
  | addClass name members unhashable _ _ ih =>
    obtain ⟨hobjects, hclasses, hsets⟩ := after_addClass name _ members unhashable
    refine ih.trans ⟨hobjects, hclasses, ?_⟩
    simpa only [Array.getElem?_map] using congrArg (·[id]?) hsets
  | besides _ hstore hsets ih =>
    refine ih.trans ⟨fun _ _ hr => hstore ▸ hr, fun _ _ hk => hstore ▸ hk, ?_⟩
    rw [hsets]

/-- **A set comes to the same outcome as long as nothing is registered in it.** -/
theorem outcome (h : w.Later id w') (hw : w.Sound) (hid : id < w.sets.size) {c : Class}
    (hc : w.store.Has c) :
    (w'.bindingSet id).outcome w'.store c = (w.bindingSet id).outcome w.store c := by
  have hretains := h.retains hid
  rw [← BindingSet.outcome_core, hretains.core_bindingSet, BindingSet.outcome_core,
    BindingSet.outcome_of_has hretains.classes hw.founded hc]

/-- What a class is looked up to is found again in every later world, and no object is touched. -/
theorem run_lookup {engine : Engine} {b : Option Binding} {c : Class} (h : w.Later id w')
    (hw : w.Sound) (hid : id < w.sets.size) (hset : (w.bindingSet id).isIndependent)
    (hc : w.store.isHashableClass c = true)
    (hb : (w.bindingSet id).outcome w.store c = .ok b) (handled : Option Ref) :
    ∃ u, (Resolution.lookup engine id (.cls c)).run handled w' = (.ok b, u) ∧
      u.store = w'.store := by
  have hhas := Store.has_of_isHashableClass hc
  have hretains := h.retains hid
  have hindependent : (w'.bindingSet id).isIndependent := by rw [hretains.isIndependent, hset]
  have hhashable : w'.store.isHashableClass c = true := by
    rw [hhas.isHashableClass hretains.classes, hc]
  exact Resolution.run_lookup_of_outcome (h.sound hw).truthful hindependent hhashable
    ((h.outcome hw hid hhas).trans hb) handled

end Later
end World
end FaultContext
