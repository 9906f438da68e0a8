/-
# FaultContext.Proofs.Registering -- what a registration changes.

Registering a binding changes the one set that is registered in, and nothing else.  Whether the
registration goes through, and what the set answers by afterwards, depends on the declared classes
and on what it has answered by so far: what is remembered, by this set or by another one, does not
matter, and neither does any object.
-/
import FaultContext.Proofs.EqualTypes
import FaultContext.Proofs.Reachable

namespace FaultContext

open Eval

/-! ## Types that can be registered -/

/-- A binding can be registered for a type that can be a key, has none yet, and does not merge
contexts itself. -/
structure BindingSet.Admits (set : BindingSet) (s : Store) (type : Value) : Prop where
  hashable : s.unhashable? type = none
  free : ∀ c, type = .cls c → (set.registry.get? c).isSome → c = Standard.object
  plain : TypeHint.isSubclassSafe s type [.std .wrapErr] = false

/-- The members of a union that can be registered are classes. -/
theorem Registry.forall_cls_of_targets {members : List Value} {targets : List Class}
    (h : targets? (.union members) = some targets) : ∀ v ∈ members, ∃ c, v = .cls c := by
  rw [targets?] at h
  induction members generalizing targets with
  | nil => exact fun _ hv => absurd hv List.not_mem_nil
  | cons v rest ih =>
    rw [List.mapM_cons] at h
    obtain ⟨c, hc, h⟩ := Option.bind_eq_some_iff.mp h
    obtain ⟨others, hrest, -⟩ := Option.bind_eq_some_iff.mp h
    refine List.forall_mem_cons.mpr ⟨?_, ih hrest⟩
    split at hc
    · exact ⟨_, rfl⟩
    · cases hc

section Hierarchy

variable {s s' : Store} (hclasses : s'.declarations = s.declarations)
include hclasses

theorem Store.unhashable?_cls_congr (c : Class) (objects objects' : Ref → Option String) :
    s'.unhashableWith objects' (.cls c) = s.unhashableWith objects (.cls c) := by
  simp only [unhashableWith, isHashableClass_congr hclasses, metaclass_congr hclasses]

/-- Whether classes can be keys depends on the declared classes alone. -/
theorem Store.unhashableAny_congr {objects objects' : Ref → Option String} {members : List Value}
    (h : ∀ v ∈ members, ∃ c, v = .cls c) :
    s'.unhashableAny objects' members = s.unhashableAny objects members := by
  induction members with
  | nil => rfl
  | cons v rest ih =>
    obtain ⟨⟨c, rfl⟩, hrest⟩ := List.forall_mem_cons.mp h
    rw [unhashableAny, unhashableAny, unhashable?_cls_congr hclasses, ih hrest]

theorem Registry.unhashable?_congr {type : Value} {targets : List Class}
    (h : targets? type = some targets) : s'.unhashable? type = s.unhashable? type := by
  cases type with
  | cls c => exact Store.unhashable?_cls_congr hclasses c _ _
  | union members => exact Store.unhashableAny_congr hclasses (forall_cls_of_targets h)
  | unionType members => exact Store.unhashableAny_congr hclasses (forall_cls_of_targets h)
  | _ => cases h

theorem BindingSet.Admits.congr {set set' : BindingSet} {type : Value} {targets : List Class}
    (hlike : set.Like set') (htargets : Registry.targets? type = some targets)
    (h : set.Admits s type) : set'.Admits s' type where
  hashable := (Registry.unhashable?_congr hclasses htargets).trans h.hashable
  free := hlike.registry ▸ h.free
  plain := (TypeHint.isSubclassSafe_congr hclasses type _).trans h.plain

end Hierarchy

namespace Session

variable {id : Nat} {type : Value} {handled : Option Ref} {w w' : World}

theorem run_checkRegistrable_eq_ok :
    (checkRegistrable id type).run handled w = (.ok (), w') ↔
      (w.bindingSet id).Admits w.store type ∧ w' = w := by
  have hlast : (if TypeHint.isSubclassSafe w.store type [.std .wrapErr] = true then do
        raiseNew .ambiguousBinding ((← Eval.repr type) ++
          " implements wrap_err; registering another binding for it is ambiguous")
      else pure () : Eval Unit).run handled w = (.ok (), w') ↔
        TypeHint.isSubclassSafe w.store type [.std .wrapErr] = false ∧ w' = w := by
    split
    next h => simp [h, run_repr_raiseNew_ne_ok]
    next h =>
      rw [Bool.not_eq_true] at h
      simp [h, eq_comm]
  rw [checkRegistrable, run_bind, run_store]
  dsimp only
  cases hkey : w.store.unhashable? type with
  | some name =>
    refine ⟨fun h => ?_, fun h => ?_⟩
    · cases h
    · exact absurd (h.1.hashable.symm.trans hkey) nofun
  | none =>
    dsimp only
    split
    next c =>
      simp only [run_bind, Resolution.bindingSet, run_reading]
      split
      next htaken =>
        simp only [Bool.and_eq_true, decide_eq_true_eq] at htaken
        refine ⟨fun h => ?_, fun h => absurd (h.1.free c rfl htaken.1) htaken.2⟩
        obtain ⟨text, v, -, h⟩ := run_bind_eq_ok.mp h
        obtain ⟨_, v, hraise, -⟩ := run_bind_eq_ok.mp h
        exact absurd hraise (run_raiseNew_ne_ok _ _)
      next hfree =>
        have hfree : ∀ d, Value.cls c = .cls d → ((w.bindingSet id).registry.get? d).isSome →
            d = Standard.object := by
          rintro d ⟨⟩ htaken
          simpa [htaken] using hfree
        exact hlast.trans ⟨fun h => ⟨⟨hkey, hfree, h.1⟩, h.2⟩, fun h => ⟨h.1.plain, h.2⟩⟩
    next hother =>
      have hfree : ∀ c, type = .cls c → ((w.bindingSet id).registry.get? c).isSome →
          c = Standard.object := fun c hc => absurd hc (hother c)
      exact hlast.trans ⟨fun h => ⟨⟨hkey, hfree, h.1⟩, h.2⟩, fun h => ⟨h.1.plain, h.2⟩⟩

theorem liftM_apply {α : Type} (m : Eval α) (w : World) :
    (liftM m : Session α) w = m.run none w := rfl

/-- A registration that is refused leaves all sets as they are. -/
theorem keeps_register_of_refused {b : Binding}
    (h : ∀ targets, Registry.targets? type = some targets →
      ¬ (w.bindingSet id).Admits w.store type) :
    w.Keeps ((register id type b).after w) := by
  have hkeeps : w.Keeps ((checkRegistrable id type).run none w).2 := keeps_of_run rfl
  rw [after, register, bind_apply, liftM_apply]
  rcases hcheck : (checkRegistrable id type).run none w with ⟨signal | checked, w'⟩ <;>
    rw [hcheck] at hkeeps <;> dsimp only
  · exact hkeeps
  · have hadmits := (run_checkRegistrable_eq_ok.mp hcheck).1
    cases htargets : Registry.targets? type with
    | some targets => exact absurd hadmits (h targets htargets)
    | none =>
      refine hkeeps.trans ?_
      dsimp only
      rw [liftM_apply]
      exact Eval.keeps _ none w'

theorem keeps_register_of_admits {b : Binding} {targets : List Class}
    (htargets : Registry.targets? type = some targets)
    (hadmits : (w.bindingSet id).Admits w.store type) :
    (w.registering id targets b).Keeps ((register id type b).after w) := by
  have hcheck : (checkRegistrable id type).run none w = (.ok (), w) :=
    run_checkRegistrable_eq_ok.mpr ⟨hadmits, rfl⟩
  rw [after, register, bind_apply, liftM_apply, hcheck, htargets]
  exact keeps_of_run rfl

/-- What a registration comes to: the binding is registered for classes, or it is refused and all
sets stay as they are. -/
inductive Registration (id : Nat) (type : Value) (b : Binding) (w w' : World) : Prop
  | admitted {targets : List Class} : Registry.targets? type = some targets →
    (w.bindingSet id).Admits w.store type → (w.registering id targets b).Keeps w' →
    Registration id type b w w'
  | refused : (∀ targets, Registry.targets? type = some targets →
    ¬ (w.bindingSet id).Admits w.store type) → w.Keeps w' → Registration id type b w w'

theorem registration (id : Nat) (type : Value) (b : Binding) (w : World) :
    Registration id type b w ((register id type b).after w) := by
  by_cases h : ∃ targets, Registry.targets? type = some targets ∧
      (w.bindingSet id).Admits w.store type
  · obtain ⟨targets, htargets, hadmits⟩ := h
    exact .admitted htargets hadmits (keeps_register_of_admits htargets hadmits)
  · simp only [not_exists, not_and] at h
    exact .refused h (keeps_register_of_refused h)

end Session

/-! ## What a set answers by -/

namespace World

/-- The standard set stands in for one that is not there, in one world as in the other. -/
theorem core_bindingSet_congr {id : Nat} {w w' : World}
    (h : w'.sets[id]?.map BindingSet.core = w.sets[id]?.map BindingSet.core) :
    (w'.bindingSet id).core = (w.bindingSet id).core := by
  simp only [bindingSet, Array.getD_eq_getD_getElem?]
  cases hset : w.sets[id]? <;> cases hset' : w'.sets[id]? <;> simp_all

/-- Two worlds with the same classes, in which a set is the same apart from what it remembers. -/
structure Level (id : Nat) (w w' : World) : Prop where
  classes : w'.store.declarations = w.store.declarations
  core : w'.sets[id]?.map BindingSet.core = w.sets[id]?.map BindingSet.core

namespace Level

variable {id other : Nat} {w w' w'' : World}

theorem refl (id : Nat) (w : World) : w.Level id w := ⟨rfl, rfl⟩

theorem symm (h : w.Level id w') : w'.Level id w := ⟨h.classes.symm, h.core.symm⟩

theorem trans (h : w.Level id w') (h' : w'.Level id w'') : w.Level id w'' :=
  ⟨h'.classes.trans h.classes, h'.core.trans h.core⟩

/-- No computation changes what a set answers by. -/
theorem of_keeps (h : w.Keeps w') (id : Nat) : w.Level id w' where
  classes := h.store.classes
  core := by simpa only [Array.getElem?_map] using congrArg (·[id]?) h.sets

theorem core_bindingSet (h : w.Level id w') : (w'.bindingSet id).core = (w.bindingSet id).core :=
  core_bindingSet_congr h.core

theorem registering (h : w.Level id w') (targets : List Class) (b : Binding) :
    (w.registering id targets b).Level id (w'.registering id targets b) where
  classes := h.classes
  core := by
    have hcore := congrArg (Option.map fun set => (set.register targets b).core) h.core
    simp only [World.registering, Array.getElem?_modify, if_true, Option.map_map] at hcore ⊢
    exact hcore

/-- Registering changes nothing but the set that is registered in. -/
theorem register_other (h : other ≠ id) (type : Value) (b : Binding) :
    w.Level id ((Session.register other type b).after w) := by
  cases Session.registration other type b w with
  | @admitted targets _ _ hkeeps =>
    have hregistering : w.Level id (w.registering other targets b) := by
      refine ⟨rfl, ?_⟩
      simp only [World.registering, Array.getElem?_modify, h, if_false]
    exact hregistering.trans (.of_keeps hkeeps id)
  | refused _ hkeeps => exact .of_keeps hkeeps id

/-- What a registration does to a set depends on the classes and on what the set answers by. -/
theorem register (h : w.Level id w') (type : Value) (b : Binding) :
    ((Session.register id type b).after w).Level id ((Session.register id type b).after w') := by
  have hlike := BindingSet.Like.of_core h.core_bindingSet
  cases Session.registration id type b w with
  | @admitted targets htargets hadmits hkeeps =>
    have hadmits' := hadmits.congr h.classes hlike htargets
    have hafter' := of_keeps (Session.keeps_register_of_admits (b := b) htargets hadmits') id
    exact ((of_keeps hkeeps id).symm.trans (h.registering targets b)).trans hafter'
  | refused hrefused hkeeps =>
    have hrefused' : ∀ targets, Registry.targets? type = some targets →
        ¬ (w'.bindingSet id).Admits w'.store type := fun targets htargets hadmits' =>
      hrefused targets htargets (hadmits'.congr h.symm.classes
        (.of_core h.symm.core_bindingSet) htargets)
    have hafter' := of_keeps (Session.keeps_register_of_refused (b := b) hrefused') id
    exact ((of_keeps hkeeps id).symm.trans h).trans hafter'

end Level
end World
end FaultContext
