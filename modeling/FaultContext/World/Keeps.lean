/-
# FaultContext.World.Keeps -- what no computation changes.

Whatever a program computes, an object stays the kind of object it is: a function keeps its code and
what it stands for, a result keeps its payload, and nobody loses its class.  Classes are declared
and bindings are registered between computations and never within one; caches only grow, and they
keep telling the truth.

`World.Keeps` says this once.  Every computation carries a proof of it (`FaultContext.World.Eval`),
so it holds along every run without being proved for any particular one.
-/
import FaultContext.Binding.Answer
import FaultContext.Store.Links
import FaultContext.World.Basic

namespace FaultContext

/-! ## Objects -/

/-- What an object is for good.  The attributes of functions, the arguments and links of exceptions,
counts, and what is left of iterations may change. -/
def Body.core : Body → Body
  | .function f => .function { f with attributes := [] }
  | .exception .. => .exception [] none none
  | .counter v _ => .counter v 0
  | .iterator name _ | .pending name _ => .iterator name []
  | body => body

/-- The class of an object and what it is for good. -/
def Object.core (o : Object) : Class × Body := (o.cls, o.body.core)

namespace Store

/-- A later store still has every object of an earlier one, as what it is for good. -/
def Persists (s s' : Store) : Prop :=
  ∀ r core, (s.get? r).map Object.core = some core → (s'.get? r).map Object.core = some core

/-- A store that has all objects of another one, and the same classes. -/
structure Keeps (s s' : Store) : Prop where
  objects : s.Persists s'
  classes : s'.declarations = s.declarations

theorem Keeps.refl (s : Store) : s.Keeps s := ⟨fun _ _ h => h, rfl⟩

theorem Keeps.trans {s s' s'' : Store} (h : s.Keeps s') (h' : s'.Keeps s'') : s.Keeps s'' :=
  ⟨fun r core hr => h'.objects r core (h.objects r core hr), h'.classes.trans h.classes⟩

theorem keeps_insert (s : Store) (o : Object) : s.Keeps (s.insert o).2 := by
  refine ⟨fun r core h => ?_, rfl⟩
  obtain ⟨old, hold, hcore⟩ := Option.map_eq_some_iff.mp h
  rw [get?_insert_of_get? o hold, Option.map_some, hcore]

theorem keeps_modify (s : Store) (r : Ref) {change : Object → Object}
    (h : ∀ o, (change o).core = o.core) : s.Keeps (s.modify r change) := by
  refine ⟨fun q core hq => ?_, rfl⟩
  obtain ⟨old, hold, hcore⟩ := Option.map_eq_some_iff.mp hq
  rw [get?_modify, hold]
  split
  · rw [Option.map_some, Option.map_some, h, hcore]
  · rw [Option.map_some, hcore]

theorem keeps_setLinks (s : Store) (r : Ref)
    (change : Option Ref × Option Ref → Option Ref × Option Ref) :
    s.Keeps (s.setLinks r change) := by
  refine s.keeps_modify r fun ⟨c, attributes, body⟩ => ?_
  cases body <;> rfl

theorem keeps_setCause (s : Store) (r : Ref) (cause : Option Ref) : s.Keeps (s.setCause r cause) :=
  s.keeps_setLinks r _

theorem keeps_setContext (s : Store) (r : Ref) (context : Option Ref) :
    s.Keeps (s.setContext r context) :=
  s.keeps_setLinks r _

theorem survives_keeps : Survives Keeps := ⟨.refl, .trans, keeps_setContext⟩

theorem keeps_recordContext (s : Store) (r handled : Ref) : s.Keeps (s.recordContext r handled) :=
  survives_keeps.recordContext s r handled

theorem keeps_raising (s : Store) (r : Ref) (handled : Option Ref) : s.Keeps (s.raising r handled) :=
  survives_keeps.raising s r handled

theorem keeps_newException (s : Store) (c : Class) (args : List Value) (attributes : Named) :
    s.Keeps (s.newException c args attributes).2 :=
  s.keeps_insert _

theorem keeps_exceptionOf (s : Store) (handled : Option Ref) (f : Fault) :
    s.Keeps (s.exceptionOf handled f).2 :=
  survives_keeps.exceptionOf keeps_insert keeps_setCause s handled f

end Store

/-! ## Worlds -/

namespace World

/-- A set of bindings by its number. -/
def bindingSet (w : World) (id : Nat) : BindingSet := w.sets.getD id BindingSet.standard

/-- All sets of bindings remember the truth. -/
def Truthful (w : World) : Prop := ∀ id, (w.bindingSet id).Truthful w.store

/-- A world in which everything is still there, and nothing has been declared or registered since.
-/
structure Keeps (w w' : World) : Prop where
  store : w.store.Keeps w'.store
  sets : w'.sets.map BindingSet.core = w.sets.map BindingSet.core
  remembered : ∀ id, (w.bindingSet id).cache.entries <+: (w'.bindingSet id).cache.entries
  truthful : w.Truthful → w'.Truthful
  thread : w'.thread = w.thread
  tracing : w'.tracing = w.tracing

theorem Keeps.refl (w : World) : w.Keeps w :=
  ⟨.refl _, rfl, fun _ => List.prefix_rfl, id, rfl, rfl⟩

theorem Keeps.trans {w w' w'' : World} (h : w.Keeps w') (h' : w'.Keeps w'') : w.Keeps w'' where
  store := h.store.trans h'.store
  sets := h'.sets.trans h.sets
  remembered id := (h.remembered id).trans (h'.remembered id)
  truthful := h'.truthful ∘ h.truthful
  thread := h'.thread.trans h.thread
  tracing := h'.tracing.trans h.tracing

theorem Truthful.of_sets {w w' : World} (hsets : w'.sets = w.sets)
    (hclasses : w'.store.declarations = w.store.declarations) (h : w.Truthful) : w'.Truthful := by
  intro id hindependent thread c b hb
  rw [bindingSet, hsets] at hindependent hb ⊢
  rw [BindingSet.answer?_congr hclasses, Store.isHashableClass_congr hclasses]
  exact h id hindependent thread c b hb

theorem Keeps.core_bindingSet {w w' : World} (h : w.Keeps w') (id : Nat) :
    (w'.bindingSet id).core = (w.bindingSet id).core := by
  have hid := congrArg (·[id]?) h.sets
  simp only [Array.getElem?_map] at hid
  simp only [bindingSet, Array.getD_eq_getD_getElem?]
  cases h' : w'.sets[id]? <;> cases h : w.sets[id]? <;> simp_all

theorem Keeps.isIndependent {w w' : World} (h : w.Keeps w') (id : Nat) :
    (w'.bindingSet id).isIndependent = (w.bindingSet id).isIndependent := by
  rw [← BindingSet.isIndependent_core, h.core_bindingSet, BindingSet.isIndependent_core]

/-- The answers for classes stay what they are. -/
theorem Keeps.answer? {w w' : World} (h : w.Keeps w') (id : Nat) (c : Class) :
    (w'.bindingSet id).answer? w'.store (.cls c) = (w.bindingSet id).answer? w.store (.cls c) := by
  rw [← BindingSet.answer?_core, h.core_bindingSet, BindingSet.answer?_core,
    BindingSet.answer?_congr h.store.classes]

/-- A world with another store that keeps the old one. -/
theorem keeps_store (w : World) {s : Store} (h : w.store.Keeps s) :
    w.Keeps { w with store := s } where
  store := h
  sets := rfl
  remembered _ := List.prefix_rfl
  truthful := .of_sets rfl h.classes
  thread := rfl
  tracing := rfl

/-- A world that is another one as far as computations depend on it for good. -/
structure Same (w w' : World) : Prop where
  store : w'.store = w.store
  sets : w'.sets = w.sets
  thread : w'.thread = w.thread
  tracing : w'.tracing = w.tracing

theorem Same.refl (w : World) : w.Same w := ⟨rfl, rfl, rfl, rfl⟩

theorem Same.trans {w w' w'' : World} (h : w.Same w') (h' : w'.Same w'') : w.Same w'' :=
  ⟨h'.store.trans h.store, h'.sets.trans h.sets, h'.thread.trans h.thread,
    h'.tracing.trans h.tracing⟩

theorem Same.bindingSet {w w' : World} (h : w.Same w') (id : Nat) :
    w'.bindingSet id = w.bindingSet id := by
  rw [World.bindingSet, World.bindingSet, h.sets]

theorem Same.keeps {w w' : World} (h : w.Same w') : w.Keeps w' where
  store := h.store ▸ .refl _
  sets := by rw [h.sets]
  remembered id := h.bindingSet id ▸ List.prefix_rfl
  truthful := .of_sets h.sets (by rw [h.store])
  thread := h.thread
  tracing := h.tracing

/-! ## Remembering -/

/-- Gives an answer to the cache of a set: the answer that counts, and the world with it. -/
def remember (w : World) (id : Nat) (type : Value) (answer : Option Binding) :
    Option Binding × World :=
  let counted := (w.bindingSet id).cache.remember w.store w.thread type answer
  (counted.1, { w with sets := w.sets.modify id ({ · with cache := counted.2 }) })

/-- No other set is concerned, and of this one nothing but its cache. -/
theorem bindingSet_remember (w : World) (id other : Nat) (type : Value) (answer : Option Binding) :
    (w.remember id type answer).2.bindingSet other = w.bindingSet other ∨
      other = id ∧ (w.remember id type answer).2.bindingSet other =
        { w.bindingSet id with
          cache := ((w.bindingSet id).cache.remember w.store w.thread type answer).2 } := by
  by_cases h : id = other
  · subst h
    simp only [remember, bindingSet, Array.getD_eq_getD_getElem?, Array.getElem?_modify, if_true]
    cases w.sets[id]? with
    | none => exact .inl rfl
    | some set => exact .inr ⟨trivial, rfl⟩
  · simp [remember, bindingSet, Array.getElem?_modify, h]

/-- Remembering an answer keeps the world, provided that a set whose rules answer on their own is
given the answer it would give, for a class that can be a key. -/
theorem keeps_remember (w : World) (id : Nat) (type : Value) (answer : Option Binding)
    (h : (w.bindingSet id).isIndependent → ∀ c b, type = .cls c → answer = some b →
      w.store.isHashableClass c = true ∧ (w.bindingSet id).answer? w.store (.cls c) = some b) :
    w.Keeps (w.remember id type answer).2 where
  store := .refl _
  sets := by
    refine Array.ext_getElem? fun k => ?_
    simp only [remember, Array.getElem?_map, Array.getElem?_modify]
    split
    next heq =>
      subst heq
      rcases hset : w.sets[id]? with _ | set
      · rfl
      · have : w.bindingSet id = set := by simp [bindingSet, hset]
        simp [BindingSet.core, Cache.empty, this, Cache.threadLocal_remember]
    next => rfl
  remembered other := by
    rcases w.bindingSet_remember id other type answer with heq | ⟨rfl, heq⟩
    · exact heq ▸ List.prefix_rfl
    · rw [heq]
      rcases (w.bindingSet other).cache.entries_remember w.store w.thread type answer with
        hsame | ⟨b, -, hmore⟩
      · exact hsame ▸ List.prefix_rfl
      · exact hmore ▸ List.prefix_append ..
  truthful hw other hindependent thread c b hb := by
    rcases w.bindingSet_remember id other type answer with heq | ⟨rfl, heq⟩ <;>
      rw [heq] at hindependent hb ⊢
    · exact hw other hindependent thread c b hb
    · rcases (w.bindingSet other).cache.entries_remember w.store w.thread type answer with
        hsame | ⟨b', hanswer, hmore⟩
      · exact hw other hindependent thread c b (hsame ▸ hb)
      · rw [hmore, List.mem_append, List.mem_singleton] at hb
        rcases hb with hold | hnew
        · exact hw other hindependent thread c b hold
        · cases hnew
          exact h hindependent c b rfl hanswer
  thread := rfl
  tracing := rfl

end World
end FaultContext
