/-
# FaultContext.Proofs.StandardResolution -- what a standard set finds for a class.

A set with the two standard rules and perhaps a convention is asked about a class, after any
registrations for classes.  Two things about the class decide what is found: whether it merges
contexts itself, which the first class along its order with a member of that name decides, and which
binding has been registered for the nearest class along its order.  Both together are ambiguous, one
of them is taken, and the convention is asked where there is neither.

This is so for every class that the registry dispatches to the nearest class with an entry, and it
does so with all classes that are unmixed (`World.Registers.nearest`).
-/
import FaultContext.Proofs.Lasting
import FaultContext.Proofs.Nearest
import FaultContext.Proofs.Overwriting

namespace FaultContext

open Eval

/-! ## Sets in which bindings are registered -/

/-- A set has been made of the standard rules and a convention, and bindings have been registered in
it for these classes, the latest first.  Anything else may have happened in between. -/
inductive World.Registers (id : Nat) (convention : Convention) :
    List (Class × Binding) → World → Prop
  | start {threadLocal : Bool} {w : World} : w.Sound → id < w.sets.size →
    w.bindingSet id = .standardWith convention threadLocal → Registers id convention [] w
  | later {registered : List (Class × Binding)} {w w' : World} :
    Registers id convention registered w → w.Later id w' → Registers id convention registered w'
  | register {registered : List (Class × Binding)} {w w' : World} {c : Class} {b : Binding} :
    Registers id convention registered w → b ≠ .unregistered →
    Session.register id (.cls c) b w = (.ok (), w') →
    Registers id convention ((c, b) :: registered) w'

namespace BindingSet

/-- The placeholder of the most general class. -/
def placeholder? (c : Class) : Option Binding :=
  if c = .standard .object then some .unregistered else none

/-- A set goes by the standard rules, a convention, and what has been registered. -/
structure Registered (set : BindingSet) (convention : Convention)
    (registered : List (Class × Binding)) : Prop where
  goesBy : set.GoesBy convention
  entries : ∀ d, set.registry.get? d = (registered.lookup d).or (placeholder? d)
  real : ∀ d b, registered.lookup d = some b → b ≠ .unregistered
  interface : registered.lookup (.standard .wrapErr) = none

variable {set set' : BindingSet} {convention : Convention} {registered : List (Class × Binding)}

theorem Registered.of_core (h : set.Registered convention registered)
    (hcore : set'.core = set.core) : set'.Registered convention registered where
  goesBy := by
    have hgoesBy := h.goesBy
    exact ⟨(congrArg BindingSet.rules hcore).trans hgoesBy.rules,
      (congrArg BindingSet.conventions hcore).trans hgoesBy.conventions,
      (congrArg BindingSet.fallback hcore).trans hgoesBy.fallback⟩
  entries d := by
    have hregistry : set'.core.registry = set.core.registry := congrArg _ hcore
    exact (congrArg (·.get? d) hregistry).trans (h.entries d)
  real := h.real
  interface := h.interface

/-- One more binding is registered for a class other than the interface. -/
theorem Registered.register (h : set.Registered convention registered) {c : Class} {b : Binding}
    (hc : c ≠ .standard .wrapErr) (hb : b ≠ .unregistered) :
    (set.register [c] b).Registered convention ((c, b) :: registered) where
  goesBy := ⟨h.goesBy.rules, h.goesBy.conventions, h.goesBy.fallback⟩
  entries d := by
    show (set.registry.insert c b).get? d = _
    rw [Registry.get?_insert, h.entries, List.lookup_cons]
    by_cases hd : d = c
    · simp [hd]
    · simp [hd, beq_eq_false_iff_ne.mpr hd]
  real d b' hb' := by
    rw [List.lookup_cons] at hb'
    split at hb'
    · cases hb'
      exact hb
    · exact h.real d b' hb'
  interface := by
    rw [List.lookup_cons, beq_eq_false_iff_ne.mpr hc.symm]
    exact h.interface

/-- The nearest entry along an order is the one for the nearest registered class, or else the
placeholder. -/
theorem Registered.firstOf (h : set.Registered convention registered) {order : List Class}
    (horder : Linearization.Ends (.standard .object) order) :
    set.registry.firstOf order =
      (order.findSome? fun d => registered.lookup d).or (some .unregistered) := by
  obtain ⟨before, rfl, hbefore⟩ := horder
  have hfirst : before.findSome? set.registry.get? =
      before.findSome? fun d => registered.lookup d := by
    refine findSome?_congr_of_mem fun d hd => ?_
    rw [h.entries, placeholder?, if_neg, Option.or_none]
    rintro rfl
    exact hbefore hd
  rw [Registry.firstOf, List.findSome?_append, List.findSome?_append, hfirst, Option.or_assoc]
  congr 1
  rw [List.findSome?_cons, List.findSome?_cons, h.entries, placeholder?, if_pos rfl]
  cases registered.lookup (.standard .object) <;> rfl

/-- What the registry has for a class is what has been registered for the nearest class. -/
theorem Registered.found? (h : set.Registered convention registered) {s : Store} {c : Class}
    (horder : Linearization.Ends (.standard .object) (s.order c))
    (hnearest : set.registry.Nearest s c) :
    set.registry.found? s (.cls c) = (s.order c).findSome? fun d => registered.lookup d := by
  rw [Registry.found?, hnearest, h.firstOf horder]
  cases hfirst : (s.order c).findSome? fun d => registered.lookup d with
  | none => rfl
  | some b =>
    obtain ⟨d, -, hd⟩ := List.exists_of_findSome?_eq_some hfirst
    have hb := h.real d b hd
    cases b <;> first | rfl | exact absurd rfl hb

end BindingSet

namespace World

variable {id : Nat} {convention : Convention} {registered : List (Class × Binding)} {w : World}

/-- Whatever happens in between, the set goes by what has been registered. -/
theorem Registers.invariant (h : Registers id convention registered w) :
    w.Sound ∧ id < w.sets.size ∧ (w.bindingSet id).Registered convention registered := by
  induction h with
  | start hw hid hset =>
    refine ⟨hw, hid, ?_⟩
    rw [hset]
    refine ⟨⟨rfl, rfl, rfl⟩, fun d => ?_, fun d b hb => (by cases hb), rfl⟩
    show List.lookup d [(Standard.object, Binding.unregistered)] = _
    by_cases hd : d = .standard .object
    · simp [BindingSet.placeholder?, hd]
    · simp [BindingSet.placeholder?, hd, List.lookup_cons, beq_eq_false_iff_ne.mpr hd]
  | later _ hlater ih =>
    obtain ⟨hw, hid, hset⟩ := ih
    have hretains := hlater.retains hid
    exact ⟨hlater.sound hw, hretains.size hid, hset.of_core hretains.core_bindingSet⟩
  | @register _ w w' c b _ hb hregister ih =>
    obtain ⟨hw, hid, hset⟩ := ih
    obtain ⟨targets, htargets, hadmits⟩ := Session.admits_of_register hregister
    cases htargets
    have hafter : (Session.register id (.cls c) b).after w = w' := by
      rw [Session.after, hregister]
    have hkeeps := Session.keeps_register_of_admits (b := b) rfl hadmits
    have hsize := size_iff_after_register id (.cls c) b (w := w)
    have hsound := Session.safe_register id (.cls c) b w hw
    rw [hafter] at hkeeps hsize hsound
    refine ⟨hsound, hsize.mpr hid, ?_⟩
    have hregistering : (w.registering id [c] b).bindingSet id =
        (w.bindingSet id).register [c] b := by
      simp [registering, World.bindingSet, Array.getElem_modify, hid]
    -- The interface merges contexts, so nothing can be registered for it.
    have hc : c ≠ .standard .wrapErr := by
      rintro rfl
      have hplain := hadmits.plain
      rw [TypeHint.isSubclassSafe_wrapErr] at hplain
      cases hplain
    refine (hset.register hc hb).of_core ?_
    rw [hkeeps.core_bindingSet, hregistering]

/-- The registry of such a set dispatches unmixed classes to the nearest class with an entry. -/
theorem Registers.nearest (h : Registers id convention registered w) (hs : w.store.Declared)
    {c : Class} (hc : w.store.isHashableClass c = true) (hunmixed : w.store.Unmixed c) :
    (w.bindingSet id).registry.Nearest w.store c := by
  obtain ⟨-, -, hset⟩ := h.invariant
  refine Registry.nearest_of_unmixed hs.lineal hc ?_ hunmixed
  rw [hset.entries, hset.interface]
  rfl

/-- A run finds a binding, and touches no object. -/
def Finds (w : World) (b : Binding) (ended : Except Signal (Option Binding) × World) : Prop :=
  ∃ w', ended = (.ok (some b), w') ∧ w'.store = w.store

/-- **What looking up a class ends with in a standard set.**  A class that merges contexts itself
and has a registered class along its order is ambiguous.  Otherwise its own method is taken, or the
binding of the nearest registered class, or what the convention says; and without a convention there
is no binding.

Whether the class merges contexts is decided by the first class of its order with a member of that
name, and the member has to be callable. -/
theorem lookup_of_registrations (h : Registers id convention registered w)
    (hs : w.store.Declared) {c : Class} (hc : w.store.isHashableClass c = true)
    (hnearest : (w.bindingSet id).registry.Nearest w.store c) (engine : Engine)
    (handled : Option Ref) :
    let merges := (w.store.member? c Store.contextMethodName).any w.store.isCallable
    let nearest := (w.store.order c).findSome? fun d => registered.lookup d
    let ended := (Resolution.lookup engine id (.cls c)).run handled w
    match merges, nearest with
    | true, some _ => Raises w .ambiguousBinding ended
    | true, none => w.Finds .method ended
    | false, some b => w.Finds b ended
    | false, none =>
      match convention with
      | .chained => w.Finds .chain ended
      | .noted => w.Finds .note ended
      | .off => Raises w .missingBinding ended := by
  intro merges nearest ended
  obtain ⟨hw, -, hset⟩ := h.invariant
  have hlineal := hs.lineal
  have hhas := Store.has_of_isHashableClass hc
  have hmerges : w.store.implementsContext c = merges := by
    rw [Store.implementsContext, hc, Bool.true_and, hlineal.hasContextMethod hhas]
  have hfound : (w.bindingSet id).registry.found? w.store (.cls c) = nearest :=
    hset.found? (hlineal.ends hhas) hnearest
  have houtcome := BindingSet.outcome_standard hset.goesBy hnearest
  rw [hmerges, hfound] at houtcome
  have hindependent := hset.goesBy.isIndependent
  -- Every outcome is what the lookup ends with.
  have hfinds : ∀ b, (w.bindingSet id).outcome w.store c = .ok (some b) → w.Finds b ended :=
    fun b hb => Resolution.run_lookup_of_outcome hw.truthful hindependent hc hb handled
  have hraises : ∀ problem, (w.bindingSet id).outcome w.store c = .error problem →
      RaisesNew w problem ended :=
    fun problem hproblem =>
      Resolution.raises_lookup hw.truthful hindependent hc hproblem handled
  cases hm : merges <;> cases hn : nearest <;> rw [hm, hn] at houtcome
  · cases convention with
    | off => exact hraises _ houtcome
    | chained => exact hfinds _ houtcome
    | noted => exact hfinds _ houtcome
  · exact hfinds _ houtcome
  · exact hfinds _ houtcome
  · exact hraises _ houtcome

/-- A world with a set that notes. -/
def noting : World := { World.initial with sets := #[.standardWith .noted false] }

/-- A class inherits a method that merges contexts and switches it off.  A class that is derived
from it and from a class with a registered binding takes that binding, not that of the convention.
-/
theorem switched_off_method_passed_over :
    ∃ w : World, Registers 0 .noted [(Standard.lookupError, .chain)] w ∧ w.store.Declared ∧
      w.store.isHashableClass (.declared 1) = true ∧
      (w.bindingSet 0).registry.Nearest w.store (.declared 1) ∧
      w.store.isSubclass (.declared 1) Standard.errorWithContext = true ∧
      w.Finds .chain ((Resolution.lookup (Engine.within 0) 0 (.cls (.declared 1))).run none w) := by
  obtain ⟨w₁, w₂, w, hw₁, hw₂, hN, hK, hregister, hsize, hstore, hmember, hnearest, hhashable,
    hordered, hderived⟩ : ∃ w₁ w₂ w : World,
      w₁ = (addClass "N" [Standard.errorWithContext] [("wrap_err", .none)] false).after noting ∧
      w₂ = (addClass "K" [.declared 0, Standard.lookupError] [] false).after w₁ ∧
      noting.store.newClass "N" [Standard.errorWithContext] [("wrap_err", .none)] false =
        .ok (.declared 0, w₁.store) ∧
      w₁.store.newClass "K" [.declared 0, Standard.lookupError] [] false =
        .ok (.declared 1, w₂.store) ∧
      Session.register 0 (.std .lookupError) .chain w₂ = (.ok (), w) ∧
      w₁.store.declarations.size = 1 ∧ w.store = w₂.store ∧
      (w.store.member? (.declared 1) Store.contextMethodName).any w.store.isCallable = false ∧
      ((w.store.order (.declared 1)).findSome? fun d =>
        List.lookup d [(Class.standard .lookupError, Binding.chain)]) = some .chain ∧
      w.store.isHashableClass (.declared 1) = true ∧
      (w.bindingSet 0).registry.Nearest w.store (.declared 1) ∧
      w.store.isSubclass (.declared 1) Standard.errorWithContext = true :=
    ⟨_, _, _, rfl, rfl, rfl, rfl, rfl, rfl, rfl, rfl, rfl, rfl, rfl, rfl⟩
  have hfirst : ∀ b ∈ [Class.standard .errorWithContext], noting.store.Has b := by
    simp [Store.Has, Class.Below]
  have hsecond : ∀ b ∈ [Class.declared 0, Standard.lookupError], w₁.store.Has b := by
    simp [Store.Has, Class.Below, hsize]
  have hlater : noting.Later 0 w₂ :=
    hw₂ ▸ .addClass "K" _ false (hw₁ ▸ .addClass "N" _ false .refl hfirst) hsecond
  have hsound : noting.Sound := by
    refine ⟨truthful_of_entries fun id => ?_, nofun⟩
    cases id <;> rfl
  have hregisters : Registers 0 .noted [(Standard.lookupError, .chain)] w :=
    .register (.later (.start hsound (by decide) rfl) hlater) nofun hregister
  have hwritten : ∀ v, Named.get? [("wrap_err", .none)] Store.contextMethodName = some v →
      noting.store.Exists v := by
    rintro v ⟨⟩ r ⟨⟩
  have hnone : ∀ v, Named.get? [] Store.contextMethodName = some v → w₁.store.Exists v := by
    rintro v ⟨⟩
  have hdeclared : w.store.Declared :=
    hstore ▸ .newClass (.newClass (.start rfl rfl) hfirst hwritten hN) hsecond hnone hK
  have hfinds := lookup_of_registrations hregisters hdeclared hhashable hordered (Engine.within 0) none
  rw [hmember, hnearest] at hfinds
  exact ⟨w, hregisters, hdeclared, hhashable, hordered, hderived, hfinds⟩

end World
end FaultContext
