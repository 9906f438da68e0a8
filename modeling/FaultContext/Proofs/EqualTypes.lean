/-
# FaultContext.Proofs.EqualTypes -- equal types are resolved alike.

A cache finds what was remembered for an equal type.  That does no harm to a set of pure rules: if
the set has an answer for a type, then it has the same answer for every equal one (`Eval.Follows`).
The rules of the program treat equal types alike by assumption.  Of those of the library only the
registry looks at anything but the class that a type is, and equal types are the same to it with one
exception: a union made by the operator is equal to one made by name, and only the latter can be
looked for in a registry.
-/
import FaultContext.Proofs.Alike
import FaultContext.Proofs.Recalling

namespace FaultContext

open Eval

/-! ## What a registry finds -/

namespace Registry

variable {registry : Registry} {s s' : Store} {key type : Value}

/-- Types without an order are only asked whether they can be keys. -/
theorem dispatch_unordered (h : type.kind = .unordered ∨ ∃ members, type = .union members) :
    registry.dispatch s type = match s.unhashable? type with
      | some name => .error (.unhashable name)
      | none => .error .noOrder := by
  rcases h with h | ⟨members, rfl⟩
  · cases type <;> first | rfl | cases h
  · rfl

theorem found?_unordered (h : type.kind = .unordered ∨ ∃ members, type = .union members) :
    registry.found? s type = none := by
  rw [found?, dispatch_unordered h]
  cases s.unhashable? type <;> rfl

theorem accepts_unordered (h : type.kind = .unordered ∨ ∃ members, type = .union members)
    (hkey : s.unhashable? type = none) : registry.refusal? s type = none := by
  rw [refusal?, dispatch_unordered h, hkey]
  rfl

/-- All other values but classes and objects cannot be referred to. -/
theorem refuses_other (h : type.kind = .other ∨ ∃ members, type = .unionType members) :
    registry.refusal? s type ≠ none := by
  rcases h with h | ⟨members, rfl⟩
  · cases type <;> first | exact Option.some_ne_none _ | cases h
  · exact Option.some_ne_none _

theorem hashable_of_accepts {c : Class} {args : List Value}
    (h : registry.refusal? s (.classAlias c args) = none) :
    s.unhashable? (.classAlias c args) = none := by
  rw [refusal?, dispatch] at h
  cases hkey : s.unhashable? (.classAlias c args) with
  | none => rfl
  | some name =>
    rw [hkey] at h
    cases h

/-- A class applied to arguments goes by the class. -/
theorem dispatch_alias_congr (hclasses : s'.declarations = s.declarations) {c : Class}
    {args args' : List Value} (hkey : s.unhashable? (.classAlias c args) = none)
    (htype : s'.unhashable? (.classAlias c args') = none) :
    registry.dispatch s' (.classAlias c args') = registry.dispatch s (.classAlias c args) := by
  simp only [dispatch, hkey, htype, Store.isSubclass_congr hclasses, Store.order_congr hclasses]

/-- **A registry that has accepted a type accepts every equal one, and finds the same for it.** -/
theorem found?_of_agree (hclasses : s'.declarations = s.declarations) (hagree : s'.agree key type)
    (hhashable : s'.unhashable? type = none) (hobject : ∀ r, type ≠ .object r)
    (hunion : ∀ members members', key = .union members → type ≠ .unionType members')
    (hkey : registry.refusal? s key = none) :
    registry.refusal? s' type = none ∧
      registry.found? s' type = registry.found? s key := by
  have hkind := Store.kind_of_agree hagree
  have hother : ∀ h : key.kind = .other ∨ ∃ members, key = .unionType members, False := by
    exact fun h => refuses_other h hkey
  cases htype : type.kind with
  | cls c =>
    obtain rfl := Value.eq_cls_of_kind htype
    obtain rfl := Value.eq_cls_of_kind (hkind.trans htype)
    rw [refusal?, found?, found?, dispatch_congr hclasses]
    exact ⟨hkey, rfl⟩
  | applied c =>
    obtain ⟨args', rfl⟩ := Value.eq_classAlias_of_kind htype
    obtain ⟨args, rfl⟩ := Value.eq_classAlias_of_kind (hkind.trans htype)
    rw [refusal?, found?, found?,
      dispatch_alias_congr hclasses (hashable_of_accepts hkey) hhashable]
    exact ⟨hkey, rfl⟩
  | union =>
    rcases Value.eq_union_of_kind (hkind.trans htype) with hmembers | hmembers
    · rcases Value.eq_union_of_kind htype with htype | ⟨members', htype⟩
      · exact ⟨accepts_unordered (.inr htype) hhashable,
          (found?_unordered (.inr htype)).trans (found?_unordered (.inr hmembers)).symm⟩
      · obtain ⟨members, hmembers⟩ := hmembers
        exact absurd htype (hunion members members' hmembers)
    · exact (hother (.inr hmembers)).elim
  | unordered =>
    exact ⟨accepts_unordered (.inl htype) hhashable, (found?_unordered (.inl htype)).trans
      (found?_unordered (.inl (hkind.trans htype))).symm⟩
  | object =>
    obtain ⟨r, rfl⟩ := Value.eq_object_of_kind htype
    exact absurd rfl (hobject r)
  | other => exact (hother (.inl (hkind.trans htype))).elim

end Registry

/-! ## Classes derived from others -/

theorem TypeHint.isSubclassSafe_of_agree {s s' : Store}
    (hclasses : s'.declarations = s.declarations) {key type : Value} (hagree : s'.agree key type)
    (ancestors : List Value) :
    isSubclassSafe s' type ancestors = isSubclassSafe s key ancestors := by
  have hkind : ∀ v, isSubclassSafe s v ancestors = match v.kind with
      | .cls c => (derivesAny? s c ancestors).getD false
      | _ => false := by
    intro v
    cases v <;> rfl
  rw [isSubclassSafe_congr hclasses, hkind, hkind, Store.kind_of_agree hagree]

/-- Answers that go by what the registry goes by in a type treat equal types alike. -/
theorem Answers.equable_of_kind {answers : Answers}
    (h : ∀ registry key type, key.kind = type.kind → answers registry key = answers registry type) :
    answers.Equable :=
  fun registry _ key type _ hagree hfound => h registry key type (Store.kind_of_agree hagree) ▸ hfound

/-! ## Equal types are resolved alike -/

/-- A type that is equal to a key, in a store with the same classes.  It is no object, it can be a key
itself, and it is not a union made by the operator while the key is one made by name. -/
structure Store.Matches (s : Store) (key : Value) (s' : Store) (type : Value) : Prop where
  classes : s'.declarations = s.declarations
  agree : s'.agree key type
  hashable : s'.unhashable? type = none
  object : ∀ r, type ≠ .object r
  union : ∀ members members', key = .union members → type ≠ .unionType members'

/-- Two worlds in which a set answers by the same pure rules, and two types that are equal.  The text
of the second one can be made where it is to be traced. -/
structure World.Twin (engine : Engine) (s₀ : Store) (id id' : Nat) (key type : Value)
    (w w' : World) : Prop where
  kept : s₀.Keeps w.store
  kept' : s₀.Keeps w'.store
  types : w.store.Matches key w'.store type
  traced : w'.tracing → ∃ text, w'.store.repr type = .ok text
  set : (w.bindingSet id).Like (w'.bindingSet id')
  pure : (w.bindingSet id).IsPure engine s₀

section Twin

variable {engine : Engine} {s₀ : Store} {id id' : Nat} {key type : Value} {w w' v v' : World}

theorem World.Twin.of_same (h : w.Twin engine s₀ id id' key type w') (hv : w.Same v)
    (hv' : w'.Same v') : v.Twin engine s₀ id id' key type v' where
  kept := hv.store ▸ h.kept
  kept' := hv'.store ▸ h.kept'
  types := by rw [hv.store, hv'.store]; exact h.types
  traced := by rw [hv'.store, hv'.tracing]; exact h.traced
  set := by rw [hv'.bindingSet, hv.bindingSet]; exact h.set
  pure := by rw [hv.bindingSet]; exact h.pure

theorem World.Twin.legible (h : w.Twin engine s₀ id id' key type w') : w'.Legible type :=
  World.legible_of_key h.types.hashable h.traced

end Twin

namespace Eval

variable {α β : Type} {engine : Engine} {s₀ : Store} {id id' : Nat} {key type : Value}

/-- Where the first computation succeeds for the key, the other one succeeds for the type with the
same value, and nothing happens that lasts. -/
def Follows (engine : Engine) (s₀ : Store) (id id' : Nat) (key type : Value) (m m' : Eval α) :
    Prop :=
  ∀ handled handled' w w' a v, World.Twin engine s₀ id id' key type w w' →
    m.run handled w = (.ok a, v) →
    w.Same v ∧ ∃ v', m'.run handled' w' = (.ok a, v') ∧ w'.Same v'

namespace Follows

theorem pure (a : α) : Follows engine s₀ id id' key type (Pure.pure a) (Pure.pure a) := by
  intro handled handled' w w' b v _ h
  cases h
  exact ⟨.refl w, w', rfl, .refl w'⟩

theorem bind {m m' : Eval α} {f f' : α → Eval β} (hm : Follows engine s₀ id id' key type m m')
    (hf : ∀ a, Follows engine s₀ id id' key type (f a) (f' a)) :
    Follows engine s₀ id id' key type (m >>= f) (m' >>= f') := by
  intro handled handled' w w' b u hw h
  obtain ⟨a, v, hfirst, hnext⟩ := run_bind_eq_ok.mp h
  obtain ⟨hv, v', hfirst', hv'⟩ := hm handled handled' w w' a v hw hfirst
  obtain ⟨hu, u', hnext', hu'⟩ := hf a handled handled' v v' b u (hw.of_same hv hv') hnext
  exact ⟨hv.trans hu, u', (run_bind_of_ok hfirst').trans hnext', hv'.trans hu'⟩

theorem congruence : Congruence fun _ => Follows engine s₀ id id' key type := ⟨.pure, .bind⟩

theorem reading {g g' : World → α} {hg : World.Unaware g} {hg' : World.Unaware g'}
    {f f' : α → Eval β}
    (h : ∀ w w', World.Twin engine s₀ id id' key type w w' →
      Follows engine s₀ id id' key type (f (g w)) (f' (g' w'))) :
    Follows engine s₀ id id' key type (Eval.reading g hg >>= f) (Eval.reading g' hg' >>= f') :=
  fun handled handled' w w' a v hw hrun => h w w' hw handled handled' w w' a v hw hrun

/-- A computation that never succeeds is followed by any other one. -/
theorem of_ne_ok {m m' : Eval α} (h : ∀ handled w a v, m.run handled w ≠ (.ok a, v)) :
    Follows engine s₀ id id' key type m m' :=
  fun handled _ w _ a v _ hrun => absurd hrun (h handled w a v)

end Follows

/-- What is pure has the same answer for equal types. -/
theorem IsPure.follows {m : Nat → Value → Eval (Option Binding)} (h : IsPure s₀ m) :
    Follows engine s₀ id id' key type (m id key) (m id' type) := by
  intro handled handled' w w' found v hw hrun
  obtain ⟨hv, hfound⟩ := h.equal hw.kept hw.kept' hw.set.registry hw.types.agree hrun
  exact ⟨hv, hfound handled'⟩

end Eval

namespace Resolution

variable {engine : Engine} {s₀ : Store} {id id' : Nat} {key type : Value}

/-- What is traced about the type may differ. -/
theorem follows_note (what : String) :
    Follows engine s₀ id id' key type (note key what) (note type what) := by
  intro handled handled' w w' a v hw h
  obtain ⟨v', hrun, hv'⟩ := run_note hw.legible handled' what
  exact ⟨same_of_run_note h, v', hrun, hv'⟩

theorem follows_registered :
    Follows engine s₀ id id' key type (ask engine id key .registered)
      (ask engine id' type .registered) := by
  intro handled handled' w w' found v hw h
  obtain ⟨rfl, haccepts, rfl⟩ := run_ask_registered h
  have htypes := hw.types
  obtain ⟨haccepts', hfound⟩ := Registry.found?_of_agree htypes.classes htypes.agree htypes.hashable
    htypes.object htypes.union haccepts
  have hask : (ask engine id' type .registered).run handled' w' =
      (askRegistry (w'.bindingSet id').registry type).run handled' w' := rfl
  rw [← hw.set.registry] at haccepts' hfound
  rw [← hw.set.registry, ← hfound]
  exact ⟨.refl v, w', hask.trans (run_askRegistry haccepts'), .refl w'⟩

theorem follows_ask {rule : Rule} (hrule : rule.IsPure engine s₀) :
    Follows engine s₀ id id' key type (ask engine id key rule) (ask engine id' type rule) := by
  cases rule with
  | contextMethod =>
    refine .reading fun w w' hw => ?_
    rw [TypeHint.isSubclassSafe_of_agree hw.types.classes hw.types.agree]
    exact .pure _
  | registered => exact follows_registered
  | chained => exact .pure _
  | noted => exact .pure _
  | function name answers => exact Eval.IsPure.follows hrule
  | program f => exact Eval.IsPure.follows hrule

theorem follows_claim {rules : List Rule} (hrules : ∀ rule ∈ rules, rule.IsPure engine s₀) :
    Follows engine s₀ id id' key type (claim engine id key rules) (claim engine id' type rules) :=
  Follows.congruence.claim (fun rule hrule => follows_ask (hrules rule hrule)) fun _ =>
    .of_ne_ok fun _ _ _ _ => run_ambiguous_ne_ok

theorem follows_fallback :
    Follows engine s₀ id id' key type (fallback engine id key) (fallback engine id' type) := by
  refine .reading fun w w' hw => ?_
  have hpure := hw.pure.fallback
  rw [hw.set.fallback]
  cases hfallback : (w.bindingSet id).fallback <;> rw [hfallback] at hpure
  · exact .of_ne_ok fun _ _ _ _ => run_repr_raiseNew_ne_ok
  · exact Eval.IsPure.follows hpure
  · exact Eval.IsPure.follows hpure

/-- **A set of pure rules that has an answer for a type has the same answer for every equal one.** -/
theorem follows_compute :
    Follows engine s₀ id id' key type (compute engine id key) (compute engine id' type) := by
  refine .reading fun w w' hw => ?_
  rw [hw.set.rules, hw.set.conventions]
  exact Follows.congruence.foundOr (follows_claim hw.pure.rules)
    (Follows.congruence.foundOr (follows_claim hw.pure.conventions)
      (.bind (follows_note _) fun _ => follows_fallback))

end Resolution
end FaultContext
