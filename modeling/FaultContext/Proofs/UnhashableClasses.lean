/-
# FaultContext.Proofs.UnhashableClasses -- classes that cannot be keys.

Three parts of a standard set meet a class whose metaclass keeps it from being a key.  The cache
warns and remembers nothing, the rule for the interface of failures answers that the class does not
implement it, and the registry refuses the class.  Nothing handles the refusal, so the class is
never resolved: whatever is registered and whichever convention there is, looking it up raises the
exception that the registry raises (`Resolution.run_lookup_of_unhashable`).

No class that can be a key comes to the same, since the outcomes of these are answers, three
diagnostics, and what functions of the program raise themselves, and a type error is none of the
diagnostics (`BindingSet.outcome_ne_typeError`).

Deliberately not here: sets without the rule of the registry.
-/
import FaultContext.Proofs.Reachable
import FaultContext.Proofs.Refusing
import FaultContext.Proofs.SameAnswer

namespace FaultContext

open Eval

/-! ## What is observed on the way -/

namespace World

/-- A world in which more has been traced. -/
def traced (w : World) (texts : List String) : World :=
  { w with observed := { w.observed with trace := w.observed.trace ++ texts } }

/-- The warning about a class that cannot be a key. -/
def unhashableWarning (w : World) (c : Class) : String × String :=
  ("UnhashableType",
    "Type " ++ w.store.classText c ++ " is unhashable; its WrapErr binding can't be cached")

/-- A world in which there has been a warning about a class. -/
def warned (w : World) (c : Class) : World :=
  { w with observed :=
    { w.observed with warnings := w.observed.warnings ++ [w.unhashableWarning c] } }

end World

/-! ## Looking up a class that cannot be a key -/

namespace Resolution

variable {engine : Engine} {id : Nat} {c : Class} {extras : List Rule} {w : World}

theorem run_note_cls (c : Class) (what : String) (handled : Option Ref) (w : World) :
    ∃ texts, (note (.cls c) what).run handled w = (.ok (), w.traced texts) := by
  have htext : w.store.repr (.cls c) = .ok (w.store.classText c) := rfl
  by_cases htracing : w.tracing
  · refine ⟨["lookup(" ++ w.store.classText c ++ "): " ++ what], ?_⟩
    rw [note, trace, run_bind, run_reading]
    dsimp only
    rw [if_pos htracing]
    exact run_bind_of_ok (run_bind_of_ok (run_repr_of_ok htext))
  · refine ⟨[], ?_⟩
    rw [note, trace, run_bind, run_reading]
    dsimp only
    rw [if_neg htracing, run_pure, World.traced, List.append_nil]

/-- Such a class is no key. -/
theorem unhashable?_of_unhashable (hc : w.store.isHashableClass c = false) :
    w.store.unhashable? (.cls c) = some (w.store.metaclass c).name := by
  simp [Store.unhashable?, Store.unhashableWith, hc]

/-- There is a warning about it. -/
theorem run_warnUnhashable_of_unhashable (hc : w.store.isHashableClass c = false)
    (handled : Option Ref) :
    (warnUnhashable (.cls c)).run handled w = (.ok true, w.warned c) := by
  have htext : w.store.str (.cls c) = .ok (w.store.classText c) := rfl
  rw [warnUnhashable, run_bind_of_ok run_store, unhashable?_of_unhashable hc]
  exact run_bind_of_ok (run_str_of_ok htext)

/-- The class does not pass for one that implements the interface, and then the registry refuses it.
-/
theorem run_compute_of_unhashable
    (hrules : (w.bindingSet id).rules = .contextMethod :: .registered :: extras)
    (hc : w.store.isHashableClass c = false) (handled : Option Ref) :
    (compute engine id (.cls c)).run handled w =
      (fault (.unhashable Standard.unhashableMeta.name)).run handled w := by
  have hmethod : (ask engine id (.cls c) .contextMethod).run handled w = (.ok none, w) := by
    simp [ask, run_bind, TypeHint.isSubclassSafe_wrapErr, Store.implementsContext, hc]
  have hdispatch : (w.bindingSet id).registry.dispatch w.store (.cls c) =
      .error (.unhashable Standard.unhashableMeta.name) := by
    simp [Registry.dispatch, Store.metaclass, hc]
  have hregistered : (ask engine id (.cls c) .registered).run handled w =
      (fault (.unhashable Standard.unhashableMeta.name)).run handled w := by
    simp only [ask, askRegistry, bindingSet, run_bind, run_reading, run_store, hdispatch, refuse]
  have hall : (askAll engine id (.cls c) (w.bindingSet id).rules).run handled w =
      (fault (.unhashable Standard.unhashableMeta.name)).run handled w := by
    rw [hrules, askAll, run_bind_of_ok hmethod]
    exact run_bind_of_error hregistered
  rw [compute, bindingSet, run_bind_of_ok (run_reading _ _)]
  exact run_bind_of_error (run_bind_of_error hall)

/-- **A class that cannot be a key is never resolved.**  There is a warning, and then the fault of
the registry. -/
theorem run_lookup_of_unhashable
    (hrules : (w.bindingSet id).rules = .contextMethod :: .registered :: extras)
    (hc : w.store.isHashableClass c = false) (handled : Option Ref) :
    ∃ texts, (Resolution.lookup engine id (.cls c)).run handled w =
      (fault (.unhashable Standard.unhashableMeta.name)).run handled
        ((w.traced texts).warned c) := by
  obtain ⟨texts, hnote⟩ := run_note_cls c "start" handled w
  have hwarn := run_warnUnhashable_of_unhashable (w := w.traced texts) hc handled
  -- What is no key has nothing stored for it.
  have hnone : w.recalled id (.cls c) = none := by
    rw [World.recalled, unhashable?_of_unhashable hc]
    rfl
  -- Notes and warnings do not change what the class is, nor the rules.
  have hcompute : (compute engine id (.cls c)).run handled
      ((w.traced texts).warned c) = _ :=
    run_compute_of_unhashable (w := (w.traced texts).warned c) hrules hc handled
  refine ⟨texts, ?_⟩
  rw [run_lookup, run_bind_of_ok hnote, run_bind_of_ok hwarn, hnone]
  simp only [resumed, computeIn, thenChange, computeNoted, run_bind_of_error hcompute]
  rfl

end Resolution

/-! ## Classes that can be keys -/

/-- A lookup ends with an outcome: with the answer, and no object is touched, or with a new
exception that says why there is none. -/
def World.EndsWith (w : World) (outcome : Except Class (Option Binding))
    (ended : Except Signal (Option Binding) × World) : Prop :=
  match outcome with
  | .ok found => ∃ w', ended = (.ok found, w') ∧ w'.store = w.store
  | .error problem => RaisesNew w problem ended

/-- What such a class comes to is what its set has for it. -/
theorem Resolution.lookup_endsWith {w : World} {id : Nat} {c : Class} (hw : w.Truthful)
    (hset : (w.bindingSet id).isIndependent) (hc : w.store.isHashableClass c = true)
    (engine : Engine) (handled : Option Ref) :
    w.EndsWith ((w.bindingSet id).outcome w.store c)
      ((Resolution.lookup engine id (.cls c)).run handled w) := by
  cases houtcome : (w.bindingSet id).outcome w.store c with
  | ok found => exact run_lookup_of_outcome hw hset hc houtcome handled
  | error problem => exact raises_lookup hw hset hc houtcome handled

/-- A function of the program that is asked by a set, as a rule or as the fallback, is known by these
answers. -/
def BindingSet.Uses (set : BindingSet) (answers : Answers) : Prop :=
  (∃ name, .function name answers ∈ set.rules ∨ .function name answers ∈ set.conventions) ∨
    set.fallback = .function answers

/-- The functions of the program that a set asks raise no type errors about a class themselves. -/
def BindingSet.RaisesNoTypeError (set : BindingSet) (c : Class) : Prop :=
  ∀ answers, set.Uses answers → ∀ complaint,
    answers set.registry (.cls c) = .error complaint → complaint.cls ≠ Standard.typeError

/-- A set that has rules of the library only asks no function of the program. -/
theorem BindingSet.GoesBy.raisesNoTypeError {set : BindingSet} {convention : Convention}
    (h : set.GoesBy convention) (c : Class) : set.RaisesNoTypeError c := by
  rintro answers (⟨name, hrule⟩ | hfallback)
  · rw [h.rules, h.conventions] at hrule
    cases convention <;> simp [Convention.rules] at hrule
  · rw [h.fallback] at hfallback
    cases hfallback

/-- The outcomes without an answer are three diagnostics, and what functions of the program raise. -/
theorem BindingSet.outcome_ne_typeError {set : BindingSet} {s : Store} {c : Class}
    (hc : s.isHashableClass c = true) (hset : set.RaisesNoTypeError c) :
    set.outcome s c ≠ .error Standard.typeError := by
  have htier : ∀ rules, (∀ rule ∈ rules, rule ∈ set.rules ∨ rule ∈ set.conventions) →
      set.tier s c rules ≠ .error Standard.typeError := by
    intro rules hrules h
    rw [tier] at h
    split at h
    next problem hrefusal =>
      cases h
      obtain ⟨rule, hrule, hproblem⟩ := List.exists_of_findSome?_eq_some hrefusal
      cases rule with
      | registered =>
        obtain ⟨-, hruntime⟩ := Resolution.dispatch_of_refusal hc hproblem
        cases hruntime
      | function name answers =>
        rw [Rule.refusal?] at hproblem
        cases hanswer : answers set.registry (.cls c) with
        | ok found =>
          rw [hanswer] at hproblem
          cases hproblem
        | error complaint =>
          rw [hanswer] at hproblem
          exact hset answers (.inl ⟨name, hrules _ hrule⟩) complaint hanswer
            (Option.some.inj hproblem)
      | _ => cases hproblem
    next => split at h <;> cases h
  have hresort : set.resort c ≠ .error Standard.typeError := by
    intro h
    rw [resort] at h
    split at h
    next answers hfallback =>
      cases hanswer : answers set.registry (.cls c) with
      | ok found =>
        rw [hanswer] at h
        cases h
      | error complaint =>
        rw [hanswer] at h
        exact hset answers (.inr hfallback) complaint hanswer (Except.error.inj h)
    next => cases h
  intro h
  rw [outcome] at h
  rcases hrules : set.tier s c set.rules with problem | _ | b <;> rw [hrules] at h
  · exact htier _ (fun _ => .inl) (hrules.trans h)
  · rcases hconventions : set.tier s c set.conventions with problem | _ | b <;>
      simp only [bind, Except.bind, hconventions] at h
    · exact htier _ (fun _ => .inr) (hconventions.trans h)
    · exact hresort h
    · cases h
  · cases h

/-- An exception says something as an instance of its class. -/
theorem Store.eq_of_saying? {s : Store} {x : Ref} {c c' : Class} {args : List Value}
    {attributes : Named} (hsaid : s.saying? x = some (c, args))
    (hlabel : s.label? x = some (c', attributes)) : c' = c := by
  obtain ⟨o, ho, hcls⟩ := Option.map_eq_some_iff.mp hlabel
  rw [saying?, ho] at hsaid
  obtain ⟨cls, attributes', body⟩ := o
  cases body <;> cases hsaid
  cases hcls
  rfl

/-! ## The two compared -/

/-- **Every standard set refuses a class that cannot be a key.**  Whatever is registered and
whatever other rules and conventions there are, looking it up raises a new type error that names the
metaclass, after one warning; nothing is logged, and nothing is remembered.

No class that can be a key ends like this.  In any reachable world and any set whose rules answer on
their own it comes to its outcome, which is an answer or one of the diagnostics of the library,
unless a function of the program raises an exception of its own; and if that is no type error the
two cannot be taken for each other. -/
theorem lookup_of_unhashable {engine : Engine} {w : World} {id : Nat} {extras : List Rule}
    {c : Class} (hrules : (w.bindingSet id).rules = .contextMethod :: .registered :: extras)
    (hc : w.store.isHashableClass c = false) (handled : Option Ref) :
    (∃ x w', (Resolution.lookup engine id (.cls c)).run handled w = (.error (.raised x), w') ∧
      w.store.get? x = none ∧
      w'.store.saying? x =
        some (.standard .typeError, [.str .fresh "unhashable type: 'NoHashMeta'"]) ∧
      w'.sets = w.sets ∧ w'.observed.log = w.observed.log ∧
      w'.observed.warnings = w.observed.warnings ++ [w.unhashableWarning c]) ∧
    ∀ (v : World) (engine' : Engine) (id' : Nat) (c' : Class) (handled' : Option Ref),
      v.Reachable → (v.bindingSet id').isIndependent → v.store.isHashableClass c' = true →
      v.EndsWith ((v.bindingSet id').outcome v.store c')
          ((Resolution.lookup engine' id' (.cls c')).run handled' v) ∧
        ((v.bindingSet id').RaisesNoTypeError c' →
          ¬SameAnswer ((Resolution.lookup engine id (.cls c)).run handled w)
            ((Resolution.lookup engine' id' (.cls c')).run handled' v)) := by
  obtain ⟨texts, hrun⟩ : ∃ texts, (Resolution.lookup engine id (.cls c)).run handled w = _ :=
    Resolution.run_lookup_of_unhashable hrules hc handled
  obtain ⟨hnew, -, -⟩ := w.store.exceptionOf_spec handled (.unhashable Standard.unhashableMeta.name)
  have hsaid := w.store.saying?_exceptionOf handled (.unhashable Standard.unhashableMeta.name)
  refine ⟨⟨_, _, hrun, hnew, hsaid, rfl, rfl, rfl⟩, ?_⟩
  intro v engine' id' c' handled' hv hindependent hhashable
  have hends := Resolution.lookup_endsWith hv.sound.truthful hindependent hhashable engine' handled'
  refine ⟨hends, ?_⟩
  rw [hrun]
  intro hset hsame
  generalize hended : (Resolution.lookup engine' id' (.cls c')).run handled' v = ended at hends hsame
  cases hsame with
  | @raised _ x' said _ v' hsays hsays' =>
    -- Both would say the same, and then the outcome would be a type error.
    cases hsaid.symm.trans hsays
    cases houtcome : (v.bindingSet id').outcome v.store c' with
    | ok found =>
      rw [houtcome] at hends
      obtain ⟨_, heq, -⟩ := hends
      cases heq
    | error problem =>
      rw [houtcome] at hends
      obtain ⟨x, u, heq, -, hlabel, -⟩ := hends
      cases heq
      cases Store.eq_of_saying? hsays' hlabel
      exact BindingSet.outcome_ne_typeError hhashable hset houtcome

/-- A class of exceptions that cannot be a key is refused by the set that is used where none is
named, and the same class with an ordinary metaclass is left to the convention. -/
theorem unhashable_exception_refused :
    let lookup := Resolution.lookup (Engine.within 0) defaultSet (.cls (.declared 0))
    ∃ w v : World, w = (addClass "U" [Standard.exception] [] true).after World.initial ∧
      v = (addClass "U" [Standard.exception] [] false).after World.initial ∧
      (w.bindingSet defaultSet).rules = [.contextMethod, .registered] ∧
      w.store.isHashableClass (.declared 0) = false ∧
      v.Reachable ∧ (v.bindingSet defaultSet).isIndependent ∧
      v.store.isHashableClass (.declared 0) = true ∧
      (v.bindingSet defaultSet).outcome v.store (.declared 0) = .ok (some .chain) ∧
      (∃ x w', lookup.run none w = (.error (.raised x), w') ∧
        w'.observed.warnings = [w.unhashableWarning (.declared 0)]) ∧
      ¬SameAnswer (lookup.run none w) (lookup.run none v) := by
  intro lookup
  obtain ⟨w, v, hw, hv, hrules, hc, hset, hindependent, hhashable, houtcome, hquiet⟩ : ∃ w v : World,
      w = (addClass "U" [Standard.exception] [] true).after World.initial ∧
      v = (addClass "U" [Standard.exception] [] false).after World.initial ∧
      (w.bindingSet defaultSet).rules = [.contextMethod, .registered] ∧
      w.store.isHashableClass (.declared 0) = false ∧
      (v.bindingSet defaultSet).GoesBy .chained ∧
      (v.bindingSet defaultSet).isIndependent ∧
      v.store.isHashableClass (.declared 0) = true ∧
      (v.bindingSet defaultSet).outcome v.store (.declared 0) = .ok (some .chain) ∧
      w.observed.warnings = [] :=
    ⟨_, _, rfl, rfl, rfl, rfl, ⟨rfl, rfl, rfl⟩, rfl, rfl, rfl, rfl⟩
  have hreachable : v.Reachable := by
    refine hv ▸ .addClass "U" [] false (.start (fun id => ?_) nofun)
      (by simp [Store.Has, Class.Below])
    cases id <;> rfl
  obtain ⟨⟨x, w', hrun, -, -, -, -, hwarnings⟩, hother⟩ :=
    @lookup_of_unhashable (Engine.within 0) _ _ _ _ hrules hc none
  rw [hquiet, List.nil_append] at hwarnings
  exact ⟨w, v, hw, hv, hrules, hc, hreachable, hindependent, hhashable, houtcome,
    ⟨x, w', hrun, hwarnings⟩,
    (hother v (Engine.within 0) defaultSet (.declared 0) none hreachable hindependent hhashable).2
      (hset.raisesNoTypeError _)⟩

end FaultContext
