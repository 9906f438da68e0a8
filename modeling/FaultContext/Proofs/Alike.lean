/-
# FaultContext.Proofs.Alike -- what resolving a type depends on.

A rule is pure if it is a function of the type and of what is registered in the set that asks it: it
leaves nothing behind when it answers, it raises alike where it raises, and equal types are the same
to it.  The same goes for what is done where no rule answers.  A set of pure rules reads nothing of a
world, while it resolves a type afresh, but the objects, whether decisions are traced, and what the
set itself answers by.  What it remembers, what other sets do and which thread is running make no
difference.

This is a fact about two runs in two worlds (`Eval.Parallel`).  It holds of the few kinds of steps
that resolving is made of, and it survives sequencing.  What survives sequencing survives resolving
if it holds of each rule (`Eval.Congruence`); there are other facts of that kind about two runs.
-/
import FaultContext.World.Session

namespace FaultContext

open Eval

/-! ## What survives sequencing -/

/-- A relation between computations that survives sequencing. -/
structure Eval.Congruence (R : (α : Type) → Eval α → Eval α → Prop) : Prop where
  pure : ∀ {α : Type} (a : α), R α (Pure.pure a) (Pure.pure a)
  bind : ∀ {α β : Type} {m m' : Eval α} {f f' : α → Eval β}, R α m m' →
    (∀ a, R β (f a) (f' a)) → R β (m >>= f) (m' >>= f')

namespace Eval.Congruence

open Resolution

variable {R : (α : Type) → Eval α → Eval α → Prop} (h : Congruence R)
include h

/-- What has been found is the answer, and otherwise the next computation gives it. -/
theorem foundOr {m m' next next' : Eval (Option Binding)} (hm : R _ m m') (hnext : R _ next next') :
    R _ (do match ← m with | some b => return some b | none => next)
      (do match ← m' with | some b => return some b | none => next') := by
  refine h.bind hm fun found => ?_
  cases found with
  | some b => exact h.pure _
  | none => exact hnext

section Tiers

variable {engine : Engine} {id id' : Nat} {type type' : Value} {rules : List Rule}
  (hask : ∀ rule ∈ rules, R _ (ask engine id type rule) (ask engine id' type' rule))
include hask

theorem askAll : R _ (askAll engine id type rules) (askAll engine id' type' rules) := by
  induction rules with
  | nil => exact h.pure []
  | cons rule rest ih =>
    obtain ⟨hrule, hrest⟩ := List.forall_mem_cons.mp hask
    refine h.bind hrule fun found => ?_
    cases found with
    | some b => exact h.bind (ih hrest) fun _ => h.pure _
    | none => exact ih hrest

/-- Two answers are a diagnostic about the type. -/
theorem claim (hambiguous : ∀ several,
      R (Option Binding) (ambiguous type several) (ambiguous type' several)) :
    R _ (claim engine id type rules) (claim engine id' type' rules) := by
  refine h.bind (h.askAll hask) fun claims => ?_
  split
  · exact h.pure none
  · exact h.pure _
  · exact hambiguous _

end Tiers
end Eval.Congruence

/-! ## Pure rules -/

/-- Two runs end in the same way, and no set has been touched: with the same value, and then nothing
has happened that lasts, or with the same exception in the same store. -/
inductive Eval.EndAlike {α : Type} (w w' : World) :
    Except Signal α × World → Except Signal α × World → Prop
  | ok (a : α) {v v' : World} : w.Same v → w'.Same v' → EndAlike w w' (.ok a, v) (.ok a, v')
  | error (signal : Signal) {v v' : World} : v'.store = v.store → v.sets = w.sets →
    v'.sets = w'.sets → EndAlike w w' (.error signal, v) (.error signal, v')

/-- From a store on, what a set is to answer for a type is a function of the type and of what is
registered in the set: in two worlds with the same objects it ends in the same way, and where it has
an answer it has the same one for every equal type. -/
structure Eval.IsPure (s₀ : Store) (m : Nat → Value → Eval (Option Binding)) : Prop where
  alike : ∀ {id id' : Nat} {w w' : World}, s₀.Keeps w.store → w'.store = w.store →
    w'.tracing = w.tracing → (w'.bindingSet id').registry = (w.bindingSet id).registry →
    ∀ type handled, EndAlike w w' ((m id type).run handled w) ((m id' type).run handled w')
  equal : ∀ {id id' : Nat} {w w' : World}, s₀.Keeps w.store → s₀.Keeps w'.store →
    (w'.bindingSet id').registry = (w.bindingSet id).registry →
    ∀ {key type : Value}, w'.store.agree key type →
    ∀ {handled : Option Ref} {found : Option Binding} {v : World},
      (m id key).run handled w = (.ok found, v) → w.Same v ∧
      ∀ handled', ∃ v', (m id' type).run handled' w' = (.ok found, v') ∧ w'.Same v'

/-- Rules of the library are functions of the type and of what is registered. -/
def Rule.IsPure (engine : Engine) (s₀ : Store) : Rule → Prop
  | .contextMethod | .registered | .chained | .noted => True
  | rule => Eval.IsPure s₀ fun id type => Resolution.ask engine id type rule

/-- To have no binding is a diagnostic about the type. -/
def Fallback.IsPure (engine : Engine) (s₀ : Store) : Fallback → Prop
  | .missing => True
  | .function answers => Eval.IsPure s₀ fun id type => do
    Resolution.answered (answers (← Resolution.bindingSet id).registry type)
  | .program f => Eval.IsPure s₀ fun _ type => do
    return Binding.ofValue? (← engine.call f [type] [])

namespace BindingSet

/-- All rules of a set, and what is done where none of them answers, are functions of the type and of
what is registered. -/
structure IsPure (engine : Engine) (s₀ : Store) (set : BindingSet) : Prop where
  rules : ∀ rule ∈ set.rules, rule.IsPure engine s₀
  conventions : ∀ rule ∈ set.conventions, rule.IsPure engine s₀
  fallback : set.fallback.IsPure engine s₀

/-- Two sets are alike apart from their caches. -/
structure Like (set set' : BindingSet) : Prop where
  rules : set'.rules = set.rules
  conventions : set'.conventions = set.conventions
  fallback : set'.fallback = set.fallback
  registry : set'.registry = set.registry

theorem Like.refl (set : BindingSet) : set.Like set := ⟨rfl, rfl, rfl, rfl⟩

theorem Like.symm {set set' : BindingSet} (h : set.Like set') : set'.Like set :=
  ⟨h.rules.symm, h.conventions.symm, h.fallback.symm, h.registry.symm⟩

theorem Like.trans {set set' set'' : BindingSet} (h : set.Like set') (h' : set'.Like set'') :
    set.Like set'' :=
  ⟨h'.rules.trans h.rules, h'.conventions.trans h.conventions, h'.fallback.trans h.fallback,
    h'.registry.trans h.registry⟩

theorem Like.of_core {set set' : BindingSet} (h : set'.core = set.core) : set.Like set' where
  rules := (congrArg BindingSet.rules h :)
  conventions := (congrArg BindingSet.conventions h :)
  fallback := (congrArg BindingSet.fallback h :)
  registry := (congrArg BindingSet.registry h :)

theorem IsPure.of_like {engine : Engine} {s₀ : Store} {set set' : BindingSet}
    (hset : set.IsPure engine s₀) (h : set.Like set') : set'.IsPure engine s₀ where
  rules := h.rules ▸ hset.rules
  conventions := h.conventions ▸ hset.conventions
  fallback := h.fallback ▸ hset.fallback

end BindingSet

/-! ## Answers that are pure -/

/-- Answers for which equal types are the same. -/
def Answers.Equable (answers : Answers) : Prop :=
  ∀ (registry : Registry) (s : Store) (key type : Value) (found : Option Binding),
    s.agree key type → answers registry key = .ok found → answers registry type = .ok found

namespace Eval

variable {s₀ : Store} {answers : Answers}

/-- What always answers in the same way, and leaves nothing behind, is pure. -/
theorem isPure_of_answers {m : Nat → Value → Eval (Option Binding)} (hequable : answers.Equable)
    (h : ∀ {w : World}, s₀.Keeps w.store → ∀ id type handled, ∃ v, w.Same v ∧
      (m id type).run handled w =
        (Resolution.answered (answers (w.bindingSet id).registry type)).run handled v) :
    IsPure s₀ m where
  alike := by
    intro id id' w w' hw hstore _ hregistry type handled
    obtain ⟨v, hv, hrun⟩ := h hw id type handled
    obtain ⟨v', hv', hrun'⟩ := h (hstore ▸ hw) id' type handled
    rw [hrun, hrun', hregistry]
    cases answers (w.bindingSet id).registry type with
    | ok found => exact .ok found hv hv'
    | error complaint =>
      have hsame : v'.store = v.store := by rw [hv'.store, hv.store, hstore]
      rw [Resolution.answered, run_raiseAnew, run_raiseAnew, hsame]
      exact .error _ rfl hv.sets hv'.sets
  equal := by
    intro id id' w w' hw hw' hregistry key type hagree handled found v hrun
    obtain ⟨u, hu, hanswered⟩ := h hw id key handled
    obtain ⟨rfl, hfound⟩ := Resolution.run_answered (hanswered.symm.trans hrun)
    refine ⟨hu, fun handled' => ?_⟩
    obtain ⟨v', hv', hrun'⟩ := h hw' id' type handled'
    rw [hregistry, hequable _ _ _ _ _ hagree hfound] at hrun'
    exact ⟨v', hrun', hv'⟩

end Eval

/-- A rule that is known by its answers is pure if equal types are the same to it. -/
theorem Rule.isPure_function {engine : Engine} {s₀ : Store} {name : String} {answers : Answers}
    (h : answers.Equable) : (Rule.function name answers).IsPure engine s₀ :=
  Eval.isPure_of_answers h fun {w} _ _ _ _ => ⟨w, .refl w, rfl⟩

theorem Fallback.isPure_function {engine : Engine} {s₀ : Store} {answers : Answers}
    (h : answers.Equable) : (Fallback.function answers).IsPure engine s₀ :=
  Eval.isPure_of_answers h fun {w} _ _ _ _ => ⟨w, .refl w, rfl⟩

/-- A rule of the program is pure if its calls come to such answers. -/
theorem Rule.isPure_program {engine : Engine} {s₀ : Store} {f : Value} {answers : Answers}
    (hequable : answers.Equable)
    (h : ∀ {w : World}, s₀.Keeps w.store → ∀ id type handled, ∃ v, w.Same v ∧
      (do return Binding.ofValue? (← engine.call f [] [("typ", type), ("ctx", .bindings id)])
        : Eval (Option Binding)).run handled w =
        (Resolution.answered (answers (w.bindingSet id).registry type)).run handled v) :
    (Rule.program f).IsPure engine s₀ :=
  Eval.isPure_of_answers hequable h

/-! ## Worlds that are alike -/

namespace World

/-- Two worlds with the same objects, in which a set answers by the same pure rules. -/
structure Alike (engine : Engine) (s₀ : Store) (id id' : Nat) (w w' : World) : Prop where
  kept : s₀.Keeps w.store
  store : w'.store = w.store
  tracing : w'.tracing = w.tracing
  set : (w.bindingSet id).Like (w'.bindingSet id')
  pure : (w.bindingSet id).IsPure engine s₀

variable {engine : Engine} {s₀ : Store}

theorem Alike.of_same {id id' : Nat} {w w' v v' : World} (h : w.Alike engine s₀ id id' w')
    (hv : w.Same v) (hv' : w'.Same v') : v.Alike engine s₀ id id' v' where
  kept := hv.store ▸ h.kept
  store := by rw [hv'.store, hv.store, h.store]
  tracing := by rw [hv'.tracing, hv.tracing, h.tracing]
  set := by rw [hv'.bindingSet, hv.bindingSet]; exact h.set
  pure := by rw [hv.bindingSet]; exact h.pure

theorem Alike.refl {id : Nat} {w : World} (hkept : s₀.Keeps w.store)
    (hset : (w.bindingSet id).IsPure engine s₀) : w.Alike engine s₀ id id w :=
  ⟨hkept, rfl, rfl, .refl _, hset⟩

end World

/-! ## Computations that cannot tell such worlds apart -/

namespace Eval

variable {α β : Type} {engine : Engine} {s₀ : Store} {id id' : Nat}

/-- Two computations that end in the same way in worlds that are alike. -/
def Parallel (engine : Engine) (s₀ : Store) (id id' : Nat) (m m' : Eval α) : Prop :=
  ∀ handled (w w' : World), w.Alike engine s₀ id id' w' →
    EndAlike w w' (m.run handled w) (m'.run handled w')

theorem run_fault (problem : Fault) (handled : Option Ref) (w : World) :
    (fault problem : Eval α).run handled w =
      (.error (.raised (w.store.exceptionOf handled problem).1),
        { w with store := (w.store.exceptionOf handled problem).2 }) := rfl

namespace Parallel

theorem pure (a : α) : Parallel engine s₀ id id' (Pure.pure a) (Pure.pure a) :=
  fun _ w w' _ => .ok a (.refl w) (.refl w')

/-- What has not ended goes on in worlds that are still alike. -/
theorem bind {m m' : Eval α} {f f' : α → Eval β} (hm : Parallel engine s₀ id id' m m')
    (hf : ∀ a, Parallel engine s₀ id id' (f a) (f' a)) :
    Parallel engine s₀ id id' (m >>= f) (m' >>= f') := by
  intro handled w w' hw
  have hfirst := hm handled w w' hw
  rw [run_bind, run_bind]
  generalize m.run handled w = first, m'.run handled w' = first' at hfirst ⊢
  cases hfirst with
  | @ok a v v' hv hv' =>
    have hnext := hf a handled v v' (hw.of_same hv hv')
    dsimp only
    generalize (f a).run handled v = next, (f' a).run handled v' = next' at hnext ⊢
    cases hnext with
    | ok b hu hu' => exact .ok b (hv.trans hu) (hv'.trans hu')
    | error signal hstore hsets hsets' =>
      exact .error signal hstore (hsets.trans hv.sets) (hsets'.trans hv'.sets)
  | error signal hstore hsets hsets' => exact .error signal hstore hsets hsets'

/-- What has been read may differ as far as the two go on in the same way. -/
theorem reading {g g' : World → α} {hg : World.Unaware g} {hg' : World.Unaware g'}
    {f f' : α → Eval β}
    (h : ∀ w w', World.Alike engine s₀ id id' w w' →
      Parallel engine s₀ id id' (f (g w)) (f' (g' w'))) :
    Parallel engine s₀ id id' (Eval.reading g hg >>= f) (Eval.reading g' hg' >>= f') :=
  fun handled w w' hw => h w w' hw handled w w' hw

theorem store {f f' : Store → Eval α} (h : ∀ s, Parallel engine s₀ id id' (f s) (f' s)) :
    Parallel engine s₀ id id' (Eval.store >>= f) (Eval.store >>= f') :=
  reading fun w _ hw => hw.store ▸ h w.store

theorem changeRest {f f' : World → World} {h : ∀ w : World, w.Same (f w)}
    {h' : ∀ w : World, w.Same (f' w)} {hf : World.Steady fun w => ((), f w)}
    {hf' : World.Steady fun w => ((), f' w)} :
    Parallel engine s₀ id id' (Eval.changeRest f h hf) (Eval.changeRest f' h' hf') :=
  fun _ w w' _ => .ok () (h w) (h' w')

theorem fault (problem : Fault) :
    Parallel engine s₀ id id' (Eval.fault problem : Eval α) (Eval.fault problem) := by
  intro handled w w' hw
  rw [run_fault, run_fault, hw.store]
  exact .error _ rfl rfl rfl

/-- Nothing comes after an exception. -/
theorem fault_bind (problem : Fault) {f f' : α → Eval β} :
    Parallel engine s₀ id id' (Eval.fault problem >>= f) (Eval.fault problem >>= f') := by
  intro handled w w' hw
  rw [run_bind, run_bind, run_fault, run_fault, hw.store]
  exact .error _ rfl rfl rfl

/-- An object may be made for an exception. -/
theorem new_fault (o : Object) (problem : Value → Fault) :
    Parallel engine s₀ id id' (Eval.new o >>= fun v => (Eval.fault (problem v) : Eval α))
      (Eval.new o >>= fun v => Eval.fault (problem v)) := by
  intro handled w w' hw
  rw [run_bind, run_bind, run_new, run_new, hw.store]
  exact .error _ rfl rfl rfl

theorem congruence : Congruence fun _ => Parallel engine s₀ id id' := ⟨.pure, .bind⟩

theorem raiseNew (c : Standard) (message : String) :
    Parallel engine s₀ id id' (Eval.raiseNew c message : Eval α) (Eval.raiseNew c message) := by
  intro handled w w' hw
  rw [run_raiseNew, run_raiseNew, hw.store]
  exact .error _ rfl rfl rfl

theorem lift (r : Except Fault α) :
    Parallel engine s₀ id id' (Eval.lift r) (Eval.lift r) := by
  cases r with
  | ok a => exact .pure a
  | error problem => exact .fault problem

theorem str (v : Value) : Parallel engine s₀ id id' (Eval.str v) (Eval.str v) :=
  store fun _ => lift _

theorem repr (v : Value) : Parallel engine s₀ id id' (Eval.repr v) (Eval.repr v) :=
  store fun _ => lift _

theorem trace {message message' : Eval String} (h : Parallel engine s₀ id id' message message') :
    Parallel engine s₀ id id' (Eval.trace message) (Eval.trace message') := by
  refine reading fun w w' hw => ?_
  show Parallel engine s₀ id id' (if w.tracing then _ else _) (if w'.tracing then _ else _)
  rw [hw.tracing]
  split
  · exact .bind h fun _ => .changeRest
  · exact .pure ()

end Parallel

/-- What is pure ends in the same way in worlds that are alike. -/
theorem IsPure.parallel {m : Nat → Value → Eval (Option Binding)} (h : IsPure s₀ m) (type : Value) :
    Parallel engine s₀ id id' (m id type) (m id' type) :=
  fun handled _ _ hw => h.alike hw.kept hw.store hw.tracing hw.set.registry type handled

end Eval

/-! ## Resolving a type -/

namespace Resolution

variable {engine : Engine} {s₀ : Store} {id id' : Nat}

theorem parallel_warnUnhashable (type : Value) :
    Parallel engine s₀ id id' (warnUnhashable type) (warnUnhashable type) := by
  refine .store fun s => ?_
  split
  · exact .pure false
  · exact .bind (.str type) fun _ => .bind .changeRest fun _ => .pure true

theorem parallel_note (type : Value) (what : String) :
    Parallel engine s₀ id id' (note type what) (note type what) :=
  .trace (.bind (.repr type) fun _ => .pure _)

theorem parallel_refuse {α : Type} (type : Value) (refusal : Registry.Refusal) :
    Parallel engine s₀ id id' (refuse type refusal : Eval α) (refuse type refusal) := by
  have hlate : ∀ problem, Parallel engine s₀ id id' (failAfterSearch type problem : Eval α)
      (failAfterSearch type problem) := fun problem => .store fun s => .new_fault _ _
  cases refusal <;> rw [refuse] <;> first | exact hlate _ | exact .fault _

theorem parallel_askRegistry (registry : Registry) (type : Value) :
    Parallel engine s₀ id id' (askRegistry registry type) (askRegistry registry type) := by
  refine .store fun s => ?_
  split
  · exact .pure none
  · exact .pure _
  · exact .pure none
  · exact parallel_refuse type _

theorem parallel_ruleNames (rules : List Rule) :
    Parallel engine s₀ id id' (ruleNames rules) (ruleNames rules) := by
  have hname : ∀ rule, Parallel engine s₀ id id' (ruleName rule) (ruleName rule) := by
    intro rule
    cases rule with
    | program f =>
      refine .bind (.repr f) fun text => .store fun s => ?_
      split <;> exact .pure _
    | _ => exact .pure _
  induction rules with
  | nil => exact .pure _
  | cons rule rest ih => exact .bind (hname rule) fun _ => .bind ih fun _ => .pure _

theorem parallel_joinable (k : Nat) (names : List Value) :
    Parallel engine s₀ id id' (TextMethod.joinable k names) (TextMethod.joinable k names) := by
  induction names generalizing k with
  | nil => exact .pure _
  | cons v rest ih =>
    refine .bind ?_ fun _ => .bind (ih (k + 1)) fun _ => .pure _
    cases v with
    | str => exact .pure _
    | _ => exact .store fun _ => .fault _

theorem parallel_ambiguous {α : Type} (type : Value) (rules : List Rule) :
    Parallel engine s₀ id id' (ambiguous type rules : Eval α) (ambiguous type rules) :=
  .bind (parallel_ruleNames rules) fun _ => .bind (parallel_joinable 0 _) fun _ =>
    .bind (.repr type) fun _ => .raiseNew _ _

section Rules

variable (type : Value)

theorem parallel_ask {rule : Rule} (hrule : rule.IsPure engine s₀) :
    Parallel engine s₀ id id' (ask engine id type rule) (ask engine id' type rule) := by
  cases rule with
  | contextMethod => exact .store fun _ => .pure _
  | registered => exact .reading fun w w' hw => hw.set.registry ▸ parallel_askRegistry _ type
  | chained => exact .pure _
  | noted => exact .pure _
  | function name answers => exact Eval.IsPure.parallel hrule type
  | program f => exact Eval.IsPure.parallel hrule type

theorem parallel_claim {rules : List Rule} (hrules : ∀ rule ∈ rules, rule.IsPure engine s₀) :
    Parallel engine s₀ id id' (claim engine id type rules) (claim engine id' type rules) :=
  Parallel.congruence.claim (fun rule hrule => parallel_ask type (hrules rule hrule)) fun _ =>
    parallel_ambiguous type _

theorem parallel_fallback :
    Parallel engine s₀ id id' (fallback engine id type) (fallback engine id' type) := by
  refine .reading fun w w' hw => ?_
  have hpure := hw.pure.fallback
  rw [hw.set.fallback]
  cases hfallback : (w.bindingSet id).fallback <;> rw [hfallback] at hpure
  · exact .bind (.repr type) fun _ => .raiseNew _ _
  · exact Eval.IsPure.parallel hpure type
  · exact Eval.IsPure.parallel hpure type

/-- Resolved afresh, a type comes to the same in worlds that are alike. -/
theorem parallel_compute :
    Parallel engine s₀ id id' (compute engine id type) (compute engine id' type) := by
  refine .reading fun w w' hw => ?_
  rw [hw.set.rules, hw.set.conventions]
  exact Parallel.congruence.foundOr (parallel_claim type hw.pure.rules)
    (Parallel.congruence.foundOr (parallel_claim type hw.pure.conventions)
      (.bind (parallel_note type _) fun _ => parallel_fallback type))

theorem parallel_computeNoted :
    Parallel engine s₀ id id' (computeNoted engine id type) (computeNoted engine id' type) :=
  .bind (parallel_compute type) fun _ => .bind (parallel_note type _) fun _ =>
    .bind (parallel_warnUnhashable type) fun _ => .pure _

end Rules
end Resolution
end FaultContext
