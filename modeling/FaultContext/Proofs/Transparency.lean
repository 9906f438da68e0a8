/-
# FaultContext.Proofs.Transparency -- calls that do not fail.

A guard is there for failures.  A call that returns something else, or that raises an exception
which is no ordinary one, ends under any number of guards exactly as it ends without them: with the
same value or the same exception, and in the same world.  So nothing is logged, warned of or
remembered on account of the guards, no link or note of an exception changes, and a coroutine
suspends as often as before.

One guard lets such an end through because neither of its two branches is taken
(`Guard.run_of_passes`).  For an asynchronous function the guard works inside of a coroutine, which
an exception leaves unchanged unless it ends an iteration, and those are ordinary ones.
-/
import FaultContext.Proofs.Stack

namespace FaultContext

open Eval

/-- An end that guards have nothing to do with: a value that is no failure, or an exception that is
no ordinary one. -/
inductive Passes (s : Store) : Except Signal Value → Prop
  | value {v : Value} : Guard.payload? s v = none → Passes s (.ok v)
  | raised {r : Ref} : s.isInstance (.object r) Standard.exception = false →
    Passes s (.error (.raised r))

section Layer

variable {call : Eval Value} {handled : Option Ref} {w w' : World} {ended : Except Signal Value}

/-- A guard lets an end through that is none of its business, whatever it would call otherwise. -/
theorem Guard.run_of_passes (g : Guard) (spy : Engine) (args : List Value) (named : Named)
    (hcall : call.run handled w = (ended, w')) (h : Passes w'.store ended) :
    (g.run spy args named call).run handled w = (ended, w') := by
  cases h with
  | value hv =>
    simp only [Guard.run, run_bind, catching, catchingIf, hcall, Guard.returned, run_store, hv]
    rfl
  | raised hr =>
    simp only [Guard.run, run_bind, catching, catchingIf, hcall, hr]
    rfl

/-- An exception that is no ordinary one does not end an iteration. -/
theorem isInstance_stopIteration_of_exception {s : Store} {v : Value}
    (h : s.isInstance v Standard.exception = false) :
    s.isInstance v Standard.stopIteration = false := by
  rw [← Bool.not_eq_true] at h ⊢
  exact fun hstop => h (Store.isInstance_of_mem_order hstop (by decide))

/-- Neither does it matter that a guard works inside of a coroutine. -/
theorem Guard.run_shell_of_passes (asynchronous : Bool)
    (hcall : call.run handled w = (ended, w')) (h : Passes w'.store ended) :
    (Guard.shell asynchronous call).run handled w = (ended, w') := by
  cases asynchronous with
  | false => exact hcall
  | true =>
    cases h with
    | value => simp only [Guard.shell, if_true, asCoroutine, enclosed, catching, catchingIf, hcall]
    | raised hr =>
      simp only [Guard.shell, if_true, asCoroutine, enclosed, catching, catchingIf, hcall,
        isInstance_stopIteration_of_exception hr]
      rfl

end Layer

/-- A stack of guards lets an end through that is none of their business. -/
theorem Stacked.run_complete_of_passes {asynchronous : Bool} {f v : Value} {guards : List Guard}
    {depth : Nat} {args : List Value} {named : Named} {handled : Option Ref} {w w' : World}
    {ended : Except Signal Value} (hv : Stacked w.store asynchronous f guards v)
    (hcall : ((Engine.within depth).complete asynchronous f args named).run handled w = (ended, w'))
    (h : Passes w'.store ended) :
    ((Engine.within (depth + guards.length)).complete asynchronous v args named).run handled w =
      (ended, w') := by
  induction hv with
  | bare => exact hcall
  | @layer g guards v hguards hasync _ ih =>
    subst hasync
    -- What is below ends this way already, and this guard lets it through.
    refine (complete_guard hguards (depth + guards.length) args named handled).trans ?_
    exact Guard.run_shell_of_passes _ (Guard.run_of_passes g _ args named ih h) h

/-- **Guards are transparent to calls that do not fail.**  Decorations that succeed are put around a
function.  In any later world, a call of the function that ends with a value which is no failure, or
with an exception which is no ordinary one, ends under the guards with the same value or exception
and in the same world, given as many more levels of nesting as there are guards.  Each guard runs
the call below it once and nothing else: with any computation in the place of that call it ends as
the computation does, whatever its context, its set of bindings, and the engine that would run
captures, providers, rules and bindings. -/
theorem decorated_call_eq_of_passes {engine : Engine} {decorations : List Decoration} {v v' : Value}
    {first : Option Ref} {w₀ w₁ : World}
    (hdecorated : (Decoration.applyAll engine decorations v).run first w₀ = (.ok v', w₁))
    {w : World} (hlater : w₁.store.Persists w.store) {depth : Nat} {args : List Value}
    {named : Named} {handled : Option Ref} {ended : Except Signal Value} {w' : World}
    (hcall : ((Engine.within depth).complete
      (w₀.store.isAsynchronous (Descriptor.targetOf w₀.store v))
      (Descriptor.targetOf w₀.store v) args named).run handled w = (ended, w'))
    (hpasses : Passes w'.store ended) :
    ((Engine.within (depth + decorations.length)).complete
      (w₀.store.isAsynchronous (Descriptor.targetOf w₀.store v))
      (Descriptor.targetOf w₁.store v') args named).run handled w = (ended, w') ∧
    ∃ guards, guards.length = decorations.length ∧
      Stacked w.store (w₀.store.isAsynchronous (Descriptor.targetOf w₀.store v))
        (Descriptor.targetOf w₀.store v) guards (Descriptor.targetOf w₁.store v') ∧
      ∀ g ∈ guards, ∀ (spy : Engine) (context : ContextSource) (bindings : Nat)
        (call : Eval Value) (u u' : World) (ended : Except Signal Value),
        call.run handled u = (ended, u') → Passes u'.store ended →
        (({ g with context, bindings } : Guard).run spy args named call).run handled u =
          (ended, u') := by
  obtain ⟨guards, hbuilt⟩ := Decoration.run_applyAll hdecorated
  have hstacked := hbuilt.stacked.persists hlater
  refine ⟨?_, guards, hbuilt.length, hstacked, ?_⟩
  · rw [← hbuilt.length]
    exact hstacked.run_complete_of_passes hcall hpasses
  · intro g _ spy context bindings call u u' ended hrun h
    exact Guard.run_of_passes _ spy args named hrun h

/-- A coroutine that logs an entry and returns a number, under a text and a provider. -/
theorem decorated_coroutine_eq :
    let w₀ := World.holding
      #[.function (.body .asynchronous (.log "called" (.value (.int 5))) 1 none)]
    let f := Descriptor.targetOf w₀.store (.object ⟨0⟩)
    ∃ v' w₁ w', (Decoration.applyAll (Engine.within 0)
        [.source (.value (.str .fresh "five")) defaultSet,
          .source (.provider (.object ⟨0⟩) false) defaultSet] (.object ⟨0⟩)).run none w₀ =
        (.ok v', w₁) ∧
      ((Engine.within 2).complete (w₀.store.isAsynchronous f) f [] []).run none w₁ =
        (.ok (.int (.numbered 0) 5), w') ∧
      ((Engine.within 4).complete (w₀.store.isAsynchronous f)
        (Descriptor.targetOf w₁.store v') [] []).run none w₁ =
        (.ok (.int (.numbered 0) 5), w') := by
  intro w₀ f
  obtain ⟨w₁, w', hdecorated, hcall⟩ : ∃ w₁ w', (Decoration.applyAll (Engine.within 0)
      [.source (.value (.str .fresh "five")) defaultSet,
        .source (.provider (.object ⟨0⟩) false) defaultSet] (.object ⟨0⟩)).run none w₀ =
      (.ok (.object ⟨2⟩), w₁) ∧
      ((Engine.within 2).complete (w₀.store.isAsynchronous f) f [] []).run none w₁ =
        (.ok (.int (.numbered 0) 5), w') := ⟨_, _, rfl, rfl⟩
  exact ⟨_, w₁, w', hdecorated, hcall,
    (decorated_call_eq_of_passes hdecorated (fun _ _ h => h) hcall (.value rfl)).1⟩

end FaultContext
