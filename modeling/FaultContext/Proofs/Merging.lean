/-
# FaultContext.Proofs.Merging -- the failure branch in its two parts.

What a guard does with a failure is rendering its context and then merging the two.  That holds of
a raised exception and of a returned failure alike, so it is one computation, which runs while the
raised exception is being handled (`Guard.run_of_failure`).

Rendering ends in one of three ways.  A context is merged; an ordinary exception gives way to the
diagnostic that carries the failure, and nothing is merged; any other exception leaves the guard as
it is.
-/
import FaultContext.Proofs.LayeredCalls
import FaultContext.Proofs.RaisedFailure
import FaultContext.Proofs.Transparency

namespace FaultContext

open Eval

/-! ## Failures -/

/-- The failure that a call has ended in, if it has: an ordinary exception, or the payload of a
failure that was returned. -/
def failureOf? (s : Store) : Except Signal Value → Option Failure
  | .ok v => (Guard.payload? s v).map .returned
  | .error (.raised r) =>
    if s.isInstance (.object r) Standard.exception then some (.raised r) else none
  | .error .exhausted => none

/-- A call that has failed by raising an exception has raised it, and it is an ordinary one. -/
theorem failureOf?_eq_raised {s : Store} {ended : Except Signal Value} {e : Ref}
    (h : failureOf? s ended = some (.raised e)) :
    ended = .error (.raised e) ∧ s.isInstance (.object e) Standard.exception := by
  match ended with
  | .ok v =>
    obtain ⟨payload, -, hpayload⟩ := Option.map_eq_some_iff.mp h
    cases hpayload
  | .error (.raised r) =>
    rw [failureOf?] at h
    split at h
    next hr =>
      cases h
      exact ⟨rfl, hr⟩
    next => cases h

/-- A call that has ended in a failure has ended in that one. -/
theorem Fails.failureOf? {s : Store} {ended : Except Signal Value} {p : Failure}
    (h : Fails s ended p) : FaultContext.failureOf? s ended = some p := by
  cases h with
  | raised hr => exact if_pos hr
  | returned hpayload _ => exact congrArg (Option.map Failure.returned) hpayload

/-- A call that ends in no failure ends in a way that guards let through, unless calls are nested
too deep. -/
theorem passes_of_failureOf? {s : Store} {ended : Except Signal Value}
    (h : failureOf? s ended = none) : Passes s ended ∨ ended = .error .exhausted := by
  match ended with
  | .ok v => exact .inl (.value (Option.map_eq_none_iff.mp h))
  | .error (.raised r) =>
    refine .inl (.raised ?_)
    rw [failureOf?] at h
    split at h
    · cases h
    next hr => exact Bool.not_eq_true _ ▸ hr
  | .error .exhausted => exact .inr rfl

namespace Guard

/-- What a guard makes of a failure and its context: the binding merges the two, and what comes of
it is raised from the exception, or returned as a failure. -/
def merging (engine : Engine) (g : Guard) (p : Failure) (context : Value) : Eval Value := do
  let wrapped ← Resolution.wrap engine g.bindings p.value context
  match p with
  | .raised e =>
    match (← store).exception? wrapped with
    | some r => if r = e then raiseAgain else raiseFrom r e
    | none => unraisable e wrapped
  | .returned _ => err wrapped

variable {g : Guard} {engine : Engine} {args : List Value} {named : Named} {call : Eval Value}
  {handled : Option Ref} {w u u' : World} {ended : Except Signal Value} {p : Failure}

/-! ## The branch as a whole -/

/-- A diagnostic is raised in the same way whatever should have come of the computation. -/
theorem run_unraisable {α : Type} (exc : Ref) (wrapped : Value) (handled : Option Ref) (w : World) :
    ∃ signal w', (unraisable exc wrapped : Eval α).run handled w = (.error signal, w') ∧
      (unraisable exc wrapped : Eval Ref).run handled w = (.error signal, w') := by
  simp only [unraisable]
  rw [run_bind_of_ok run_store, run_bind_of_ok run_store]
  rcases hrepr : (repr wrapped).run handled w with ⟨signal | text, w'⟩
  · exact ⟨signal, w', run_bind_of_error hrepr, run_bind_of_error hrepr⟩
  · rw [run_bind_of_ok hrepr, run_bind_of_ok hrepr]
    exact ⟨_, _, run_raiseNewFrom _ _ _ _, run_raiseNewFrom _ _ _ _⟩

/-- The branch for a raised exception renders and merges. -/
theorem run_failing_eq {e : Ref} (haccepts : g.descriptor.callSignature.accepts args named) :
    (g.failing engine args named e).run handled w =
      (g.render engine (.object e) args named >>= g.merging engine (.raised e)).run handled w := by
  rw [failing, raised_of_accepts haccepts, merged]
  rcases hrender : (g.render engine (.object e) args named).run handled w with
    ⟨signal | context, v⟩
  · rw [run_bind_of_error (run_bind_of_error hrender), run_bind_of_error hrender]
  rw [run_bind_of_ok hrender, merging, Failure.value]
  rcases hwrap : (Resolution.wrap engine g.bindings (.object e) context).run handled v with
    ⟨signal | wrapped, v'⟩
  · rw [run_bind_of_error ((run_bind_of_ok hrender).trans (run_bind_of_error hwrap)),
      run_bind_of_error hwrap]
  rw [run_bind_of_ok hwrap, run_bind_of_ok run_store]
  cases hexception : v'.store.exception? wrapped with
  | some r =>
    refine run_bind_of_ok ?_
    rw [run_bind_of_ok hrender, run_bind_of_ok hwrap, run_bind_of_ok run_store]
    simp only [hexception, run_pure]
  | none =>
    obtain ⟨signal, v'', hraised, hraised'⟩ := run_unraisable (α := Value) e wrapped handled v'
    refine (run_bind_of_error ?_).trans hraised.symm
    rw [run_bind_of_ok hrender, run_bind_of_ok hwrap, run_bind_of_ok run_store]
    simp only [hexception, hraised']

/-- **A guard around a call that fails renders the context and merges it into the failure**, while
the exception that was raised is being handled. -/
theorem run_of_failure (haccepts : g.descriptor.callSignature.accepts args named)
    (hcall : call.run handled w = (ended, u)) (hp : failureOf? u.store ended = some p) :
    (g.run engine args named call).run handled w =
      (g.render engine p.value args named >>= g.merging engine p).run
        (handledAfter handled ended) u := by
  match ended, hp with
  | .ok v, hp =>
    obtain ⟨payload, hpayload, rfl⟩ := Option.map_eq_some_iff.mp hp
    exact (run_of_returned hcall).trans (run_returned_of_payload hpayload)
  | .error (.raised e), hp =>
    rw [failureOf?] at hp
    split at hp
    next he =>
      cases hp
      rcases hfailing : (g.failing engine args named e).run (some e) u with ⟨signal | v, w'⟩
      · rw [run_of_raised hcall he hfailing, ← hfailing]
        exact run_failing_eq haccepts
      · exact absurd hfailing run_failing_ne_ok
    next => cases hp

/-- Calls that are nested too deep are nobody's business. -/
theorem run_of_exhausted (hcall : call.run handled w = (.error .exhausted, u)) :
    (g.run engine args named call).run handled w = (.error .exhausted, u) := by
  refine run_bind_of_error ?_
  simp only [catching, catchingIf, hcall]

/-- A guard lets through what is no failure. -/
theorem run_of_no_failure (hcall : call.run handled w = (ended, u))
    (hp : failureOf? u.store ended = none) :
    (g.run engine args named call).run handled w = (ended, u) := by
  rcases passes_of_failureOf? hp with hpasses | rfl
  · exact run_of_passes g engine args named hcall hpasses
  · exact run_of_exhausted hcall

/-- Neither does it matter that the guard is inside of a coroutine. -/
theorem run_shell_of_no_failure (asynchronous : Bool) (hcall : call.run handled w = (ended, u))
    (hp : failureOf? u.store ended = none) :
    (shell asynchronous call).run handled w = (ended, u) := by
  rcases passes_of_failureOf? hp with hpasses | rfl
  · exact run_shell_of_passes asynchronous hcall hpasses
  · cases asynchronous with
    | false => exact hcall
    | true => simp only [shell, if_true, asCoroutine, enclosed, catching, catchingIf, hcall]

/-! ## Ways in which rendering ends -/

section Rendering

variable (haccepts : g.descriptor.callSignature.accepts args named)
  (hcall : call.run handled w = (ended, u)) (hp : failureOf? u.store ended = some p)
include haccepts hcall hp

/-- A context is merged. -/
theorem run_of_context {context : Value}
    (h : (g.rendering engine args named).run (handledAfter handled ended) u = (.ok context, u')) :
    (g.run engine args named call).run handled w =
      (g.merging engine p context).run (handledAfter handled ended) u' := by
  rw [run_of_failure haccepts hcall hp]
  exact run_bind_of_ok (run_render_eq_ok.mpr h)

/-- An ordinary exception gives way to the diagnostic that carries the failure. -/
theorem run_of_unrendered {x : Ref}
    (h : (g.rendering engine args named).run (handledAfter handled ended) u =
      (.error (.raised x), u'))
    (hx : u'.store.isInstance (.object x) Standard.exception) :
    (g.run engine args named call).run handled w =
      (g.unrendered p.value x : Eval Value).run (some x) u' := by
  rw [run_of_failure haccepts hcall hp]
  have hrender : (g.render engine p.value args named).run (handledAfter handled ended) u = _ :=
    run_render_of_raised h hx
  rcases hended : (g.unrendered p.value x : Eval Value).run (some x) u' with ⟨signal | v, w'⟩
  · exact run_bind_of_error (hrender.trans hended)
  · exact absurd hended (run_unrendered_ne_ok g p.value x)

/-- Any other exception leaves the guard as it is, and so does a call that is nested too deep. -/
theorem run_of_unhandled {signal : Signal}
    (h : (g.rendering engine args named).run (handledAfter handled ended) u =
      (.error signal, u'))
    (hsignal : ∀ x, signal = .raised x →
      u'.store.isInstance (.object x) Standard.exception = false) :
    (g.run engine args named call).run handled w = (.error signal, u') := by
  rw [run_of_failure haccepts hcall hp]
  refine run_bind_of_error ?_
  cases signal with
  | exhausted => simp only [render, catching, catchingIf, h]
  | raised x =>
    simp only [render, catching, catchingIf, h, hsignal x rfl, Bool.false_eq_true, if_false]

end Rendering

end Guard
end FaultContext
