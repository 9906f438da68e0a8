/-
# FaultContext.Proofs.Misfit -- calls with arguments that do not fit.

A call with arguments that do not fit never gets into the body, and there is nothing to say about
the exception that refuses it.  The innermost guard sees that the arguments do not fit its function
and lets the exception through untouched.

A guard above sees a guard, which takes whatever it is given.  It cannot tell the refusal from a
failure of the body, so it merges its context into the exception as into any other.
-/
import FaultContext.Proofs.PlainCalls

namespace FaultContext

open Eval

/-! ## One guard -/

namespace Guard

variable {g : Guard} {args : List Value} {named : Named}

/-- A guard whose function does not take the arguments lets every exception through, and runs
nothing but the call. -/
theorem run_of_not_accepts (h : g.descriptor.callSignature.accepts args named = false)
    (spy : Engine) {call : Eval Value} {handled : Option Ref} {w w' : World} {e : Ref}
    (hcall : call.run handled w = (.error (.raised e), w')) :
    (g.run spy args named call).run handled w = (.error (.raised e), w') := by
  refine run_bind_of_error ?_
  -- The exception that goes on is the one being handled.
  have hfailing : (g.failing spy args named e).run (some e) w' = (.error (.raised e), w') := by
    rw [failing, raised_of_not_accepts h, run_bind_of_ok (run_pure e), if_pos rfl]
    rfl
  simp only [catching, catchingIf, hcall, hfailing, ite_self]

end Guard

/-- It does not end an iteration, so it leaves a coroutine as it is. -/
theorem run_shell_of_refused {f : Function} {problem : CallFault} (asynchronous : Bool)
    {call : Eval Value} {handled : Option Ref} {w : World}
    (hcall : call.run handled w = (f.refusal problem).run handled w) :
    (Guard.shell asynchronous call).run handled w = (f.refusal problem).run handled w :=
  (Guard.run_shell_of_endsNoIteration fun _ r w' hraised =>
    f.endsNoIteration_refusal problem handled w r w' (hcall.symm.trans hraised)).trans hcall

/-! ## Stacks -/

/-- One guard over a function that does not take the arguments lets the refusal through. -/
theorem Stacked.run_complete_of_refused {asynchronous : Bool} {function v : Value} {g : Guard}
    {depth : Nat} {args : List Value} {named : Named} {handled : Option Ref} {w : World}
    {f : Function} {problem : CallFault} (hv : Stacked w.store asynchronous function [g] v)
    (hrejects : g.descriptor.callSignature.accepts args named = false)
    (hrefused : ((Engine.within (depth + 1)).complete asynchronous function args named).run
      handled w = (f.refusal problem).run handled w) :
    ((Engine.within (depth + 2)).complete asynchronous v args named).run handled w =
      (f.refusal problem).run handled w := by
  cases hv with
  | layer hguards hasync hrest =>
    subst hasync
    rw [← hrest.eq_of_nil] at hrefused
    rw [complete_guard hguards]
    exact run_shell_of_refused _ (Guard.run_of_not_accepts hrejects _ hrefused)

/-- Arguments that a call refuses are not accepted by a binding either. -/
theorem Signature.accepts_of_enter_error {s : Signature} (hs : s.WellFormed) {args : List Value}
    {named : Named} (hnamed : (named.map Prod.fst).Nodup) {problem : CallFault}
    (hproblem : s.enter args named = .error problem) : s.accepts args named = false := by
  rw [← Bool.not_eq_true, accepts_iff hs]
  rintro ⟨hfits, -⟩
  exact not_fits_of_enter_error hs.names_nodup hnamed hproblem hfits

/-- Decorations over a plain function have an innermost guard, which knows the parameters of the
function; the guards above it take whatever they are given. -/
theorem Decoration.Built.exists_innermost {s s' : Store} {function v : Value}
    {innermost : Decoration} {outer : List Decoration} {guards : List Guard}
    (h : Decoration.Built s s' function (innermost :: outer) guards v) {f : Function}
    (hf : s.function? function = some f) :
    ∃ upper g, guards = upper ++ [g] ∧ upper.length = outer.length ∧
      g.descriptor.callSignature = f.params ∧
      ∀ g' ∈ upper, g'.descriptor.callSignature = Signature.everything := by
  rcases List.eq_nil_or_concat guards with rfl | ⟨upper, g, rfl⟩
  · exact absurd h.length (by simp)
  · obtain ⟨hinnermost, hupper⟩ := h.callSignatures upper g (List.concat_eq_append ..)
    have hown : s.signature false function = .ok f.params := Store.signature_of_function? hf hf
    rw [hown] at hinnermost
    have hlength : upper.length = outer.length := by simpa using h.length
    exact ⟨upper, g, List.concat_eq_append .., hlength, (Except.ok.inj hinnermost).symm, hupper⟩

/-- **Arguments that do not fit.**  Decorations that succeed are put around a plain function, and in
a later world it is called with arguments that do not fit.  Without the guards the call is refused
with the exception that says so.  Under one guard it ends with the same exception in the same world:
the innermost guard lets every exception of such a call through, whatever its context, its set of
bindings, and the engine that would run captures, providers, rules and bindings.  Every guard above
it takes the refusal for a failure, and merges its context into it. -/
theorem decorated_call_of_misfit {engine : Engine} {innermost : Decoration}
    {outer : List Decoration} {v v' : Value} {first : Option Ref} {w₀ w₁ : World}
    (hdecorated :
      (Decoration.applyAll engine (innermost :: outer) v).run first w₀ = (.ok v', w₁))
    {f : Function} (hf : w₀.store.function? (Descriptor.targetOf w₀.store v) = some f)
    (hplain : f.Plain) {w : World} (hlater : w₁.store.Persists w.store) {args : List Value}
    {named : Named} (hnamed : (named.map Prod.fst).Nodup) {problem : CallFault}
    (hproblem : f.params.enter args named = .error problem) (depth : Nat)
    (handled : Option Ref) :
    let function := Descriptor.targetOf w₀.store v
    let decorated := Descriptor.targetOf w₁.store v'
    let asynchronous := w₀.store.isAsynchronous function
    ((Engine.within (depth + 1)).complete asynchronous function args named).run handled w =
      (f.refusal problem).run handled w ∧
    (outer = [] →
      ((Engine.within (depth + 2)).complete asynchronous decorated args named).run handled w =
        (f.refusal problem).run handled w) ∧
    ∃ upper g, upper.length = outer.length ∧
      Stacked w.store asynchronous function (upper ++ [g]) decorated ∧
      (∀ (spy : Engine) (context : ContextSource) (bindings : Nat) (call : Eval Value)
        (u u' : World) (e : Ref), call.run handled u = (.error (.raised e), u') →
        (({ g with context, bindings } : Guard).run spy args named call).run handled u =
          (.error (.raised e), u')) ∧
      ∀ g' ∈ upper, ∀ (engine : Engine) (e : Ref),
        g'.raised engine e args named = g'.merged engine e args named := by
  intro function decorated asynchronous
  obtain ⟨guards, hbuilt⟩ := Decoration.run_applyAll hdecorated
  have hstacked := hbuilt.stacked.persists hlater
  -- The function is still there, and nothing that a call needs of it has changed.
  obtain ⟨attributes, hlaterf⟩ :=
    ((keeps_of_run hdecorated).store.objects.trans hlater).function? hf
  have hrefused : ((Engine.within (depth + 1)).complete asynchronous function args named).run
      handled w = (f.refusal problem).run handled w :=
    complete_of_refused hlaterf hplain.own hproblem asynchronous depth handled
  obtain ⟨upper, g, rfl, hlength, hsignature, hupper⟩ := hbuilt.exists_innermost hf
  have hrejects : g.descriptor.callSignature.accepts args named = false := by
    rw [hsignature]
    exact Signature.accepts_of_enter_error hplain.params hnamed hproblem
  refine ⟨hrefused, ?_, upper, g, hlength, hstacked, ?_, ?_⟩
  · rintro rfl
    obtain rfl := List.eq_nil_of_length_eq_zero hlength
    exact hstacked.run_complete_of_refused hrejects hrefused
  · intro spy context bindings call u u' e hcall
    have hrejects' : ({ g with context, bindings } : Guard).descriptor.callSignature.accepts
        args named = false := hrejects
    exact Guard.run_of_not_accepts hrejects' spy hcall
  · intro g' hg' engine e
    refine Guard.raised_of_accepts ?_ e
    rw [hupper g' hg']
    exact Signature.accepts_everything args named

/-- A function of one parameter is called with two arguments.  The refusal is the exception for
arguments that do not fit, and the second of two guards adds its context to it. -/
theorem misfit_under_two_guards :
    let w₀ := World.holding
      #[.taking [⟨"a", .standard, none⟩] (.body .direct (.value (.int 5)) 0 none)]
    let args := [.int .fresh 1, .int .fresh 2]
    ∃ v' w₁ x u y u', (Decoration.applyAll (Engine.within 0)
        [.source (.value (.str .fresh "one")) defaultSet,
          .source (.value (.str .fresh "two")) defaultSet] (.object ⟨0⟩)).run none w₀ =
        (.ok v', w₁) ∧
      ((Engine.within 1).complete false (.object ⟨0⟩) args []).run none w₁ =
        (.error (.raised x), u) ∧
      u.store.classOf (.object x) = Standard.typeError ∧
      ((Engine.within 3).complete false (Descriptor.targetOf w₁.store v') args []).run none w₁ =
        (.error (.raised y), u') ∧
      u'.store.classOf (.object y) = Standard.contextError := by
  intro w₀ args
  obtain ⟨w₁, u', hdecorated, hraised, hclass⟩ : ∃ w₁ u', (Decoration.applyAll (Engine.within 0)
        [.source (.value (.str .fresh "one")) defaultSet,
          .source (.value (.str .fresh "two")) defaultSet] (.object ⟨0⟩)).run none w₀ =
        (.ok (.object ⟨2⟩), w₁) ∧
      ((Engine.within 3).complete false (Descriptor.targetOf w₁.store (.object ⟨2⟩)) args []).run
        none w₁ = (.error (.raised ⟨4⟩), u') ∧
      u'.store.classOf (.object ⟨4⟩) = Standard.contextError :=
    ⟨_, _, rfl, rfl, by decide +kernel⟩
  have hparams : Signature.WellFormed [⟨"a", .standard, none⟩] :=
    ⟨rfl, by decide, fun p hp hcollector => by simp_all [Param.isCollector]⟩
  have hrefused := (decorated_call_of_misfit hdecorated rfl ⟨rfl, rfl, hparams⟩ (fun _ _ h => h)
    (show ([] : Named).map Prod.fst |>.Nodup from List.nodup_nil)
    (show Signature.enter [⟨"a", .standard, none⟩] args [] =
      .error (.tooManyPositional 1 1 2 0) from rfl) 0 none).1
  obtain ⟨x, u, hrefusal, htype⟩ := run_refusal _ (.tooManyPositional 1 1 2 0) none w₁
  exact ⟨_, w₁, x, u, _, u', hdecorated, hrefused.trans hrefusal, htype, hraised, hclass⟩

end FaultContext
