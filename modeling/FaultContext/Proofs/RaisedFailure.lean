/-
# FaultContext.Proofs.RaisedFailure -- a raised failure is not lost.

Once the function under a guard has raised an ordinary exception, the guarded call cannot return: it
raises something from which that exception can be reached.  The captures, the provider, the rules
and the binding may do what they like, as long as they handle no exception themselves.

Whatever they raise is raised under the exception being handled (`Eval.under`), so all ways out of
the failure branch but one need no argument of their own.  The one is a context that cannot be
rendered: its exception is handled by the guard, and the diagnostic carries the failure.
-/
import FaultContext.Proofs.PlainCalls
import FaultContext.Proofs.Resolving

namespace FaultContext

open Eval

/-! ## Steps that handle nothing -/

namespace Eval

variable {α : Type}

theorem direct_raiseFrom (r cause : Ref) (handled : Option Ref) (w : World) :
    (raiseFrom r cause : Eval α).Direct handled w :=
  ⟨trivial, fun _ _ _ => trivial⟩

theorem direct_raiseNewFrom (c : Standard) (message : String) (attributes : Named) (cause : Ref)
    (handled : Option Ref) (w : World) :
    (raiseNewFrom c message attributes cause : Eval α).Direct handled w :=
  ⟨trivial, fun _ _ _ => direct_raiseFrom _ _ _ _⟩

end Eval

/-- A call of a function handles what its body handles. -/
theorem direct_call_function {w : World} {v : Value} {f : Function}
    (hf : w.store.function? v = some f) {args : List Value} {named slots : Named}
    (hslots : f.params.enter args named = .ok slots) (hform : f.code.form = .direct) {depth : Nat}
    {body : Named → Eval Value} (hbody : (Engine.within depth).HasBody f body)
    {handled : Option Ref} (h : (body (f.locals slots)).Direct handled w) :
    ((Engine.within (depth + 1)).call v args named).Direct handled w := by
  obtain ⟨r, c, attributes, rfl, hr⟩ := Store.exists_of_function? hf
  refine ⟨trivial, fun s w' hstore => ?_⟩
  cases hstore
  simp only [hr, Option.map_some]
  rw [Engine.callFunction, hform]
  show ((Engine.within depth).run f args named).Direct handled w
  rw [hbody, Function.enter, hslots]
  refine ⟨trivial, fun locals w' hentered => ?_⟩
  cases hentered
  exact h

/-- Making a text handles nothing. -/
theorem Eval.direct_repr (v : Value) (handled : Option Ref) (w : World) :
    (Eval.repr v).Direct handled w :=
  Plain.direct_of_noCalls (.repr v w)

namespace Guard

/-- What a guard runs for a raised exception handles no exception itself: neither what the context
is made of does, nor the rules and the fallback that are asked for the binding, nor the binding. -/
structure Direct (g : Guard) (engine : Engine) (args : List Value) (named : Named) (e : Ref)
    (w : World) : Prop where
  rendering : (g.rendering engine args named).Direct (some e) w
  lookup : ∀ context u, (g.rendering engine args named).run (some e) w = (.ok context, u) →
    (Resolution.lookup engine g.bindings (.cls (u.store.classOf (.object e)))).Direct (some e) u
  binding : ∀ context u b u', (g.rendering engine args named).run (some e) w = (.ok context, u) →
    (Resolution.lookup engine g.bindings (.cls (u.store.classOf (.object e)))).run (some e) u =
      (.ok b, u') → (Resolution.apply engine b (.object e) context).Direct (some e) u'

theorem direct_unraisable (exc : Ref) (wrapped : Value) (handled : Option Ref) (w : World) :
    (unraisable exc wrapped : Eval Ref).Direct handled w :=
  ⟨trivial, fun _ _ _ =>
    ⟨direct_repr wrapped _ _, fun _ _ _ => direct_raiseNewFrom _ _ _ _ _ _⟩⟩

/-- The failure branch handles nothing itself if rendering raises no ordinary exception. -/
theorem direct_failing {g : Guard} {engine : Engine} {args : List Value} {named : Named} {e : Ref}
    {w : World}
    (hdirect : g.descriptor.callSignature.accepts args named → g.Direct engine args named e w)
    (hrender : g.descriptor.callSignature.accepts args named →
      ∀ r u, (g.rendering engine args named).run (some e) w = (.error (.raised r), u) →
        u.store.isInstance (.object r) Standard.exception = false) :
    (g.failing engine args named e).Direct (some e) w := by
  refine ⟨?_, fun r u _ => ?_⟩
  · rw [raised]
    split
    next haccepts =>
      -- Rendering, then merging, then a look at what has come out of it.
      refine ⟨⟨(hdirect haccepts).rendering, hrender haccepts⟩, fun context u hcontext => ?_⟩
      have hrendered := run_render_eq_ok.mp hcontext
      refine ⟨Resolution.direct_wrap ((hdirect haccepts).lookup context u hrendered) fun b u' =>
        (hdirect haccepts).binding context u b u' hrendered, fun wrapped u' _ =>
        ⟨trivial, fun s u'' _ => ?_⟩⟩
      dsimp only
      split
      · trivial
      · exact direct_unraisable _ _ _ _
    next => trivial
  · dsimp only
    split
    · trivial
    · exact direct_raiseFrom _ _ _ _

/-! ## Ways out of the failure branch -/

/-- The links along which a raised failure is found again. -/
def raisedLinks : List Link := [.cause, .context, .failure]

theorem run_failing_ne_ok {g : Guard} {engine : Engine} {args : List Value} {named : Named}
    {e : Ref} {w w' : World} {v : Value} :
    (g.failing engine args named e).run (some e) w ≠ (.ok v, w') := by
  intro h
  obtain ⟨r, between, -, hraise⟩ := run_bind_eq_ok.mp h
  split at hraise
  · cases hraise
  · exact run_raiseFrom_ne_ok _ _ hraise

/-- Where rendering raises an ordinary exception, the branch ends with the diagnostic. -/
theorem run_failing_of_unrendered {g : Guard} {engine : Engine} {args : List Value} {named : Named}
    {e r : Ref} {w u w' : World} {signal : Signal}
    (haccepts : g.descriptor.callSignature.accepts args named)
    (h : (g.rendering engine args named).run (some e) w = (.error (.raised r), u))
    (hr : u.store.isInstance (.object r) Standard.exception)
    (hrun : (g.failing engine args named e).run (some e) w = (.error signal, w')) :
    (g.unrendered (.object e) r : Eval Value).run (some r) u = (.error signal, w') := by
  have hrender : (g.render engine (.object e) args named).run (some e) w = _ :=
    run_render_of_raised h hr
  rcases hended : (g.unrendered (.object e) r : Eval Value).run (some r) u with
    ⟨signal' | context, w''⟩
  · rw [hended] at hrender
    rw [failing, raised, if_pos haccepts, merged] at hrun
    rw [run_bind_of_error (run_bind_of_error hrender)] at hrun
    exact hrun
  · exact absurd hended (run_unrendered_ne_ok g _ r)

/-- The failure branch raises something that leads to the failure. -/
theorem reaches_of_run_failing {g : Guard} {engine : Engine} {args : List Value} {named : Named}
    {e x : Ref} {w w' : World} (he : w.store.isInstance (.object e) Standard.exception)
    (hdirect : g.descriptor.callSignature.accepts args named → g.Direct engine args named e w)
    (h : (g.failing engine args named e).run (some e) w = (.error (.raised x), w')) :
    w'.store.Reaches raisedLinks (.object e) (.object x) := by
  by_cases hraises : g.descriptor.callSignature.accepts args named ∧
      ∃ r u, (g.rendering engine args named).run (some e) w = (.error (.raised r), u) ∧
        u.store.isInstance (.object r) Standard.exception = true
  · -- Rendering has raised an ordinary exception, and the guard has handled it.
    obtain ⟨haccepts, r, u, hrendering, hr⟩ := hraises
    have hunder := (g.rendering engine args named).under (hdirect haccepts).rendering hrendering
    have hexists := (keeps_of_run hrendering).store.objects.exists (Store.exists_of_isInstance he)
    exact reaches_of_run_unrendered (by decide) (by decide) hexists (hunder.reaches (by decide))
      (run_failing_of_unrendered haccepts hrendering hr h)
  · -- Nothing has been handled in between, so what is raised is raised under `e`.
    refine ((g.failing engine args named e).under (direct_failing hdirect ?_) h).reaches (by decide)
    intro haccepts r u hrendering
    cases hr : u.store.isInstance (.object r) Standard.exception with
    | false => rfl
    | true => exact absurd ⟨haccepts, r, u, hrendering, hr⟩ hraises

/-- A coroutine lets what is raised inside of it be reached from what leaves it. -/
theorem reaches_of_run_shell (asynchronous : Bool) {m : Eval Value} {handled : Option Ref}
    {w u : World} {signal : Signal} {target : Value} (hrun : m.run handled w = (.error signal, u))
    (hexists : u.store.Exists target)
    (hreaches : ∀ x, signal = .raised x → u.store.Reaches raisedLinks target (.object x)) :
    ∃ signal' w', (shell asynchronous m).run handled w = (.error signal', w') ∧
      ∀ x, signal' = .raised x → w'.store.Reaches raisedLinks target (.object x) := by
  cases signal with
  | exhausted =>
    refine ⟨.exhausted, u, ?_, fun x h => by cases h⟩
    cases asynchronous with
    | false => exact hrun
    | true => simp only [shell, if_true, asCoroutine, enclosed, catching, catchingIf, hrun]
  | raised y =>
    obtain ⟨x, w', hshell, hiff⟩ :=
      run_shell_of_raised asynchronous raisedLinks (by decide) hrun
    refine ⟨.raised x, w', hshell, ?_⟩
    rintro x ⟨⟩
    exact (hiff target hexists).mpr (hreaches y rfl)

end Guard

/-- **A raised failure is never lost.**  The function under a guard raises the ordinary exception
`e`.  If what the guard then runs handles no exception itself, the guarded call does not return:
unless calls were nested too deep, it raises an exception from which `e` can be reached along
causes, contexts, and the failures that diagnostics about rendering carry. -/
theorem reaches_raised_failure {w : World} {v : Value} {g : Guard} (hv : w.store.Guards v g)
    {depth : Nat} {args : List Value} {named : Named} {handled : Option Ref} {e : Ref} {u : World}
    (hcall : ((Engine.within depth).complete g.descriptor.asynchronous g.descriptor.target
      args named).run handled w = (.error (.raised e), u))
    (he : u.store.isInstance (.object e) Standard.exception)
    (hdirect : g.descriptor.callSignature.accepts args named →
      g.Direct (Engine.within depth) args named e u) :
    ∃ signal w', ((Engine.within (depth + 1)).complete g.descriptor.asynchronous v
        args named).run handled w = (.error signal, w') ∧
      ∀ x, signal = .raised x → w'.store.Reaches Guard.raisedLinks (.object e) (.object x) := by
  rcases hfailing : (g.failing (Engine.within depth) args named e).run (some e) u with
    ⟨signal | result, w'⟩
  · rw [complete_guard hv]
    refine Guard.reaches_of_run_shell _ (Guard.run_of_raised hcall he hfailing)
      ((keeps_of_run hfailing).store.objects.exists (Store.exists_of_isInstance he)) ?_
    rintro x rfl
    exact Guard.reaches_of_run_failing he hdirect hfailing
  · exact absurd hfailing Guard.run_failing_ne_ok

/-- A world that holds some objects, in which one function of the program is the only rule. -/
def World.ruled (rule : Ref) (objects : Array Object) : World :=
  { World.holding objects with
    sets := #[⟨[.program (.object rule)], [], .missing, Cache.empty false, Registry.initial⟩] }

/-- The code of a rule that only tries to raise a number. -/
def Code.raisingNumber : Code := .body .direct (.operation .raise [.value (.int 5)]) 0 none

theorem direct_raisingNumber (engine : Engine) (locals : Named) (handled : Option Ref) (w : World) :
    (suspendTimes 0 >>= fun _ => Expr.eval engine locals (.operation .raise [.value (.int 5)])
      : Eval Value).Direct handled w := by
  refine ⟨trivial, fun _ w _ => ⟨⟨trivial, fun _ _ _ => ⟨trivial, fun _ _ _ => trivial⟩⟩,
    fun operands w hoperands => ?_⟩⟩
  cases hoperands
  exact ⟨⟨⟨⟨trivial, fun _ _ _ => trivial⟩, fun found w _ => by cases found <;> trivial⟩,
    fun _ _ _ => trivial⟩, fun _ _ _ => trivial⟩

/-- A function raises an exception, the rule that is asked about its class raises another one, and
that one leads to the first. -/
theorem failure_behind_rule_reached :
    let w := World.ruled ⟨2⟩ #[.function (.body .direct
        (.operation .raise [.construct (.name "ValueError") []]) 0 none),
      .guard ⟨0⟩ (.value (.str .fresh "context")),
      .taking [⟨"typ", .standard, none⟩, ⟨"ctx", .standard, none⟩] .raisingNumber]
    ∃ e x w', ((Engine.within 3).complete false (.object ⟨1⟩) [] []).run none w =
        (.error (.raised x), w') ∧
      w'.store.classOf (.object e) = Standard.valueError ∧
      w'.store.classOf (.object x) = Standard.typeError ∧
      w'.store.Reaches Guard.raisedLinks (.object e) (.object x) := by
  intro w
  have hv : w.store.Guards (.object ⟨1⟩)
      ⟨⟨.object ⟨0⟩, [], [], false, none, .none⟩, .value (.str .fresh "context"), defaultSet⟩ :=
    ⟨_, rfl, rfl, rfl⟩
  obtain ⟨u, x, u', rule, hcall, he, hclassE, hset, hrule, hcode, hparams, hlookup⟩ :
      ∃ u x u' rule, ((Engine.within 2).complete false (.object ⟨0⟩) [] []).run none w =
        (.error (.raised ⟨3⟩), u) ∧
      u.store.isInstance (.object ⟨3⟩) Standard.exception ∧
      u.store.classOf (.object ⟨3⟩) = Standard.valueError ∧
      u.bindingSet defaultSet =
        ⟨[.program (.object ⟨2⟩)], [], .missing, Cache.empty false, Registry.initial⟩ ∧
      u.store.function? (.object ⟨2⟩) = some rule ∧ rule.code = .raisingNumber ∧
      rule.params = [⟨"typ", .standard, none⟩, ⟨"ctx", .standard, none⟩] ∧
      (Resolution.lookup (Engine.within 2) defaultSet (.cls Standard.valueError)).run (some ⟨3⟩) u =
        (.error (.raised x), u') := ⟨_, _, _, _, rfl, rfl, rfl, rfl, rfl, rfl, rfl, rfl⟩
  have hlookupDirect : (Resolution.lookup (Engine.within 2) defaultSet
      (.cls Standard.valueError)).Direct (some ⟨3⟩) u := by
    refine Resolution.direct_lookup fun u₁ m hconsults => ?_
    obtain ⟨hkept, hm⟩ := hconsults
    rw [hset] at hm
    rcases hm with hm | hm
    · -- The one rule is still the function that it was, and gets the type and the set.
      obtain rfl : _ = Value.object ⟨2⟩ := by simpa using hm
      obtain ⟨attributes, hrule⟩ := hkept.store.objects.function? hrule
      have hslots : rule.params.enter [] [("typ", .cls Standard.valueError),
          ("ctx", .bindings defaultSet)] =
            .ok [("typ", .cls Standard.valueError), ("ctx", .bindings defaultSet)] := by
        rw [hparams]
        rfl
      have hform : rule.code.form = .direct := by
        rw [hcode]
        rfl
      exact direct_call_function hrule hslots hform ((Engine.within 1).hasBody_of_code hcode)
        (direct_raisingNumber _ _ _ _)
    · cases hm
  obtain ⟨x', w', hrun, hclass, hclass'⟩ : ∃ x' w', ((Engine.within 3).complete false (.object ⟨1⟩)
      [] []).run none w = (.error (.raised x'), w') ∧
      w'.store.classOf (.object ⟨3⟩) = Standard.valueError ∧
      w'.store.classOf (.object x') = Standard.typeError := ⟨_, _, rfl, rfl, rfl⟩
  obtain ⟨_, _, hraised, hreaches⟩ := reaches_raised_failure hv hcall he fun _ => by
    refine ⟨trivial, fun context u₁ hrendering => ?_, fun context u₁ b u₂ hrendering hfound => ?_⟩
    · cases hrendering
      rw [hclassE]
      exact hlookupDirect
    · cases hrendering
      rw [hclassE] at hfound
      cases hlookup.symm.trans hfound
  cases hrun.symm.trans hraised
  exact ⟨⟨3⟩, x', w', hrun, hclass, hclass', hreaches x' rfl⟩

end FaultContext
