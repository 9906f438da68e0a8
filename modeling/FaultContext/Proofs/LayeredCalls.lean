/-
# FaultContext.Proofs.LayeredCalls -- one layer of context for each guard.

A guard around a failing call renders its context and puts a layer around what has failed; the call
goes on failing in the same way.  The layer is chained in turn by the guard above, so a stack of
guards puts one layer after the other around the failure.  The arguments make no difference above
the innermost guard, since all others take whatever they are given.

Rendering runs code of the program, which may do anything to any object.  What is proved is
therefore told in terms of the stores before and after each rendering (`Rendered`): between these,
nothing happens but that layers are added (`Failure.Covered`).
-/
import FaultContext.Proofs.Layering

namespace FaultContext

open Eval

/-! ## Failures -/

/-- How a call fails: it raises an exception, or it returns a failure with a payload. -/
inductive Failure where
  | raised (exception : Ref)
  | returned (payload : Value)

namespace Failure

/-- What has failed. -/
def value : Failure → Value
  | .raised r => .object r
  | .returned payload => payload

/-- A failure of the same kind with another exception. -/
def replaced (r : Ref) : Failure → Failure
  | .raised _ => .raised r
  | .returned _ => .returned (.object r)

end Failure

/-- The exception that is being handled once a call has ended. -/
def handledAfter (handled : Option Ref) : Except Signal Value → Option Ref
  | .error (.raised r) => some r
  | _ => handled

/-- A call has ended in a failure. -/
inductive Fails (s : Store) : Except Signal Value → Failure → Prop
  | raised {r : Ref} : s.isInstance (.object r) Standard.exception →
    Fails s (.error (.raised r)) (.raised r)
  | returned {v payload : Value} : Guard.payload? s v = some payload → s.Exists payload →
    Fails s (.ok v) (.returned payload)

theorem Fails.exists {s : Store} {ended : Except Signal Value} {p : Failure}
    (h : Fails s ended p) : s.Exists p.value := by
  cases h with
  | raised hr => exact Store.exists_of_isInstance hr
  | returned _ hpayload => exact hpayload

namespace Guard

/-! ## One guard -/

variable {g : Guard} {engine : Engine} {args : List Value} {named : Named} {context : Value}

/-- What a guard makes of a failure: a layer around it, at a place that was free. -/
structure Layered (s s' : Store) (r : Ref) (context source : Value) : Prop where
  free : s.get? r = none
  label : s'.label? r =
    some (.standard .contextError, [("context", context), ("source", source)])
  exception : s'.exception? (.object r) = some r
  layer : s'.Layer r context source
  untouched : s.Untouched s'

/-- Merging a context into a failure, in the world that rendering has left. -/
theorem run_wrap_of_rendered {handled : Option Ref} {w u : World} {p : Value}
    (hp : w.store.Exists p) (hw : w.Covers g.bindings p)
    (hc : w.store.Chained (w.store.classOf p))
    (h : (g.rendering engine args named).run handled w = (.ok context, u)) :
    ∃ r w', (Resolution.wrap engine g.bindings p context).run handled u = (.ok (.object r), w') ∧
      Layered u.store w'.store r context p := by
  have hkeeps := keeps_of_run h
  have hc' : u.store.Chained (u.store.classOf p) := by
    rw [hkeeps.store.classOf hp]
    exact hc.congr hkeeps.store.classes
  obtain ⟨w', hwrap, hstore⟩ :=
    Resolution.run_wrap_of_covers engine (hw.keeps hkeeps hp) hc' context handled
  refine ⟨_, w', hwrap, u.store.get?_free, ?_, ?_, ?_, ?_⟩ <;> rw [hstore]
  · rw [Store.label?, Store.get?_insert]
    rfl
  · simp only [Store.exception?, Store.get?_insert, Store.newLayer]
  · exact u.store.layer_insert context p (hkeeps.store.objects.exists hp)
  · exact (Store.Untouched.refl u.store).insert _

/-- A raised exception gets a layer, and the layer is raised in its place. -/
theorem run_failing_of_covers {e : Ref} {w u : World}
    (haccepts : g.descriptor.callSignature.accepts args named)
    (he : w.store.Exists (.object e)) (hw : w.Covers g.bindings (.object e))
    (hc : w.store.Chained (w.store.classOf (.object e)))
    (h : (g.rendering engine args named).run (some e) w = (.ok context, u)) :
    ∃ r w', (g.failing engine args named e).run (some e) w = (.error (.raised r), w') ∧
      Layered u.store w'.store r context (.object e) := by
  obtain ⟨r, u', hwrap, hlayered⟩ := run_wrap_of_rendered he hw hc h
  have hexception := hlayered.exception
  have hmerged : (g.raised engine e args named).run (some e) w = (.ok r, u') := by
    rw [raised, if_pos haccepts, merged, run_bind_of_ok (run_render_eq_ok.mpr h),
      run_bind_of_ok hwrap, run_bind_of_ok run_store]
    simp only [hexception, run_pure]
  -- The layer is new, so it is raised from the exception and not in its own right.
  have hne : r ≠ e := by
    rintro rfl
    have hsome := (keeps_of_run h).store.objects.exists he r rfl
    rw [hlayered.free] at hsome
    cases hsome
  refine ⟨r, { u' with store := (u'.store.setCause r (some e)).recordContext r e }, ?_,
    hlayered.free, ?_, ?_, hlayered.layer.raiseFrom, ?_⟩
  · rw [failing, run_bind_of_ok hmerged, if_neg hne, raiseFrom]
    refine (run_raise r).trans (if_pos ?_)
    simp [Store.setCause, hexception]
  · rw [Store.label?_recordContext, Store.setCause, Store.label?_setLinks, hlayered.label]
  · rw [Store.exception?_recordContext, Store.setCause, Store.exception?_setLinks, hexception]
  · exact (hlayered.untouched.setLinks hlayered.free _).recordContext hlayered.free e

/-- The payload of a returned failure gets a layer, and a failure with the layer is returned. -/
theorem run_returned_of_covers {handled : Option Ref} {w u : World} {result payload : Value}
    (hresult : payload? w.store result = some payload) (hpayload : w.store.Exists payload)
    (hw : w.Covers g.bindings payload) (hc : w.store.Chained (w.store.classOf payload))
    (h : (g.rendering engine args named).run handled w = (.ok context, u)) :
    ∃ r v w', (g.returned engine result args named).run handled w = (.ok v, w') ∧
      payload? w'.store v = some (.object r) ∧ Layered u.store w'.store r context payload := by
  obtain ⟨r, u', hwrap, hlayered⟩ := run_wrap_of_rendered hpayload hw hc h
  have hinsert := (Store.Untouched.refl u'.store).insert ⟨Standard.err, [], .err (.object r)⟩
  refine ⟨r, .object (u'.store.insert ⟨Standard.err, [], .err (.object r)⟩).1,
    { u' with store := (u'.store.insert ⟨Standard.err, [], .err (.object r)⟩).2 }, ?_, ?_,
    hlayered.free, hinsert.label? hlayered.label, ?_, hinsert.layer hlayered.layer,
    hlayered.untouched.insert _⟩
  · rw [run_returned_of_payload hresult, run_bind_of_ok (run_render_eq_ok.mpr h),
      run_bind_of_ok hwrap]
    rfl
  · simp only [payload?, Store.get?_insert]
  · exact (hinsert.persists.exception? (Store.exists_of_exception? hlayered.exception)).trans
      hlayered.exception

/-- A guard puts a layer around a failure, and the call goes on failing in the same way. -/
theorem run_of_fails {call : Eval Value} {handled : Option Ref} {w u u' : World}
    {ended : Except Signal Value} {p : Failure}
    (haccepts : g.descriptor.callSignature.accepts args named)
    (hcall : call.run handled w = (ended, u)) (hp : Fails u.store ended p)
    (hw : u.Covers g.bindings p.value) (hc : u.store.Chained (u.store.classOf p.value))
    (h : (g.rendering engine args named).run (handledAfter handled ended) u = (.ok context, u')) :
    ∃ r ended' w', (g.run engine args named call).run handled w = (ended', w') ∧
      Fails w'.store ended' (p.replaced r) ∧ Layered u'.store w'.store r context p.value := by
  cases hp with
  | @raised e he =>
    obtain ⟨r, w', hfailing, hlayered⟩ :=
      run_failing_of_covers haccepts (Store.exists_of_isInstance he) hw hc h
    refine ⟨r, .error (.raised r), w', run_of_raised hcall he hfailing, .raised ?_, hlayered⟩
    rw [hlayered.layer.isInstance]
    rfl
  | @returned result payload hresult hpayload =>
    obtain ⟨r, v, w', hreturned, hv, hlayered⟩ :=
      run_returned_of_covers hresult hpayload hw hc h
    refine ⟨r, .ok v, w', (run_of_returned hcall).trans hreturned, .returned hv ?_, hlayered⟩
    exact Store.exists_of_isInstance (by rw [hlayered.layer.isInstance]; rfl)

/-- A failure that does not end an iteration leaves a coroutine as it is. -/
theorem run_shell_of_fails (asynchronous : Bool) {m : Eval Value} {handled : Option Ref}
    {w w' : World} {ended : Except Signal Value} (hrun : m.run handled w = (ended, w'))
    {p : Failure} (hp : Fails w'.store ended p)
    (hstop : w'.store.isInstance p.value Standard.stopIteration = false) :
    (shell asynchronous m).run handled w = (ended, w') := by
  refine (run_shell_of_endsNoIteration fun _ r u hraised => ?_).trans hrun
  cases hrun.symm.trans hraised
  cases hp
  exact hstop

end Guard

/-! ## Stacks of guards -/

/-- What the guards of a stack render for a call, the outermost first: the contexts, and the stores
before and after each rendering. -/
inductive Rendered (depth : Nat) (asynchronous : Bool) (args : List Value) (named : Named)
    (handled : Option Ref) (w : World) :
    List Guard → List Value → List (Store × Store) → Prop
  | bare : Rendered depth asynchronous args named handled w [] [] []
  | layer {g : Guard} {guards : List Guard} {contexts : List Value} {changes : List (Store × Store)}
    {ended : Except Signal Value} {u u' : World} {context : Value} :
    Rendered depth asynchronous args named handled w guards contexts changes →
    ((Engine.within (depth + guards.length)).complete asynchronous g.descriptor.target
      args named).run handled w = (ended, u) →
    (g.rendering (Engine.within (depth + guards.length)) args named).run
      (handledAfter handled ended) u = (.ok context, u') →
    Rendered depth asynchronous args named handled w (g :: guards) (context :: contexts)
      ((u.store, u'.store) :: changes)

namespace Failure

@[simp] theorem replaced_replaced (p : Failure) (r q : Ref) :
    (p.replaced r).replaced q = p.replaced q := by
  cases p <;> rfl

@[simp] theorem value_replaced (p : Failure) (r : Ref) : (p.replaced r).value = .object r := by
  cases p <;> rfl

/-- What guards make of a failure `p`: a failure of the same kind with a new layer for each guard,
as far as the renderings leave these layers alone.  An object that no rendering changes is as it
was. -/
structure Covered (p : Failure) (s s' : Store) (contexts : List Value)
    (changes : List (Store × Store)) (p' : Failure) : Prop where
  persists : s.Persists s'
  top : contexts = [] ∧ p' = p ∨ ∃ r context rest source, contexts = context :: rest ∧
    p' = p.replaced r ∧ s.get? r = none ∧ s'.Layer r context source
  layers : (∀ change ∈ changes, s.Spares change.1 change.2) →
    s'.Layers s p.value contexts p'.value
  kept : ∀ r o, s.get? r = some o →
    (∀ next, s.contextOf r = some next → s.Exists (.object next)) →
    (∀ change ∈ changes, change.1.get? r = some o → change.2.get? r = some o) →
    s'.get? r = some o

theorem Covered.refl (p : Failure) (s : Store) : p.Covered s s [] [] p :=
  ⟨fun _ _ h => h, .inl ⟨rfl, rfl⟩, fun _ => .none, fun _ _ h _ _ => h⟩

theorem Covered.exists_replaced {p p' : Failure} {s s' : Store} {contexts : List Value}
    {changes : List (Store × Store)} (h : p.Covered s s' contexts changes p') (r : Ref) :
    p'.replaced r = p.replaced r := by
  rcases h.top with ⟨-, rfl⟩ | ⟨q, _, _, _, -, rfl, -, -⟩
  · rfl
  · exact p.replaced_replaced q r

/-- One more guard renders its context and puts a layer around what there is. -/
theorem Covered.layer {p p' : Failure} {s s₁ s₂ s' : Store} {contexts : List Value}
    {changes : List (Store × Store)} (h : p.Covered s s₁ contexts changes p')
    (hrendering : s₁.Persists s₂) {r : Ref} {context : Value}
    (hlayered : Guard.Layered s₂ s' r context p'.value) :
    p.Covered s s' (context :: contexts) ((s₁, s₂) :: changes) (p'.replaced r) := by
  have hpersists := h.persists.trans hrendering
  have hnew := hpersists.get?_eq_none hlayered.free
  refine ⟨hpersists.trans hlayered.untouched.persists, ?_, ?_, ?_⟩
  · exact .inr ⟨r, context, contexts, p'.value, rfl, h.exists_replaced r, hnew, hlayered.layer⟩
  · intro hspares
    obtain ⟨hspare, hspares⟩ := List.forall_mem_cons.mp hspares
    rw [value_replaced]
    exact .layer hnew hlayered.layer
      (.mono (hlayered.untouched.spares s) (.mono hspare (h.layers hspares)))
  · intro q o hq hcontext hchanges
    obtain ⟨hchange, hchanges⟩ := List.forall_mem_cons.mp hchanges
    have hq₂ := hchange (h.kept q o hq hcontext hchanges)
    refine hlayered.untouched.get? hq₂ fun next hnext => ?_
    have hsame : s.contextOf q = s₂.contextOf q := by simp only [Store.contextOf, hq, hq₂]
    exact hpersists.exists (hcontext next (hsame.trans hnext)) next rfl

end Failure

section Stacks

variable {asynchronous : Bool} {f v : Value} {guards : List Guard} {depth : Nat}
  {args : List Value} {named : Named} {handled : Option Ref} {w u : World}
  {ended : Except Signal Value} {p : Failure} {contexts : List Value}
  {changes : List (Store × Store)}

/-- **What every layer keeps holds of a whole stack.**  A stack of guards puts one layer after the
other around a failure.  What holds of the failure, and goes on holding when a guard has rendered its
context and put its layer around what there is, holds of what leaves the stack. -/
theorem Stacked.holds_of_fails (hv : Stacked w.store asynchronous f guards v)
    (Holds : Store → List Value → List (Store × Store) → Failure → Prop)
    (hguards : ∀ g ∈ guards, w.Chains g.bindings ∧ g.descriptor.callSignature.accepts args named)
    (hcall : ((Engine.within depth).complete asynchronous f args named).run handled w = (ended, u))
    (hp : Fails u.store ended p) (hc : u.store.Chained (u.store.classOf p.value))
    (hrendered : Rendered depth asynchronous args named handled w guards contexts changes)
    (hbare : Holds u.store [] [] p)
    (hlayer : ∀ {s₁ s₂ s' : Store} {contexts : List Value} {changes : List (Store × Store)}
      {p' : Failure} {r : Ref} {context : Value}, Holds s₁ contexts changes p' → s₁.Persists s₂ →
      Guard.Layered s₂ s' r context p'.value →
      Holds s' (context :: contexts) ((s₁, s₂) :: changes) (p'.replaced r)) :
    ∃ ended' u' p', ((Engine.within (depth + guards.length)).complete asynchronous v
        args named).run handled w = (ended', u') ∧
      Fails u'.store ended' p' ∧ u'.store.Chained (u'.store.classOf p'.value) ∧
      Holds u'.store contexts changes p' := by
  induction hv generalizing contexts changes with
  | bare =>
    cases hrendered
    exact ⟨ended, u, p, hcall, hp, hc, hbare⟩
  | @layer g guards v hv hasync _ ih =>
    subst hasync
    cases hrendered with
    | @layer _ _ contexts changes ended₁ u₁ u₂ context hrendered hinner hrendering =>
      obtain ⟨⟨hchains, haccepts⟩, hguards⟩ := List.forall_mem_cons.mp hguards
      -- The guards below have put their layers around the failure, and this one adds its own.
      obtain ⟨ended', u', p', hrun, hp', hc', hholds⟩ := ih hguards hrendered
      cases hinner.symm.trans hrun
      obtain ⟨r, ended'', w', hguard, hfails, hlayered⟩ := Guard.run_of_fails haccepts hrun hp'
        (.chained ((keeps_of_run hrun).chains hchains).leaves) hc' hrendering
      have hclass : w'.store.classOf (p'.replaced r).value = Standard.contextError := by
        rw [Failure.value_replaced, hlayered.layer.classOf]
      refine ⟨ended'', w', p'.replaced r, ?_, hfails, ?_, ?_⟩
      · refine (complete_guard hv (depth + guards.length) args named handled).trans ?_
        -- A layer does not end an iteration.
        refine Guard.run_shell_of_fails _ hguard hfails ?_
        rw [Store.isInstance, hclass]
        rfl
      · rw [hclass]
        exact Store.chained_contextError _
      · exact hlayer hholds (keeps_of_run hrendering).store.objects hlayered

/-- A stack of guards puts one layer after the other around a failure. -/
theorem Stacked.run_complete_of_fails (hv : Stacked w.store asynchronous f guards v)
    (hguards : ∀ g ∈ guards, w.Chains g.bindings ∧ g.descriptor.callSignature.accepts args named)
    (hcall : ((Engine.within depth).complete asynchronous f args named).run handled w = (ended, u))
    (hp : Fails u.store ended p) (hc : u.store.Chained (u.store.classOf p.value))
    (hrendered : Rendered depth asynchronous args named handled w guards contexts changes) :
    ∃ ended' u' p', ((Engine.within (depth + guards.length)).complete asynchronous v
        args named).run handled w = (ended', u') ∧
      Fails u'.store ended' p' ∧ u'.store.Chained (u'.store.classOf p'.value) ∧
      p.Covered u.store u'.store contexts changes p' :=
  hv.holds_of_fails (p.Covered u.store) hguards hcall hp hc hrendered (.refl p u.store)
    fun hcovered hrenders hlayered => hcovered.layer hrenders hlayered

end Stacks

end FaultContext
