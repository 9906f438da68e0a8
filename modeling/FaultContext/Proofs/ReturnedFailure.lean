/-
# FaultContext.Proofs.ReturnedFailure -- when a returned failure is lost.

A failure that is returned is no exception being handled, so nothing links a diagnostic to it unless
the diagnostic carries it.  The diagnostic about a context that cannot be rendered does.  Those
about a binding that is missing or ambiguous do not: they are new exceptions that lead nowhere but
to an exception being handled around the call, and without one the payload cannot be reached from
them.
-/
import FaultContext.Proofs.FailureBranch
import FaultContext.Proofs.Resolving

namespace FaultContext

open Eval

namespace Resolution

/-- Bindings that stand for none: nothing of the program or of a convention is run for them. -/
def isVoid : Option Binding → Bool
  | none | some .unregistered => true
  | _ => false

theorem plain_apply (engine : Engine) {b : Option Binding} (h : isVoid b) (error context : Value)
    {handled : Option Ref} {calls : World → Eval Value → Prop} (w : World) :
    (apply engine b error context).Plain handled calls w := by
  match b with
  | none =>
    rw [apply]
    exact .fault _ w
  | some .unregistered =>
    rw [apply]
    exact .store_bind (.bind (.repr _ w) fun _ w' _ => .raiseNew _ _ w')

/-- The rules and the fallback that are asked for a type handle no exception and change no link of
an object that there was.  A set without rules and fallback of the program has none of them. -/
def Quiet (engine : Engine) (id : Nat) (type : Value) (handled : Option Ref) (w : World) : Prop :=
  ∀ u m, w.Consults engine id type u m → m.Direct handled u ∧ m.Tidy handled u

theorem quiet_of_isIndependent {engine : Engine} {id : Nat} {type : Value} {handled : Option Ref}
    {w : World} (h : (w.bindingSet id).isIndependent) : Quiet engine id type handled w :=
  fun _ _ hconsults => absurd hconsults.2 (BindingSet.not_consults h)

section Wrapping

variable {engine : Engine} {id : Nat} {error context : Value} {handled : Option Ref} {w w' : World}
  {x : Ref} (hquiet : Quiet engine id (.cls (w.store.classOf error)) handled w)
  (hvoid : ∀ b u, (lookup engine id (.cls (w.store.classOf error))).run handled w = (.ok b, u) →
    isVoid b)
  (h : (wrap engine id error context).run handled w = (.error (.raised x), w'))
include hquiet hvoid h

/-- Merging that raises an exception without having found a binding to run adds links to new objects
only, and the exception is new. -/
theorem newLinks_wrap : w.store.NewLinks w'.store handled ∧ w.store.get? x = none := by
  have htidy := tidy_lookup fun u m hm => (hquiet u m hm).2
  rw [wrap, run_bind_of_ok run_store] at h
  rcases run_bind_eq_error.mp h with hlookup | ⟨b, u, hlookup, happly⟩
  · obtain ⟨hlinks, hnew⟩ := htidy _ _ hlookup
    exact ⟨hlinks, hnew x rfl⟩
  · obtain ⟨hlinks, -⟩ := htidy _ _ hlookup
    obtain ⟨hlinks', hnew⟩ :=
      (plain_apply engine (hvoid b u hlookup) error context u).tidy_of_noCalls _ _ happly
    exact ⟨hlinks.trans hlinks', hlinks.kept.get?_eq_none (hnew x rfl)⟩

/-- What there was before is reached from such an exception exactly if it is reached from the
exception being handled. -/
theorem reaches_of_run_wrap_iff {links : List Link} (hcontext : .context ∈ links) {target : Value}
    (ht : w.store.Exists target) :
    w'.store.Reaches links target (.object x) ↔
      ∃ q, handled = some q ∧ w.store.Reaches links target (.object q) := by
  obtain ⟨hlinks, hnew⟩ := newLinks_wrap hquiet hvoid h
  refine hlinks.reaches_new_iff ht hnew ?_
  rintro q rfl
  have hdirect : (wrap engine id error context).Direct (some q) w :=
    direct_wrap (direct_lookup fun u m hm => (hquiet u m hm).1) fun b u hlookup =>
      (plain_apply engine (hvoid b u hlookup) _ _ u).direct_of_noCalls
  exact ((wrap engine id error context).under hdirect h).reaches hcontext

end Wrapping

end Resolution

namespace Guard

/-- The links along which a returned failure is looked for. -/
def returnedLinks : List Link := [.failure, .source, .cause, .context]

variable {g : Guard} {engine : Engine} {args : List Value} {named : Named} {handled : Option Ref}
  {w u w' : World} {result p : Value}

/-- The diagnostic about a context that cannot be rendered carries the failure. -/
theorem run_returned_of_unrendered {r : Ref} {name text : String}
    (hresult : payload? w.store result = some p)
    (hrendering : (g.rendering engine args named).run handled w = (.error (.raised r), u))
    (hr : u.store.isInstance (.object r) Standard.exception)
    (hname : g.descriptor.name.run (some r) u = (.ok name, u))
    (htext : (str (.object r)).run (some r) u = (.ok text, u)) :
    ∃ x w', (g.returned engine result args named).run handled w = (.error (.raised x), w') ∧
      w'.store.follow? x .failure = some p := by
  have hrender : (g.render engine p args named).run handled w =
      (raiseNewFrom .renderError ("Couldn't render the context for a failure of " ++ name ++ ": " ++
        text) [("failure", p)] r).run (some r) u :=
    (run_render_of_raised hrendering hr).trans ((run_bind_of_ok hname).trans (run_bind_of_ok htext))
  rw [run_raiseNewFrom] at hrender
  refine ⟨_, _, (run_returned_of_payload hresult).trans (run_bind_of_error hrender), ?_⟩
  rw [Store.follow?_raising _ _ _ _ (by decide), Store.follow?_setCause _ _ _ _ (by decide)]
  exact Store.follow?_insert_self _ _ _

end Guard

/-- **When a returned failure is reached from a diagnostic.**  The function under a guard returns a
failure with the payload `p`.

If its context cannot be rendered, because an ordinary exception is raised whose text and the name
of the function can be told, the guarded call raises an exception from which `p` can be reached.

If its context is rendered but no binding is found to run, so that merging raises an exception, then
the guarded call raises an exception from which `p` can be reached exactly if it could be reached
before from an exception being handled around the call.  In particular it cannot where none is being
handled.  Rules and a fallback of the program must not make links of their own for that. -/
theorem reaches_returned_failure_iff {w : World} {v : Value} {g : Guard} (hv : w.store.Guards v g)
    {depth : Nat} {args : List Value} {named : Named} {handled : Option Ref} {result p : Value}
    {u : World}
    (hcall : ((Engine.within depth).complete g.descriptor.asynchronous g.descriptor.target
      args named).run handled w = (.ok result, u))
    (hresult : Guard.payload? u.store result = some p) (hp : u.store.Exists p) :
    (∀ r u' name text,
      (g.rendering (Engine.within depth) args named).run handled u = (.error (.raised r), u') →
      u'.store.isInstance (.object r) Standard.exception →
      g.descriptor.name.run (some r) u' = (.ok name, u') →
      (str (.object r)).run (some r) u' = (.ok text, u') →
      ∃ x w', ((Engine.within (depth + 1)).complete g.descriptor.asynchronous v
          args named).run handled w = (.error (.raised x), w') ∧
        w'.store.Reaches Guard.returnedLinks p (.object x)) ∧
    ∀ context u' x u'',
      (g.rendering (Engine.within depth) args named).run handled u = (.ok context, u') →
      Resolution.Quiet (Engine.within depth) g.bindings (.cls (u'.store.classOf p)) handled u' →
      (∀ b u₁, (Resolution.lookup (Engine.within depth) g.bindings
        (.cls (u'.store.classOf p))).run handled u' = (.ok b, u₁) → Resolution.isVoid b) →
      (Resolution.wrap (Engine.within depth) g.bindings p context).run handled u' =
        (.error (.raised x), u'') →
      ∃ x' w', ((Engine.within (depth + 1)).complete g.descriptor.asynchronous v
          args named).run handled w = (.error (.raised x'), w') ∧
        (w'.store.Reaches Guard.returnedLinks p (.object x') ↔
          ∃ q, handled = some q ∧ u'.store.Reaches Guard.returnedLinks p (.object q)) := by
  -- A coroutine makes no difference to what can be reached, so both halves are about the branch.
  have hguard : ∀ {x : Ref} {u₁ : World},
      (g.returned (Engine.within depth) result args named).run handled u =
        (.error (.raised x), u₁) →
      ∃ x' w', ((Engine.within (depth + 1)).complete g.descriptor.asynchronous v
          args named).run handled w = (.error (.raised x'), w') ∧
        (w'.store.Reaches Guard.returnedLinks p (.object x') ↔
          u₁.store.Reaches Guard.returnedLinks p (.object x)) := by
    intro x u₁ hreturned
    obtain ⟨x', w', hshell, hiff⟩ := Guard.run_shell_of_raised g.descriptor.asynchronous
      Guard.returnedLinks (by decide) ((Guard.run_of_returned hcall).trans hreturned)
    refine ⟨x', w', (complete_guard hv depth args named handled).trans hshell, hiff p ?_⟩
    exact (keeps_of_run hreturned).store.objects.exists hp
  constructor
  · intro r u' name text hrendering hr hname htext
    obtain ⟨x, u₁, hreturned, hfailure⟩ :=
      Guard.run_returned_of_unrendered hresult hrendering hr hname htext
    obtain ⟨x', w', hrun, hiff⟩ := hguard hreturned
    exact ⟨x', w', hrun, hiff.mpr (.step (by decide) hfailure .here)⟩
  · intro context u' x u'' hrendering hquiet hvoid hwrap
    have hreturned : (g.returned (Engine.within depth) result args named).run handled u =
        (.error (.raised x), u'') :=
      (Guard.run_returned_of_payload hresult).trans
        ((run_bind_of_ok (Guard.run_render_eq_ok.mpr hrendering)).trans (run_bind_of_error hwrap))
    obtain ⟨x', w', hrun, hiff⟩ := hguard hreturned
    refine ⟨x', w', hrun, hiff.trans ?_⟩
    exact Resolution.reaches_of_run_wrap_iff hquiet hvoid hwrap (by decide)
      ((keeps_of_run hrendering).store.objects.exists hp)

/-- A function returns a failure with an exception.  Nothing is bound, the diagnostic says so, and
the exception cannot be reached from it. -/
theorem unbound_payload_lost :
    let w := World.unbound #[⟨Standard.valueError, [], .exception [] none none⟩,
      .function (.inject (.cls Standard.err) [.object ⟨0⟩] [] false),
      .guard ⟨1⟩ (.value (.str .fresh "context"))]
    ∃ x w', ((Engine.within 3).complete false (.object ⟨2⟩) [] []).run none w =
        (.error (.raised x), w') ∧
      w'.store.classOf (.object x) = Standard.missingBinding ∧
      ¬w'.store.Reaches Guard.returnedLinks (.object ⟨0⟩) (.object x) := by
  intro w
  have hv : w.store.Guards (.object ⟨2⟩)
      ⟨⟨.object ⟨1⟩, [], [], false, none, .none⟩, .value (.str .fresh "context"), defaultSet⟩ :=
    ⟨_, rfl, rfl, rfl⟩
  obtain ⟨u, x, u', hcall, hresult, hp, hset, hlookup, hwrap⟩ : ∃ u x u',
      ((Engine.within 2).complete false (.object ⟨1⟩) [] []).run none w = (.ok (.object ⟨3⟩), u) ∧
      Guard.payload? u.store (.object ⟨3⟩) = some (.object ⟨0⟩) ∧ (u.store.get? ⟨0⟩).isSome ∧
      (u.bindingSet defaultSet).isIndependent ∧
      (Resolution.lookup (Engine.within 2) defaultSet
        (.cls (u.store.classOf (.object ⟨0⟩)))).run none u =
        (.error (.raised x), u') ∧
      (Resolution.wrap (Engine.within 2) defaultSet (.object ⟨0⟩) (.str .fresh "context")).run none
        u = (.error (.raised x), u') := ⟨_, _, _, rfl, rfl, rfl, rfl, rfl, rfl⟩
  obtain ⟨x', w', hrun, hclass⟩ : ∃ x' w', ((Engine.within 3).complete false (.object ⟨2⟩)
      [] []).run none w = (.error (.raised x'), w') ∧
      w'.store.classOf (.object x') = Standard.missingBinding := ⟨_, _, rfl, rfl⟩
  obtain ⟨_, _, hraised, hiff⟩ := (reaches_returned_failure_iff hv hcall hresult
    (by rintro r ⟨⟩; exact hp)).2 _ u x u' rfl (Resolution.quiet_of_isIndependent hset)
    (fun b u₁ hfound => by cases hlookup.symm.trans hfound) hwrap
  cases hrun.symm.trans hraised
  refine ⟨x', w', hrun, hclass, fun hreaches => ?_⟩
  obtain ⟨q, hq, -⟩ := hiff.mp hreaches
  cases hq

end FaultContext
