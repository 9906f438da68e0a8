/-
# FaultContext.Proofs.FailureBranch -- the steps of a guard that has a failure to deal with.

The two branches of a guard share rendering: a context that could be rendered is what rendering
gave, and an ordinary exception that prevented it is followed by a diagnostic that has the failure
among its attributes.  Either branch ends as soon as one of its steps does.
-/
import FaultContext.Guard.Failure
import FaultContext.Proofs.Isolation
import FaultContext.Proofs.Stack

namespace FaultContext

open Eval

/-! ## Exceptions that end an iteration -/

/-- No exception that ends an iteration leaves a computation. -/
def Eval.EndsNoIteration {α : Type} (m : Eval α) (handled : Option Ref) (w : World) : Prop :=
  ∀ r w', m.run handled w = (.error (.raised r), w') →
    w'.store.isInstance (.object r) Standard.stopIteration = false

section Coroutine

variable {α : Type} {m : Eval α} {handled : Option Ref} {w w' : World}

theorem Eval.endsNoIteration_of_ok {a : α} (h : m.run handled w = (.ok a, w')) :
    m.EndsNoIteration handled w := by
  intro r u hraised
  rw [h] at hraised
  cases hraised

/-- Then it makes no difference whether the computation runs inside of a coroutine. -/
theorem Eval.EndsNoIteration.run_asCoroutine (h : m.EndsNoIteration handled w) :
    (asCoroutine m).run handled w = m.run handled w := by
  dsimp only [asCoroutine, enclosed, catching, catchingIf]
  rcases hrun : m.run handled w with ⟨(r | _) | a, w'⟩
  · simp only [h r w' hrun, Bool.false_eq_true, if_false]
  · rfl
  · rfl

/-- A new exception is an instance of its class when it is raised. -/
theorem classOf_of_run_raiseNewFrom {c : Standard} {message : String} {attributes : Named}
    {cause r : Ref}
    (h : (raiseNewFrom c message attributes cause : Eval α).run handled w =
      (.error (.raised r), w')) :
    w'.store.classOf (.object r) = c := by
  rw [run_raiseNewFrom] at h
  cases h
  have hkept := (Store.keeps_setCause (w.store.newException c [.str .fresh message] attributes).2
    (w.store.newException c [.str .fresh message] attributes).1 (some cause)).trans
    (Store.keeps_raising _ (w.store.newException c [.str .fresh message] attributes).1 handled)
  exact hkept.objects.classOf (w.store.get?_insert _)

/-- What leaves a coroutine does not end an iteration. -/
theorem Eval.endsNoIteration_asCoroutine (m : Eval α) (handled : Option Ref) (w : World) :
    (asCoroutine m).EndsNoIteration handled w := by
  intro r w' hrun
  simp only [asCoroutine, enclosed, catching, catchingIf] at hrun
  split at hrun
  next q between hm =>
    split at hrun
    next =>
      rw [Store.isInstance, classOf_of_run_raiseNewFrom hrun]
      rfl
    next hstop =>
      cases hrun
      simpa using hstop
  next hm => exact absurd hrun (hm r w')

end Coroutine

/-- A coroutine that no exception of an iteration gets to is as good as none. -/
theorem Guard.run_shell_of_endsNoIteration {asynchronous : Bool} {m : Eval Value}
    {handled : Option Ref} {w : World}
    (h : asynchronous = true → m.EndsNoIteration handled w) :
    (shell asynchronous m).run handled w = m.run handled w := by
  cases asynchronous with
  | false => rfl
  | true => exact (h rfl).run_asCoroutine

theorem Descriptor.looks_name (d : Descriptor) : d.name.Looks := by
  refine looks_store_bind fun s => ?_
  split
  · exact looks_repr _
  · exact looks_repr _
  · exact looks_pure _

namespace Guard

variable {g : Guard} {engine : Engine} {args : List Value} {named : Named} {handled : Option Ref}
  {w w' : World}

/-! ## Rendering -/

/-- The diagnostic for a context that could not be rendered: the exception of a fault that came in
between, or the exception that carries the failure. -/
theorem run_unrendered {α : Type} (g : Guard) (failure : Value) (exc : Ref) (handled : Option Ref)
    (w : World) :
    (∃ f, (g.unrendered failure exc : Eval α).run handled w = (fault f).run handled w) ∨
      ∃ message, (g.unrendered failure exc : Eval α).run handled w =
        (raiseNewFrom .renderError message [("failure", failure)] exc).run handled w := by
  rcases g.descriptor.looks_name handled w with ⟨name, hname⟩ | ⟨f, hf⟩
  · rcases looks_str (.object exc) handled w with ⟨text, htext⟩ | ⟨f, hf⟩
    · exact .inr ⟨_, (run_bind_of_ok hname).trans (run_bind_of_ok htext)⟩
    · exact .inl ⟨f, (run_bind_of_ok hname).trans (run_bind_of_error hf)⟩
  · exact .inl ⟨f, run_bind_of_error hf⟩

theorem run_unrendered_ne_ok {α : Type} (g : Guard) (failure : Value) (exc : Ref) {a : α} :
    (g.unrendered failure exc).run handled w ≠ (.ok a, w') := by
  rcases run_unrendered (α := α) g failure exc handled w with ⟨f, h⟩ | ⟨message, h⟩ <;> rw [h]
  · exact run_fault_ne_ok f
  · exact run_raiseNewFrom_ne_ok _ _ _ _

/-- A context is what rendering gave. -/
theorem run_render_eq_ok {failure context : Value} :
    (g.render engine failure args named).run handled w = (.ok context, w') ↔
      (g.rendering engine args named).run handled w = (.ok context, w') := by
  rw [render, catching, run_catchingIf_eq_ok]
  constructor
  · rintro (h | ⟨r, between, -, -, h⟩)
    · exact h
    · exact absurd h (run_unrendered_ne_ok g failure r)
  · exact .inl

/-- An ordinary exception that rendering raises is followed by the diagnostic. -/
theorem run_render_of_raised {failure : Value} {r : Ref}
    (h : (g.rendering engine args named).run handled w = (.error (.raised r), w'))
    (hr : w'.store.isInstance (.object r) Standard.exception) :
    (g.render engine failure args named).run handled w =
      (g.unrendered failure r).run (some r) w' := by
  simp only [render, catching, catchingIf, h, hr, if_true]

/-- A diagnostic that is raised while another exception is handled leads to that one; it leads to
the failure as well, unless it is the exception of a fault. -/
theorem reaches_of_run_unrendered {α : Type} {failure : Value} {exc r : Ref} {links : List Link}
    (hcontext : .context ∈ links) (hfailure : .failure ∈ links)
    (hexists : w.store.Exists failure)
    (hexc : w.store.Reaches links failure (.object exc))
    (h : (g.unrendered failure exc : Eval α).run (some exc) w = (.error (.raised r), w')) :
    w'.store.Reaches links failure (.object r) := by
  rcases run_unrendered (α := α) g failure exc (some exc) w with ⟨f, hrun⟩ | ⟨message, hrun⟩
  · rw [hrun] at h
    cases h
    have hkept := (w.store.newLinks_exceptionOf (some exc) f).2.kept
    exact (hexc.mono hexists hkept).trans ((w.store.under_exceptionOf exc f).reaches hcontext)
  · rw [hrun, run_raiseNewFrom] at h
    cases h
    refine .step hfailure ?_ .here
    rw [Store.follow?_raising _ _ _ _ (by decide), Store.follow?_setCause _ _ _ _ (by decide)]
    exact Store.follow?_insert_self _ _ _

/-! ## Coroutines -/

/-- A coroutine makes no difference to what can be reached from what is raised inside of it. -/
theorem run_shell_of_raised (asynchronous : Bool) {m : Eval Value} {u : World} {x : Ref}
    (links : List Link) (hcontext : .context ∈ links)
    (hrun : m.run handled w = (.error (.raised x), u)) :
    ∃ x' w', (shell asynchronous m).run handled w = (.error (.raised x'), w') ∧
      ∀ target, u.store.Exists target →
        (w'.store.Reaches links target (.object x') ↔
          u.store.Reaches links target (.object x)) := by
  cases asynchronous with
  | false => exact ⟨x, u, hrun, fun _ _ => .rfl⟩
  | true =>
    cases hstop : u.store.isInstance (.object x) Standard.stopIteration with
    | false =>
      refine ⟨x, u, ?_, fun _ _ => .rfl⟩
      simp only [shell, if_true, asCoroutine, enclosed, catching, catchingIf, hrun, hstop,
        Bool.false_eq_true, if_false]
    | true =>
      -- The end of an iteration becomes the cause and the context of another exception.
      have hended : (shell true m).run handled w = (raiseNewFrom .runtimeError
          ("coroutine" ++ " raised StopIteration") [] x).run (some x) u := by
        simp only [shell, if_true, asCoroutine, enclosed, catching, catchingIf, hrun, hstop]
      rw [run_raiseNewFrom] at hended
      refine ⟨_, _, hended, fun target htarget => ?_⟩
      have hlinks := ((u.store.newLinks_insert (some x) (Store.follow?_exception
        Standard.runtimeError [.str .fresh ("coroutine" ++ " raised StopIteration")])).setCause
          u.store.get?_free (.inr rfl)).raising u.store.get?_free
      refine (hlinks.reaches_new_iff htarget u.store.get?_free ?_).trans ?_
      · rintro q ⟨⟩
        refine Store.Under.reaches (Store.under_recordContext ?_ x) hcontext
        rw [Store.setCause, Store.exception?_setLinks]
        exact u.store.exception?_newException _ _ _
      · simp

/-! ## Branches -/

/-- A guard whose function takes the arguments merges its context into every exception. -/
theorem raised_of_accepts (h : g.descriptor.callSignature.accepts args named = true) (e : Ref) :
    g.raised engine e args named = g.merged engine e args named := by
  rw [raised, if_pos h]

/-- A guard whose function does not take them has nothing to add. -/
theorem raised_of_not_accepts (h : g.descriptor.callSignature.accepts args named = false)
    (e : Ref) : g.raised engine e args named = pure e := by
  rw [raised, h, if_neg Bool.false_ne_true]

/-- A guard around a call that raises an ordinary exception goes through its failure branch. -/
theorem run_of_raised {call : Eval Value} {e : Ref} {u : World} {signal : Signal}
    (hcall : call.run handled w = (.error (.raised e), u))
    (he : u.store.isInstance (.object e) Standard.exception)
    (hfailing : (g.failing engine args named e).run (some e) u = (.error signal, w')) :
    (g.run engine args named call).run handled w = (.error signal, w') := by
  refine run_bind_of_error ?_
  simp only [catching, catchingIf, hcall, he, if_true, hfailing]

/-- A guard around a call that returns looks at what was returned. -/
theorem run_of_returned {call : Eval Value} {result : Value} {u : World}
    (hcall : call.run handled w = (.ok result, u)) :
    (g.run engine args named call).run handled w =
      (g.returned engine result args named).run handled u := by
  refine run_bind_of_ok ?_
  simp only [catching, catchingIf, hcall]

/-- A guard over a returned failure goes on with rendering. -/
theorem run_returned_of_payload {result p : Value} (hresult : payload? w.store result = some p) :
    (g.returned engine result args named).run handled w =
      (do
        let context ← g.render engine p args named
        err (← Resolution.wrap engine g.bindings p context)).run handled w := by
  rw [returned, run_bind_of_ok run_store]
  simp only [hresult]

end Guard
end FaultContext
