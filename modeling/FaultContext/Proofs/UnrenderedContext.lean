/-
# FaultContext.Proofs.UnrenderedContext -- contexts that cannot be rendered.

Whatever keeps a guard from rendering its context, there are two ways out.  An ordinary exception is
reported: the guard raises a new diagnostic, whose cause is that exception and which carries the
failure.  Any other exception leaves the guarded call itself.  Either way nothing is merged, so no
set of bindings is asked or changed, and no object is touched but the diagnostic.

The other way round, a diagnostic that leaves the call either reports such an exception, or it was
not made here: it came from the call below or from the binding (`Guard.Receives`).
-/
import FaultContext.Proofs.Layers
import FaultContext.Proofs.Merging
import FaultContext.Proofs.Noting

namespace FaultContext

open Eval

namespace Store

/-! ## Exceptions raised under one other -/

/-- An exception has just been raised while one other exception was being handled, and nothing has
happened since. -/
def RaisedUnder (s : Store) (handled r : Ref) : Prop :=
  ∃ before : Store, (before.exception? (.object r)).isSome ∧ s = before.raising r (some handled)

theorem RaisedUnder.contextOf {s : Store} {handled r : Ref} (h : s.RaisedUnder handled r)
    (hne : r ≠ handled) : s.contextOf r = some handled := by
  obtain ⟨before, hr, rfl⟩ := h
  rw [raising, recordContext, if_neg hne]
  obtain ⟨c, attributes, args, cause, context, hget⟩ :=
    get?_of_exception? (s := before.cutLinkTo r handled) (by simpa using hr)
  exact contextOf_setLinks_self hget _

/-! ## Reports -/

/-- A new diagnostic carries a failure and has as its cause the exception that kept the context of
the failure from being rendered, and everything else is as it was. -/
structure Reports (s s' : Store) (failure : Value) (x r : Ref) : Prop where
  new : s.get? r = none
  cls : s'.classOf (.object r) = Standard.renderError
  failure : s'.follow? r .failure = some failure
  cause : s'.follow? r .cause = some (.object x)
  untouched : s.Untouched s'

/-- The store in which a diagnostic has been raised while the exception that it reports was being
handled. -/
def reporting (s : Store) (message : String) (failure : Value) (x : Ref) : Ref × Store :=
  let made := s.newException Standard.renderError [.str .fresh message] [("failure", failure)]
  (made.1, (made.2.setCause made.1 (some x)).recordContext made.1 x)

variable (s : Store) (message : String) (failure : Value) (x : Ref)

theorem reports_reporting :
    s.Reports (s.reporting message failure x).2 failure x (s.reporting message failure x).1 := by
  let o : Object := ⟨Standard.renderError, [("failure", failure)],
    .exception [.str .fresh message] none none⟩
  have hplace : (s.insert o).2.get? (s.insert o).1 = some o := s.get?_insert o
  have hfree : s.get? (s.insert o).1 = none := s.get?_free
  have hcause : ((s.insert o).2.setCause (s.insert o).1 (some x)).follow? (s.insert o).1 .cause =
      some (.object x) := by
    simp only [follow?, setCause, setLinks, get?_modify_self, hplace, Option.map_some,
      Option.bind_some]
    rfl
  have hlabel : (s.reporting message failure x).2.label? (s.insert o).1 =
      some (.standard .renderError, [("failure", failure)]) := by
    show (((s.insert o).2.setCause _ _).recordContext _ x).label? _ = _
    rw [label?_recordContext, setCause, label?_setLinks, label?, hplace]
    rfl
  refine ⟨hfree, classOf_of_label? (.refl _) hlabel, ?_, ?_, ?_⟩
  · show (((s.insert o).2.setCause _ _).recordContext _ x).follow? _ .failure = _
    rw [follow?_recordContext_of_ne _ _ _ _ (by decide), follow?_setCause _ _ _ _ (by decide)]
    exact follow?_insert_self _ _ _
  · show (((s.insert o).2.setCause _ _).recordContext _ x).follow? _ .cause = _
    rw [follow?_recordContext_of_ne _ _ _ _ (by decide)]
    exact hcause
  · exact ((((Untouched.refl s).insert o).setLinks hfree _).recordContext hfree x)

/-- A report leaves alone what an exception was raised under. -/
theorem under_reporting {s : Store} {e q : Ref} (h : s.Under e q) (he : (s.get? e).isSome) :
    (s.reporting message failure x).2.Under e q := by
  let made := s.newException Standard.renderError [.str .fresh message] [("failure", failure)]
  have hne : e ≠ made.1 := by
    rintro rfl
    rw [show s.get? made.1 = none from s.get?_free] at he
    cases he
  have hnone : made.2.contextOf made.1 = none := s.contextOf_newException _ _ _
  have hmade : (made.2.setCause made.1 (some x)).Under e q :=
    h.mono fun _ _ hnext => (contextOf_setCause _ _ _ _).trans (contextOf_insert _ hnext)
  exact hmade.recordContext ((contextOf_setCause _ _ _ _).trans hnone) hne x

/-- A report leaves alone the context of an exception. -/
theorem contextOf_reporting {s : Store} {e q : Ref} (h : s.contextOf q = some e)
    (he : (s.get? e).isSome) : (s.reporting message failure x).2.contextOf q = some e := by
  let made := s.newException Standard.renderError [.str .fresh message] [("failure", failure)]
  have hfree : s.get? made.1 = none := s.get?_free
  have hne : ∀ {r : Ref}, (s.get? r).isSome → r ≠ made.1 := by
    rintro r hr rfl
    rw [hfree] at hr
    cases hr
  have hq : (s.get? q).isSome := by
    rw [contextOf] at h
    split at h
    next hq => rw [hq]; rfl
    next => cases h
  have hmade : (made.2.setCause made.1 (some x)).contextOf q = some e := by
    rw [contextOf_setCause]
    exact contextOf_insert _ h
  exact contextOf_recordContext (hne hq) (hne he) hmade

/-- Notes are attributes, and these do not change. -/
theorem Untouched.notes? {s s' : Store} (h : s.Untouched s') {r : Ref} (hr : (s.get? r).isSome) :
    s'.notes? r = s.notes? r := by
  obtain ⟨o, ho⟩ := Option.isSome_iff_exists.mp hr
  rcases h r o ho with hsame | ⟨_, _, _, -, -, hcut⟩
  · rw [Store.notes?, Store.notes?, hsame, ho]
  · rw [Store.notes?, Store.notes?, hcut, ho]
    rfl

end Store

namespace Guard

variable {g : Guard} {engine : Engine} {args : List Value} {named : Named} {handled : Option Ref}
  {w w' : World}

/-- Over a function the diagnostic can always be worded, as long as the exception has a text. -/
theorem run_unrendered_of_function {f : Function} {failure : Value} {x : Ref} {text : String}
    (hf : w.store.function? g.descriptor.target = some f)
    (htext : w.store.str (.object x) = .ok text) :
    ∃ message, (g.unrendered failure x : Eval Value).run (some x) w =
      (.error (.raised (w.store.reporting message failure x).1),
        { w with store := (w.store.reporting message failure x).2 }) := by
  obtain ⟨name, hname⟩ : ∃ name, g.descriptor.name.run (some x) w = (.ok name, w) := by
    rw [Descriptor.name, run_bind_of_ok run_store, Store.qualifiedName?_of_function? hf]
    split
    · exact ⟨_, run_repr_of_ok (Store.repr_of_function? hf)⟩
    · exact ⟨_, run_repr_of_ok (Store.repr_of_function? hf)⟩
    · exact ⟨_, run_pure _⟩
  refine ⟨"Couldn't render the context for a failure of " ++ name ++ ": " ++ text, ?_⟩
  rw [unrendered, run_bind_of_ok hname, run_bind_of_ok (run_str_of_ok htext)]
  exact run_raiseNewFrom _ _ _ _

/-- What leaves a coroutine has been raised inside of it, or it reports that an iteration has ended
there. -/
theorem run_of_run_shell {asynchronous : Bool} {m : Eval Value} {q : Ref}
    (h : (shell asynchronous m).run handled w = (.error (.raised q), w')) :
    m.run handled w = (.error (.raised q), w') ∨
      w'.store.classOf (.object q) = Standard.runtimeError := by
  cases asynchronous with
  | false => exact .inl h
  | true =>
    simp only [shell, if_true, asCoroutine, enclosed, catching, catchingIf] at h
    split at h
    next r u hm =>
      split at h
      · exact .inr (classOf_of_run_raiseNewFrom h)
      · rw [hm]
        exact .inl h
    next => exact .inl h

/-- An exception comes from the binding for a failure: merging has raised it, or has handed it back,
or has handed something back that it is raised for when its text is asked for. -/
inductive Receives (engine : Engine) (g : Guard) (p : Failure) (context : Value)
    (handled : Option Ref) (w : World) (q : Ref) : Prop
  | raised {w' : World} : (Resolution.wrap engine g.bindings p.value context).run handled w =
    (.error (.raised q), w') → Receives engine g p context handled w q
  | returned {w' : World} : (Resolution.wrap engine g.bindings p.value context).run handled w =
    (.ok (.object q), w') → Receives engine g p context handled w q
  | shown {wrapped : Value} {w' w'' : World} :
    (Resolution.wrap engine g.bindings p.value context).run handled w = (.ok wrapped, w') →
    (repr wrapped).run handled w' = (.error (.raised q), w'') →
    Receives engine g p context handled w q

/-- An exception that is raised from another is what leaves, unless it is none. -/
theorem run_raiseFrom_of_exception? {α : Type} {r cause q : Ref} {handled : Option Ref}
    {w w' : World} (hr : (w.store.exception? (.object r)).isSome)
    (h : (raiseFrom r cause : Eval α).run handled w = (.error (.raised q), w')) : q = r := by
  rcases run_bind_eq_error.mp h with hset | ⟨_, between, hset, hraise⟩
  · cases hset
  · cases hset
    rw [run_raise, if_pos (by simpa [Store.setCause] using hr)] at hraise
    cases hraise
    rfl

/-- A complaint about something that cannot be raised is no diagnostic about rendering, so such a
diagnostic comes from what was to be shown. -/
theorem run_repr_of_run_unraisable {α : Type} {exc q : Ref} {wrapped : Value} {handled : Option Ref}
    {w w' : World}
    (h : (unraisable exc wrapped : Eval α).run handled w = (.error (.raised q), w'))
    (hclass : w'.store.classOf (.object q) = Standard.renderError) :
    (repr wrapped).run handled w = (.error (.raised q), w') := by
  rw [unraisable, run_bind_of_ok run_store] at h
  rcases hrepr : (repr wrapped).run handled w with ⟨signal | text, between⟩
  · rw [run_bind_of_error hrepr] at h
    cases h
    rfl
  · rw [run_bind_of_ok hrepr] at h
    rw [classOf_of_run_raiseNewFrom h] at hclass
    cases hclass

/-- Merging makes no diagnostic about rendering. -/
theorem receives_of_run_merging {p : Failure} {context : Value} {q : Ref}
    (h : (g.merging engine p context).run handled w = (.error (.raised q), w'))
    (hhandled : ∀ e, p = .raised e → handled = some e)
    (hclass : w'.store.classOf (.object q) = Standard.renderError) :
    g.Receives engine p context handled w q := by
  rcases hwrap : (Resolution.wrap engine g.bindings p.value context).run handled w with
    ⟨signal | wrapped, between⟩
  · rw [merging, run_bind_of_error hwrap] at h
    cases h
    exact .raised hwrap
  rw [merging, run_bind_of_ok hwrap] at h
  cases p with
  | returned payload =>
    cases h
  | raised e =>
    rw [run_bind_of_ok run_store] at h
    cases hexception : between.store.exception? wrapped with
    | none =>
      simp only [hexception] at h
      exact .shown hwrap (run_repr_of_run_unraisable h hclass)
    | some r =>
      simp only [hexception] at h
      obtain rfl := Store.eq_object_of_exception? hexception
      split at h
      next hsame =>
        -- The exception that is being handled is the one that was raised.
        subst hsame
        rw [hhandled r rfl] at h
        cases h
        exact .returned hwrap
      next =>
        obtain rfl := run_raiseFrom_of_exception? (Option.isSome_of_eq_some hexception) h
        exact .returned hwrap

/-! ## One guard -/

section Layer

variable {call : Eval Value} {u u' : World} {ended : Except Signal Value} {p : Failure} {x : Ref}

/-- A guard over a function reports what has kept its context from being rendered, and does nothing
else. -/
theorem run_reported {f : Function} {text : String}
    (haccepts : g.descriptor.callSignature.accepts args named)
    (hcall : call.run handled w = (ended, u)) (hp : failureOf? u.store ended = some p)
    (hrendering : (g.rendering engine args named).run (handledAfter handled ended) u =
      (.error (.raised x), u'))
    (hx : u'.store.isInstance (.object x) Standard.exception)
    (hf : u'.store.function? g.descriptor.target = some f)
    (htext : u'.store.str (.object x) = .ok text) :
    ∃ message, (g.run engine args named call).run handled w =
      (.error (.raised (u'.store.reporting message p.value x).1),
        { u' with store := (u'.store.reporting message p.value x).2 }) := by
  rw [run_of_unrendered haccepts hcall hp hrendering hx]
  exact run_unrendered_of_function hf htext

/-- A diagnostic about rendering that leaves a guard was raised below, or rendering has raised an
ordinary exception, or the diagnostic comes from the binding. -/
theorem of_run_renderError {q : Ref} (haccepts : g.descriptor.callSignature.accepts args named)
    (hcall : call.run handled w = (ended, u))
    (h : (g.run engine args named call).run handled w = (.error (.raised q), w'))
    (hclass : w'.store.classOf (.object q) = Standard.renderError) :
    ended = .error (.raised q) ∨ ∃ p, failureOf? u.store ended = some p ∧
      ((∃ x u', (g.rendering engine args named).run (handledAfter handled ended) u =
          (.error (.raised x), u') ∧ u'.store.isInstance (.object x) Standard.exception) ∨
        ∃ context u', (g.rendering engine args named).run (handledAfter handled ended) u =
          (.ok context, u') ∧
          g.Receives engine p context (handledAfter handled ended) u' q) := by
  cases hp : failureOf? u.store ended with
  | none =>
    rw [run_of_no_failure hcall hp] at h
    cases h
    exact .inl rfl
  | some p =>
    refine .inr ⟨p, rfl, ?_⟩
    rcases hrendering : (g.rendering engine args named).run (handledAfter handled ended) u with
      ⟨signal | context, u'⟩
    · by_cases hordinary : ∃ x, signal = .raised x ∧
          u'.store.isInstance (.object x) Standard.exception
      · obtain ⟨x, rfl, hx⟩ := hordinary
        exact .inl ⟨x, u', rfl, hx⟩
      · -- What is not handled leaves as it is, and the diagnostic is an ordinary exception.
        have hunhandled := run_of_unhandled haccepts hcall hp hrendering fun x hsignal =>
          Bool.eq_false_iff.mpr fun hx => hordinary ⟨x, hsignal, hx⟩
        rw [hunhandled] at h
        cases h
        refine absurd ⟨q, rfl, ?_⟩ hordinary
        rw [Store.isInstance, hclass]
        rfl
    · rw [run_of_context haccepts hcall hp hrendering] at h
      refine .inr ⟨context, u', rfl, receives_of_run_merging h ?_ hclass⟩
      rintro e rfl
      obtain ⟨rfl, -⟩ := failureOf?_eq_raised hp
      rfl

/-- An exception that does not end an iteration leaves a coroutine as it is. -/
theorem run_shell_of_not_stop (asynchronous : Bool) {m : Eval Value} {q : Ref}
    (h : m.run handled w = (.error (.raised q), w'))
    (hq : w'.store.isInstance (.object q) Standard.stopIteration = false) :
    (shell asynchronous m).run handled w = (.error (.raised q), w') := by
  refine (run_shell_of_endsNoIteration fun _ r u hraised => ?_).trans h
  cases h.symm.trans hraised
  exact hq

end Layer

end Guard

/-! ## Decorated functions -/

/-- **A context that cannot be rendered is reported, and nothing else happens.**  A function under a
guard, asynchronous or not, is called with arguments that fit, and the call below the guard ends in
`ended`.

If that is a failure and rendering the context raises an ordinary exception `x` that has a text,
then the guarded call raises a new diagnostic.  It carries the very failure, its cause is the very
`x`, and the world is as rendering has left it but for this one object.  So no binding is looked up
or applied (it makes no difference which set the guard has), and every object has the notes that it
had.  If the failure is an exception `e` and `x` was raised while just `e` was handled, then the
context of `x` is `e`, unless `x` is `e`; and if rendering handles no exception itself, `x` leads to
`e` along contexts.

If rendering raises any other exception, this one leaves the call.

The other way round, a diagnostic about rendering that leaves the call was raised below the guard,
unless rendering has raised an ordinary exception or the diagnostic comes from the binding, which
the context has been given to. -/
theorem unrendered_context_reported {w : World} {v : Value} {g : Guard} {f : Function}
    (hv : w.store.Guards v g) (hf : w.store.function? g.descriptor.target = some f) {depth : Nat}
    {args : List Value} {named : Named}
    (haccepts : g.descriptor.callSignature.accepts args named) {handled : Option Ref} {u : World}
    {ended : Except Signal Value}
    (hcall : ((Engine.within depth).complete g.descriptor.asynchronous g.descriptor.target
      args named).run handled w = (ended, u)) :
    let call := (Engine.within depth).complete g.descriptor.asynchronous g.descriptor.target
      args named
    let rendering := g.rendering (Engine.within depth) args named
    let decorated := ((Engine.within (depth + 1)).complete g.descriptor.asynchronous v
      args named).run handled w
    (∀ p x u' text, failureOf? u.store ended = some p →
      rendering.run (handledAfter handled ended) u = (.error (.raised x), u') →
      u'.store.isInstance (.object x) Standard.exception → u'.store.str (.object x) = .ok text →
      ∃ r s, decorated = (.error (.raised r), { u' with store := s }) ∧
        u'.store.Reports s p.value x r ∧
        (∀ id, (Guard.shell g.descriptor.asynchronous (({ g with bindings := id } : Guard).run
          (Engine.within depth) args named call)).run handled w = decorated) ∧
        (∀ n, (u'.store.get? n).isSome → s.notes? n = u'.store.notes? n) ∧
        ∀ e, p = .raised e → (u'.store.RaisedUnder e x → x ≠ e → s.contextOf x = some e) ∧
          (rendering.Direct (some e) u → s.Under e x)) ∧
    (∀ p x u', failureOf? u.store ended = some p →
      rendering.run (handledAfter handled ended) u = (.error (.raised x), u') →
      u'.store.isInstance (.object x) Standard.exception = false →
      decorated = (.error (.raised x), u')) ∧
    ∀ q w', decorated = (.error (.raised q), w') →
      w'.store.classOf (.object q) = Standard.renderError →
      ended = .error (.raised q) ∨ ∃ p, failureOf? u.store ended = some p ∧
        ((∃ x u', rendering.run (handledAfter handled ended) u = (.error (.raised x), u') ∧
            u'.store.isInstance (.object x) Standard.exception) ∨
          ∃ context u', rendering.run (handledAfter handled ended) u = (.ok context, u') ∧
            g.Receives (Engine.within depth) p context (handledAfter handled ended) u' q) := by
  intro call rendering decorated
  have hdecorated : decorated = _ := complete_guard hv depth args named handled
  refine ⟨?_, ?_, ?_⟩
  · intro p x u' text hp hrendering hx htext
    obtain ⟨attributes, hf'⟩ := ((keeps_of_run hcall).trans
      (keeps_of_run hrendering)).store.objects.function? hf
    obtain ⟨message, hrun⟩ := Guard.run_reported haccepts hcall hp hrendering hx hf' htext
    have hreports := u'.store.reports_reporting message p.value x
    -- The diagnostic does not end an iteration, so a coroutine lets it through.
    have hshell := Guard.run_shell_of_not_stop g.descriptor.asynchronous hrun
      (by rw [Store.isInstance, hreports.cls]; rfl)
    refine ⟨_, _, hdecorated.trans hshell, hreports, fun id => ?_, fun n hn =>
      hreports.untouched.notes? hn, ?_⟩
    · -- The set of a guard has no part in rendering, nor in what is reported.
      have hsame := (Guard.run_of_unrendered (g := { g with bindings := id }) haccepts hcall hp
        hrendering hx).trans (Guard.run_of_unrendered haccepts hcall hp hrendering hx).symm
      exact (run_shell_congr _ hsame).trans hdecorated.symm
    · rintro e rfl
      obtain ⟨rfl, he⟩ := failureOf?_eq_raised hp
      have hexists : (u'.store.get? e).isSome :=
        (keeps_of_run hrendering).store.objects.exists (Store.exists_of_isInstance he) e rfl
      refine ⟨fun hunder hne => ?_, fun hdirect => ?_⟩
      · exact u'.store.contextOf_reporting message _ x (hunder.contextOf hne) hexists
      · exact u'.store.under_reporting message _ x (rendering.under hdirect hrendering) hexists
  · intro p x u' hp hrendering hx
    refine hdecorated.trans (Guard.run_shell_of_not_stop _ (Guard.run_of_unhandled haccepts hcall hp
      hrendering ?_) (isInstance_stopIteration_of_exception hx))
    rintro _ ⟨⟩
    exact hx
  · intro q w' hq hclass
    rw [hdecorated] at hq
    rcases Guard.run_of_run_shell hq with hrun | hruntime
    · exact Guard.of_run_renderError haccepts hcall hrun hclass
    · rw [hruntime] at hclass
      cases hclass

/-- A function raises an exception, and the provider of its context raises another one meanwhile. -/
theorem raising_provider_reported :
    let w := World.unbound #[.function (.body .direct
        (.operation .raise [.construct (.name "ValueError") []]) 0 none),
      .function (.body .direct (.operation .raise [.construct (.name "KeyError") []]) 0 none),
      .guard ⟨0⟩ (.provider (.object ⟨1⟩) false)]
    ∃ (e x r : Ref) (u' : World) (s : Store),
      ((Engine.within 3).complete false (.object ⟨2⟩) [] []).run none w =
        (.error (.raised r), { u' with store := s }) ∧
      u'.store.Reports s (.object e) x r ∧
      u'.store.classOf (.object e) = Standard.valueError ∧
      u'.store.classOf (.object x) = Standard.keyError ∧
      s.contextOf x = some e := by
  intro w
  let g : Guard := ⟨⟨.object ⟨0⟩, [], [], false, none, .none⟩, .provider (.object ⟨1⟩) false,
    defaultSet⟩
  have hv : w.store.Guards (.object ⟨2⟩) g := ⟨_, rfl, rfl, rfl⟩
  obtain ⟨u, hcall, hp⟩ : ∃ u, ((Engine.within 2).complete false (.object ⟨0⟩) [] []).run none w =
      (.error (.raised ⟨3⟩), u) ∧
      failureOf? u.store (.error (.raised ⟨3⟩)) = some (.raised ⟨3⟩) := ⟨_, rfl, rfl⟩
  obtain ⟨u', text, hrendering, hx, htext, hunder, hclasses⟩ : ∃ u' text,
      (g.rendering (Engine.within 2) [] []).run (some ⟨3⟩) u = (.error (.raised ⟨4⟩), u') ∧
      u'.store.isInstance (.object ⟨4⟩) Standard.exception ∧
      u'.store.str (.object ⟨4⟩) = .ok text ∧ u'.store.RaisedUnder ⟨3⟩ ⟨4⟩ ∧
      u'.store.classOf (.object ⟨3⟩) = Standard.valueError ∧
      u'.store.classOf (.object ⟨4⟩) = Standard.keyError := by
    cases hcall
    exact ⟨_, _, rfl, rfl, rfl, ⟨_, rfl, rfl⟩, rfl, rfl⟩
  obtain ⟨r, s, hdecorated, hreports, -, -, hlinks⟩ :=
    (unrendered_context_reported hv rfl rfl hcall).1 _ _ _ _ hp hrendering hx htext
  -- Said of the computations, so that nothing is run to compare them.
  have hsame : (Engine.within (2 + 1)).complete g.descriptor.asynchronous (.object ⟨2⟩) [] [] =
    (Engine.within 3).complete false (.object ⟨2⟩) [] [] := rfl
  rw [hsame] at hdecorated
  exact ⟨⟨3⟩, ⟨4⟩, r, u', s, hdecorated, hreports, hclasses.1, hclasses.2,
    (hlinks _ rfl).1 hunder (by decide)⟩

end FaultContext
