/-
# FaultContext.Proofs.LayeredDecorations -- what decorations make of a failure.

Decorations with the standard set put their layers around any failure that is left to the
convention.  There is one exception to this.  Looking up the class of a failure asks the registry
for an order of the class even though nothing is registered, and there are classes whose bases allow
for an order of members but not for the order that a registry wants.  For these the innermost guard
raises an exception of its own, and the failure is not among its links.
-/
import FaultContext.Proofs.Merging
import FaultContext.Proofs.Reachable

namespace FaultContext

open Eval

/-! ## Classes without an order -/

/-- A guard around a failure of a class that a registry finds no order for raises the exception that
says so, whichever way the call has failed. -/
theorem Guard.run_of_unordered {g : Guard} {engine : Engine} {args : List Value} {named : Named}
    {context : Value} {call : Eval Value} {handled : Option Ref} {w u u' : World}
    {ended : Except Signal Value} {p : Failure} {convention : Convention}
    (haccepts : g.descriptor.callSignature.accepts args named)
    (hcall : call.run handled w = (ended, u)) (hp : Fails u.store ended p)
    (hw : u.Leaves g.bindings convention)
    (hhashable : u.store.isHashableClass (u.store.classOf p.value) = true)
    (hno : Registry.initial.dispatch u.store (.cls (u.store.classOf p.value)) =
      .error .contradiction)
    (h : (g.rendering engine args named).run (handledAfter handled ended) u = (.ok context, u')) :
    Raises u .runtimeError ((g.run engine args named call).run handled w) := by
  have hkeeps := keeps_of_run h
  have hclass := hkeeps.store.classOf hp.exists
  obtain ⟨x, w', hwrap, hx⟩ := ((hw.keeps hkeeps).raises_wrap engine
    (by rw [hclass, Store.isHashableClass_congr hkeeps.store.classes, hhashable])
    (by rw [hclass, Registry.dispatch_congr hkeeps.store.classes, hno])
    context (handledAfter handled ended)).of_keeps hkeeps
  exact ⟨x, w', (run_of_context haccepts hcall hp.failureOf? h).trans (run_bind_of_error hwrap), hx⟩

/-! ## The innermost guard -/

/-- A guard at the bottom of a stack is one more level of nesting for those above it. -/
theorem add_length_concat {α : Type} (depth : Nat) (upper : List α) (g : α) :
    depth + (upper ++ [g]).length = depth + 1 + upper.length := by
  rw [List.length_append, List.length_singleton]
  omega

/-- Below all other guards there is the one around the function. -/
theorem Stacked.innermost {s : Store} {asynchronous : Bool} {f v : Value} {g : Guard}
    {upper : List Guard} (hv : Stacked s asynchronous f (upper ++ [g]) v) :
    ∃ v₁, s.Guards v₁ g ∧ g.descriptor.asynchronous = asynchronous ∧ g.descriptor.target = f ∧
      Stacked s asynchronous v₁ upper v := by
  induction upper generalizing v with
  | nil =>
    cases hv with
    | layer hguards hasync hrest =>
      obtain ⟨⟩ | _ := hrest
      exact ⟨v, hguards, hasync, rfl, .bare⟩
  | cons g' upper ih =>
    cases hv with
    | layer hguards hasync hrest =>
      obtain ⟨v₁, hv₁, hasync₁, htarget, hupper⟩ := ih hrest
      exact ⟨v₁, hv₁, hasync₁, htarget, .layer hguards hasync hupper⟩

theorem Rendered.length {depth : Nat} {asynchronous : Bool} {args : List Value} {named : Named}
    {handled : Option Ref} {w : World} {guards : List Guard} {contexts : List Value}
    {changes : List (Store × Store)}
    (h : Rendered depth asynchronous args named handled w guards contexts changes) :
    contexts.length = guards.length ∧ changes.length = guards.length := by
  induction h with
  | bare => exact ⟨rfl, rfl⟩
  | layer _ _ _ ih => exact ⟨congrArg (· + 1) ih.1, congrArg (· + 1) ih.2⟩

/-- What is rendered by the other guards is rendered above the innermost one. -/
theorem Rendered.innermost {depth : Nat} {asynchronous : Bool} {args : List Value} {named : Named}
    {handled : Option Ref} {w : World} {g : Guard} {upper : List Guard} {contexts : List Value}
    {changes : List (Store × Store)}
    (h : Rendered depth asynchronous args named handled w (upper ++ [g]) contexts changes) :
    (∃ ended u context u', contexts.getLast? = some context ∧
      ((Engine.within depth).complete asynchronous g.descriptor.target
        args named).run handled w = (ended, u) ∧
      (g.rendering (Engine.within depth) args named).run (handledAfter handled ended) u =
        (.ok context, u')) ∧
    Rendered (depth + 1) asynchronous args named handled w upper contexts.dropLast
      changes.dropLast := by
  induction upper generalizing contexts changes with
  | nil =>
    cases h with
    | layer hrest hcall hrendering =>
      cases hrest
      exact ⟨⟨_, _, _, _, rfl, hcall, hrendering⟩, .bare⟩
  | cons g' upper ih =>
    cases h with
    | @layer _ _ contexts changes _ _ _ _ hrest hcall hrendering =>
      obtain ⟨⟨ended, u, context, u', hlast, hinnermost⟩, hupper⟩ := ih hrest
      rw [List.append_eq, add_length_concat] at hcall hrendering
      obtain ⟨hcontexts, hchanges⟩ := hrest.length
      rw [List.dropLast_cons_of_ne_nil (List.ne_nil_of_length_pos (by simp [hcontexts])),
        List.dropLast_cons_of_ne_nil (List.ne_nil_of_length_pos (by simp [hchanges]))]
      refine ⟨⟨ended, u, context, u', ?_, hinnermost⟩, .layer hupper hcall hrendering⟩
      rw [List.getLast?_cons, hlast, Option.getD_some]

theorem Store.chained_runtimeError (s : Store) : s.Chained Standard.runtimeError :=
  ⟨rfl, rfl, _, rfl⟩

/-- Over a failure of a class without an order, the innermost guard gives way to an exception that
is none of the failure, and the other guards put their layers around that one. -/
theorem Stacked.run_complete_of_unordered {asynchronous : Bool} {f v : Value} {guards : List Guard}
    {depth : Nat} {args : List Value} {named : Named} {handled : Option Ref} {w u : World}
    {ended : Except Signal Value} {p : Failure} {contexts : List Value}
    {changes : List (Store × Store)} (hv : Stacked w.store asynchronous f guards v)
    (hsome : guards ≠ [])
    (hguards : ∀ g ∈ guards, w.Chains g.bindings ∧ g.descriptor.callSignature.accepts args named)
    (hcall : ((Engine.within depth).complete asynchronous f args named).run handled w = (ended, u))
    (hp : Fails u.store ended p)
    (hhashable : u.store.isHashableClass (u.store.classOf p.value) = true)
    (hno : Registry.initial.dispatch u.store (.cls (u.store.classOf p.value)) =
      .error .contradiction)
    (hrendered : Rendered depth asynchronous args named handled w guards contexts changes) :
    ∃ ended' u' p' x s, ((Engine.within (depth + guards.length)).complete asynchronous v
        args named).run handled w = (ended', u') ∧
      Fails u'.store ended' p' ∧ u.store.get? x = none ∧
      s.label? x = some (.standard .runtimeError, []) ∧
      (Failure.raised x).Covered s u'.store contexts.dropLast changes.dropLast p' := by
  obtain ⟨upper, g, rfl⟩ := (List.eq_nil_or_concat' guards).resolve_left hsome
  obtain ⟨v₁, hv₁, rfl, rfl, hupper⟩ := hv.innermost
  obtain ⟨⟨ended₁, u₁, context, u₂, -, hcall₁, hrendering⟩, hrendered⟩ := hrendered.innermost
  cases hcall₁.symm.trans hcall
  obtain ⟨hchains, haccepts⟩ := hguards g (by simp)
  obtain ⟨x, w', hguard, hnew, hlabel, -⟩ := Guard.run_of_unordered haccepts hcall hp
    ((keeps_of_run hcall).chains hchains).leaves hhashable hno hrendering
  -- For the guards above, the exception of the innermost one is a failure like any other.
  have hclass := Store.classOf_of_label? (.refl w'.store) hlabel
  have hfails : Fails w'.store (.error (.raised x)) (.raised x) :=
    .raised (by rw [Store.isInstance, hclass]; rfl)
  have hshell := Guard.run_shell_of_fails g.descriptor.asynchronous hguard hfails
    (by rw [Failure.value, Store.isInstance, hclass]; rfl)
  obtain ⟨ended', u', p', hrun, hp', -, hcovered⟩ := hupper.run_complete_of_fails
    (fun g' hg' => hguards g' (List.mem_append_left _ hg'))
    ((complete_guard hv₁ depth args named handled).trans hshell) hfails
    (by rw [Failure.value, hclass]; exact Store.chained_runtimeError _) hrendered
  refine ⟨ended', u', p', x, w'.store, ?_, hp', hnew, hlabel, hcovered⟩
  rwa [add_length_concat]

/-! ## Decorations -/

/-- **Decorations put one layer of context after the other around a failure.**  Decorations with the
standard set are put around a function.  In any later world that a session reaches with nothing
registered in that set, a call with arguments that fit fails with `p`, whose class can be a key and
does not merge contexts itself, and every guard renders its context.

If a registry finds an order for the class, the decorated call fails in the same way with a new
layer of context, and from it there are as many layers as there are decorations, with the rendered
contexts, down to `p` itself.  This is as far as no rendering changes the layers, and any object
that no rendering changes is as it was, `p` included.

If a registry finds no order, the innermost guard raises another exception, and the layers of the
other guards lead to that one and not to `p`. -/
theorem decorated_call_layers {engine : Engine} {decorations : List Decoration} {v v' : Value}
    {first : Option Ref} {w₀ w₁ : World}
    (hdecorated : (Decoration.applyAll engine decorations v).run first w₀ = (.ok v', w₁))
    (hsome : decorations ≠ []) (hstandard : ∀ d ∈ decorations, d.bindings = defaultSet)
    {w : World} (hlater : w₁.store.Persists w.store) (hreachable : w.Reachable)
    (hnothing : (w.bindingSet defaultSet).core = BindingSet.standard) {depth : Nat}
    {args : List Value} {named : Named} {handled : Option Ref} {ended : Except Signal Value}
    {u : World} {p : Failure} {signature : Signature}
    (hcall : ((Engine.within depth).complete
      (w₀.store.isAsynchronous (Descriptor.targetOf w₀.store v))
      (Descriptor.targetOf w₀.store v) args named).run handled w = (ended, u))
    (hp : Fails u.store ended p)
    (hsignature : w₀.store.signature false (Descriptor.targetOf w₀.store v) = .ok signature)
    (haccepts : signature.accepts args named)
    (hhashable : u.store.isHashableClass (u.store.classOf p.value) = true)
    (hplain : u.store.hasContextMethod (u.store.classOf p.value) = false) :
    ∃ guards, guards.length = decorations.length ∧
      Stacked w.store (w₀.store.isAsynchronous (Descriptor.targetOf w₀.store v))
        (Descriptor.targetOf w₀.store v) guards (Descriptor.targetOf w₁.store v') ∧
      ∀ contexts changes,
        Rendered depth (w₀.store.isAsynchronous (Descriptor.targetOf w₀.store v)) args named
          handled w guards contexts changes →
        ∃ ended' u' p', ((Engine.within (depth + decorations.length)).complete
            (w₀.store.isAsynchronous (Descriptor.targetOf w₀.store v))
            (Descriptor.targetOf w₁.store v') args named).run handled w = (ended', u') ∧
          Fails u'.store ended' p' ∧
          ((∃ found, Registry.initial.dispatch u.store (.cls (u.store.classOf p.value)) =
              .ok found) →
            (∃ r, p' = p.replaced r ∧ u.store.get? r = none) ∧
              p.Covered u.store u'.store contexts changes p') ∧
          ((¬∃ found, Registry.initial.dispatch u.store (.cls (u.store.classOf p.value)) =
              .ok found) →
            ∃ x s, u.store.get? x = none ∧ s.label? x = some (.standard .runtimeError, []) ∧
              (Failure.raised x).Covered s u'.store contexts.dropLast changes.dropLast p') := by
  obtain ⟨guards, hbuilt⟩ := Decoration.run_applyAll hdecorated
  have hstacked := hbuilt.stacked.persists hlater
  have hnonempty : guards ≠ [] := by
    rintro rfl
    exact hsome (List.eq_nil_of_length_eq_zero hbuilt.length.symm)
  have hguards : ∀ g ∈ guards,
      w.Chains g.bindings ∧ g.descriptor.callSignature.accepts args named := by
    intro g hg
    obtain ⟨d, hd, hbindings⟩ := hbuilt.bindings g hg
    refine ⟨by rw [hbindings, hstandard d hd]; exact ⟨hnothing, hreachable.sound.truthful⟩, ?_⟩
    -- Only the innermost guard has parameters that arguments could fail to fit.
    rcases hbuilt.signatures g hg with heq | heq
    · rw [heq, Signature.accepts_everything]
    · cases hsignature.symm.trans heq
      exact haccepts
  refine ⟨guards, hbuilt.length, hstacked, fun contexts changes hrendered => ?_⟩
  rw [← hbuilt.length]
  -- Whether there are layers is decided by the registry alone.
  by_cases hordered : ∃ found, Registry.initial.dispatch u.store
      (.cls (u.store.classOf p.value)) = .ok found
  · obtain ⟨ended', u', p', hrun, hp', -, hcovered⟩ := hstacked.run_complete_of_fails hguards hcall
      hp ⟨hhashable, hplain, hordered⟩ hrendered
    refine ⟨ended', u', p', hrun, hp', fun _ => ⟨?_, hcovered⟩, fun hno => absurd hordered hno⟩
    rcases hcovered.top with ⟨rfl, -⟩ | ⟨r, _, _, _, -, hreplaced, hnew, -⟩
    · exact absurd (List.eq_nil_of_length_eq_zero hrendered.length.1.symm) hnonempty
    · exact ⟨r, hreplaced, hnew⟩
  · obtain ⟨ended', u', p', x, s, hrun, hp', hx⟩ := hstacked.run_complete_of_unordered hnonempty
      hguards hcall hp hhashable (Registry.dispatch_of_unordered hhashable hordered)
      hrendered
    exact ⟨ended', u', p', hrun, hp', fun h => absurd h hordered, fun _ => ⟨x, s, hx⟩⟩

/-- Six classes.  Bases are looked up in two parts by a registry, and for the last class these
contradict one another. -/
def tangled : Except String (Class × Store) := do
  let member := [("wrap_err", .none)]
  let (base, s) ← Store.empty.newClass "B" [Standard.exception] [] false
  let (left, s) ← s.newClass "A1" [base, Standard.wrapErr] member false
  let (right, s) ← s.newClass "A2" [Standard.exception, Standard.wrapErr] member false
  let (upper, s) ← s.newClass "K" [left, right, base] [] false
  let (lower, s) ← s.newClass "Y" [right, base] [] false
  s.newClass "W" [upper, lower] [] false

/-- There are classes for which a registry finds no order. -/
theorem tangled_unordered :
    ∃ c s, tangled = .ok (c, s) ∧ s.Founded ∧ s.isHashableClass c = true ∧
      s.hasContextMethod c = false ∧
      ¬∃ found, Registry.initial.dispatch s (.cls c) = .ok found := by
  have hchecked : tangled.toOption.map (fun made => (decide made.2.Founded,
      made.2.isHashableClass made.1, made.2.hasContextMethod made.1,
      (Registry.initial.dispatch made.2 (.cls made.1)).isOk)) =
        some (true, true, false, false) := by decide +kernel
  cases hmade : tangled with
  | error message =>
    rw [hmade] at hchecked
    cases hchecked
  | ok made =>
    simp only [hmade, Except.toOption, Option.map_some, Option.some.injEq, Prod.mk.injEq]
      at hchecked
    obtain ⟨hfounded, hhashable, hplain, hrefused⟩ := hchecked
    refine ⟨made.1, made.2, rfl, of_decide_eq_true hfounded, hhashable, hplain, ?_⟩
    rintro ⟨found, hfound⟩
    rw [hfound] at hrefused
    cases hrefused

/-- A function returns a failure with an instance of such a class, and the decorated function raises
an exception that has nothing to do with it. -/
theorem tangled_failure_unlayered :
    ∃ c s v' w₁ x u', tangled = .ok (c, s) ∧
      (Decoration.applyAll (Engine.within 0) [.source (.value (.str .fresh "context")) defaultSet]
        (.object ⟨1⟩)).run none { World.initial with
          store := { s with objects := #[⟨c, [], .exception [] none none⟩,
            .function (.inject (.cls Standard.err) [.object ⟨0⟩] [] false)] } } = (.ok v', w₁) ∧
      ((Engine.within 3).complete false (Descriptor.targetOf w₁.store v') [] []).run none w₁ =
        (.error (.raised x), u') ∧
      u'.store.classOf (.object x) = Standard.runtimeError := by
  obtain ⟨c, s, hmade, hfounded, hhashable, hplain, hunordered⟩ := tangled_unordered
  let w₀ : World := { World.initial with
    store := { s with objects := #[⟨c, [], .exception [] none none⟩,
      .function (.inject (.cls Standard.err) [.object ⟨0⟩] [] false)] } }
  obtain ⟨w₁, u, hdecorated, hcall, hresult, hobject, d, hguard⟩ : ∃ w₁ u,
      (Decoration.applyAll (Engine.within 0)
        [.source (.value (.str .fresh "context")) defaultSet] (.object ⟨1⟩)).run none w₀ =
          (.ok (.object ⟨2⟩), w₁) ∧
      ((Engine.within 2).complete (w₀.store.isAsynchronous
        (Descriptor.targetOf w₀.store (.object ⟨1⟩))) (Descriptor.targetOf w₀.store (.object ⟨1⟩))
          [] []).run none w₁ = (.ok (.object ⟨3⟩), u) ∧
      Guard.payload? u.store (.object ⟨3⟩) = some (.object ⟨0⟩) ∧
      (u.store.get? ⟨0⟩).map Object.cls = some c ∧
      ∃ d, (w₁.store.function? (Descriptor.targetOf w₁.store (.object ⟨2⟩))).map Function.code =
        some (.guard ⟨d, .value (.str .fresh "context"), defaultSet⟩) :=
    ⟨_, _, rfl, rfl, rfl, rfl, _, rfl⟩
  -- The store of `tangled` is not computed again: its classes are known by what holds of them.
  have hclasses : u.store.declarations = s.declarations :=
    ((keeps_of_run hdecorated).trans (keeps_of_run hcall)).store.classes
  have hclass : u.store.classOf (.object ⟨0⟩) = c := by
    obtain ⟨o, ho, rfl⟩ := Option.map_eq_some_iff.mp hobject
    exact (Store.Persists.refl u.store).classOf ho
  have hp : Fails u.store (.ok (.object ⟨3⟩)) (.returned (.object ⟨0⟩)) := by
    refine .returned hresult ?_
    rintro r ⟨⟩
    simpa using congrArg Option.isSome hobject
  have hstart : ∀ id, w₀.bindingSet id = BindingSet.standard := by
    intro id
    cases id <;> rfl
  have hreachable : w₁.Reachable :=
    .run (.start (fun id => by rw [hstart]; rfl) hfounded) hdecorated
  obtain ⟨guards, hlength, hstacked, hall⟩ := decorated_call_layers hdecorated (by simp)
    (by simp [Decoration.bindings]) (fun _ _ h => h) hreachable
    (((keeps_of_run hdecorated).core_bindingSet _).trans rfl) hcall hp rfl rfl
    (by rw [Failure.value, hclass, Store.isHashableClass_congr hclasses, hhashable])
    (by rw [Failure.value, hclass, Store.hasContextMethod_congr hclasses, hplain])
  obtain ⟨g, rfl⟩ := List.length_eq_one_iff.mp hlength
  obtain ⟨⟩ | ⟨⟨f, hf, -, hcode⟩, -, hbare⟩ := hstacked
  rw [hf, Option.map_some, hcode] at hguard
  cases hguard
  have htarget : d.target = Descriptor.targetOf w₀.store (.object ⟨1⟩) := hbare.eq_of_nil
  have hbelow : ((Engine.within 2).complete (w₀.store.isAsynchronous (Descriptor.targetOf
      w₀.store (.object ⟨1⟩))) d.target [] []).run none w₁ = (.ok (.object ⟨3⟩), u) := by
    rw [htarget]
    exact hcall
  obtain ⟨ended', u', p', hrun, hp', -, hraises⟩ := hall [.str .fresh "context"] _
    (.layer .bare hbelow rfl)
  obtain ⟨x, s', -, hlabel, hcovered⟩ := hraises (by
    rw [Failure.value, hclass, Registry.dispatch_congr hclasses]
    exact hunordered)
  obtain ⟨-, rfl⟩ | ⟨_, _, _, _, hnil, -⟩ := hcovered.top
  · cases hp'
    exact ⟨c, s, _, w₁, x, u', hmade, hdecorated, hrun,
      Store.classOf_of_label? hcovered.persists hlabel⟩
  · cases hnil

end FaultContext
