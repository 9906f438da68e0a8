/-
# FaultContext.Proofs.NotedDecorations -- decorations that add notes to a failure.

Decorations with sets that note leave an exception the one that it is, whether it is raised or
returned, and add one note each.  A failure that is no exception becomes one at the innermost guard:
a layer of context around it, to which the other guards add their notes.

As with layers there is an exception to this.  For a class that a registry finds no order for, the
innermost guard raises an exception of its own; the other guards add their notes to that one, and
the failure gets none.
-/
import FaultContext.Proofs.LayeredDecorations
import FaultContext.Proofs.Noting

namespace FaultContext

open Eval

/-! ## What the innermost guard hands on -/

section Innermost

variable {f v v₁ : Value} {g : Guard} {upper : List Guard} {depth : Nat} {args : List Value}
  {named : Named} {handled : Option Ref} {w w' : World} {ended : Except Signal Value} {q : Failure}
  {r : Ref} {contexts : List Value} {changes : List (Store × Store)} {texts : List String}

/-- The guards above the innermost one add notes to the exception that this one hands on, if it does
not end an iteration. -/
theorem Stacked.failsNoted_above (hv₁ : w.store.Guards v₁ g)
    (hupper : Stacked w.store g.descriptor.asynchronous v₁ upper v)
    (hguards : ∀ g' ∈ upper,
      w.Leaves g'.bindings .noted ∧ g'.descriptor.callSignature.accepts args named)
    (hguard : (g.run (Engine.within depth) args named ((Engine.within depth).complete
      g.descriptor.asynchronous g.descriptor.target args named)).run handled w = (ended, w'))
    (hq : Fails w'.store ended q) (hr : w'.store.exception? q.value = some r)
    (hnotes : (w'.store.notes? r).isSome) (hc : w'.store.Chained (w'.store.classOf q.value))
    (hstop : w'.store.isInstance q.value Standard.stopIteration = false)
    (hrendered : Rendered (depth + 1) g.descriptor.asynchronous args named handled w upper contexts
      changes)
    (hnotable : Notable r contexts changes texts) :
    FailsNoted ((Engine.within (depth + (upper ++ [g]).length)).complete g.descriptor.asynchronous v
      args named) handled w w'.store q r changes texts := by
  have hcall := (complete_guard hv₁ depth args named handled).trans
    (Guard.run_shell_of_fails g.descriptor.asynchronous hguard hq hstop)
  rw [add_length_concat]
  refine hupper.run_complete_of_noted hguards hcall hq hr hnotes hc ?_ hrendered hnotable
  rintro - x rfl
  exact hstop

end Innermost

/-- An object without an attribute for them has no notes yet. -/
theorem Store.notes?_of_label? {s : Store} {r : Ref} {c : Class} {attributes : Named}
    (h : s.label? r = some (c, attributes)) (hnone : attributes.get? "__notes__" = none) :
    s.notes? r = some [] := by
  obtain ⟨o, ho, heq⟩ := Option.map_eq_some_iff.mp h
  obtain rfl : o.attributes = attributes := congrArg Prod.snd heq
  rw [notes?, ho, Option.bind_some, Object.notes?, hnone]

section Stacks

variable {asynchronous : Bool} {f v : Value} {guards : List Guard} {depth : Nat}
  {args : List Value} {named : Named} {handled : Option Ref} {w u : World}
  {contexts : List Value} {changes : List (Store × Store)}

/-- Over a returned failure that is no exception, the innermost guard puts a layer around it, and
the other guards add their notes to the layer. -/
theorem Stacked.failsNoted_of_payload {result payload : Value}
    (hv : Stacked w.store asynchronous f guards v) (hsome : guards ≠ [])
    (hguards : ∀ g ∈ guards,
      w.Leaves g.bindings .noted ∧ g.descriptor.callSignature.accepts args named)
    (hcall : ((Engine.within depth).complete asynchronous f args named).run handled w =
      (.ok result, u))
    (hp : Fails u.store (.ok result) (.returned payload))
    (hnone : u.store.exception? payload = none)
    (hc : u.store.Chained (u.store.classOf payload))
    (hrendered : Rendered depth asynchronous args named handled w guards contexts changes) :
    ∃ r s context, u.store.get? r = none ∧ contexts.getLast? = some context ∧
      s.label? r =
        some (.standard .contextError, [("context", context), ("source", payload)]) ∧
      ∀ texts, Notable r contexts.dropLast changes.dropLast texts →
        FailsNoted ((Engine.within (depth + guards.length)).complete asynchronous v args named)
          handled w s (.returned (.object r)) r changes.dropLast texts := by
  obtain ⟨upper, g, rfl⟩ := (List.eq_nil_or_concat' guards).resolve_left hsome
  obtain ⟨v₁, hv₁, rfl, rfl, hupper⟩ := hv.innermost
  obtain ⟨⟨ended, u₁, context, u₂, hlast, hcall₁, hrendering⟩, hrendered⟩ := hrendered.innermost
  cases hcall₁.symm.trans hcall
  obtain ⟨hleaves, haccepts⟩ := hguards g (by simp)
  obtain ⟨r, ended', w', hguard, hq, hlayered⟩ := Guard.run_of_fails haccepts hcall hp
    (.noted (hleaves.keeps (keeps_of_run hcall)) hnone) hc hrendering
  have hclass : w'.store.classOf (.object r) = Standard.contextError := hlayered.layer.classOf
  have hkeeps := (keeps_of_run hrendering).store.objects
  refine ⟨r, w'.store, context, hkeeps.get?_eq_none hlayered.free, hlast, hlayered.label,
    fun texts hnotable => ?_⟩
  refine Stacked.failsNoted_above hv₁ hupper
    (fun g' hg' => hguards g' (List.mem_append_left _ hg')) hguard hq hlayered.exception
    (Option.isSome_of_eq_some (Store.notes?_of_label? hlayered.label rfl)) ?_ ?_ hrendered hnotable
  · rw [Failure.value, hclass]
    exact Store.chained_contextError _
  · rw [Failure.value, Store.isInstance, hclass]
    rfl

/-- Over a failure of a class without an order, the innermost guard raises another exception, and
the other guards add their notes to that one. -/
theorem Stacked.failsNoted_of_unordered {ended : Except Signal Value} {p : Failure}
    (hv : Stacked w.store asynchronous f guards v) (hsome : guards ≠ [])
    (hguards : ∀ g ∈ guards,
      w.Leaves g.bindings .noted ∧ g.descriptor.callSignature.accepts args named)
    (hcall : ((Engine.within depth).complete asynchronous f args named).run handled w = (ended, u))
    (hp : Fails u.store ended p)
    (hhashable : u.store.isHashableClass (u.store.classOf p.value) = true)
    (hno : Registry.initial.dispatch u.store (.cls (u.store.classOf p.value)) =
      .error .contradiction)
    (hrendered : Rendered depth asynchronous args named handled w guards contexts changes) :
    ∃ x s, u.store.get? x = none ∧ s.label? x = some (.standard .runtimeError, []) ∧
      ∀ texts, Notable x contexts.dropLast changes.dropLast texts →
        FailsNoted ((Engine.within (depth + guards.length)).complete asynchronous v args named)
          handled w s (.raised x) x changes.dropLast texts := by
  obtain ⟨upper, g, rfl⟩ := (List.eq_nil_or_concat' guards).resolve_left hsome
  obtain ⟨v₁, hv₁, rfl, rfl, hupper⟩ := hv.innermost
  obtain ⟨⟨ended₁, u₁, context, u₂, -, hcall₁, hrendering⟩, hrendered⟩ := hrendered.innermost
  cases hcall₁.symm.trans hcall
  obtain ⟨hleaves, haccepts⟩ := hguards g (by simp)
  obtain ⟨x, w', hguard, hnew, hlabel, hexception⟩ := Guard.run_of_unordered haccepts hcall hp
    (hleaves.keeps (keeps_of_run hcall)) hhashable hno hrendering
  have hclass := Store.classOf_of_label? (.refl w'.store) hlabel
  refine ⟨x, w'.store, hnew, hlabel, fun texts hnotable => ?_⟩
  refine Stacked.failsNoted_above hv₁ hupper
    (fun g' hg' => hguards g' (List.mem_append_left _ hg')) hguard
    (.raised (by rw [Store.isInstance, hclass]; rfl)) hexception
    (Option.isSome_of_eq_some (Store.notes?_of_label? hlabel rfl)) ?_ ?_ hrendered hnotable
  · rw [Failure.value, hclass]
    exact Store.chained_runtimeError _
  · rw [Failure.value, Store.isInstance, hclass]
    rfl

end Stacks

/-! ## Decorations -/

/-- **Decorations add one note after the other to a failure.**  Decorations with sets that note are
put around a function.  In any later world that a session reaches with nothing registered in these
sets, a call with arguments that fit fails with `p`, whose class can be a key and does not merge
contexts itself, and every guard renders its context.

If a registry finds an order for the class, there are two cases.  Where `p` is an exception with a
list of notes, or without any, the decorated call raises or returns that same exception, and the
texts of the contexts have been added to its notes, from the innermost guard to the outermost.
Where `p` is returned and no exception, the innermost guard puts a layer around it, and the
decorated call returns that layer with the texts of the other contexts for its notes.  Nothing else
changes, be it the links of the exception or another object, but for what a rendering changes.

If a registry finds no order, the innermost guard raises another exception, which gets the notes of
the other guards. -/
theorem decorated_call_notes {engine : Engine} {decorations : List Decoration} {v v' : Value}
    {first : Option Ref} {w₀ w₁ : World}
    (hdecorated : (Decoration.applyAll engine decorations v).run first w₀ = (.ok v', w₁))
    (hsome : decorations ≠ []) {f : Function}
    (hf : w₀.store.function? (Descriptor.targetOf w₀.store v) = some f)
    {w : World} (hlater : w₁.store.Persists w.store) (hreachable : w.Reachable)
    (hnothing : ∀ d ∈ decorations, ∃ threadLocal,
      (w.bindingSet d.bindings).core = .standardWith .noted threadLocal) {depth : Nat}
    {args : List Value} {named : Named} {handled : Option Ref} {ended : Except Signal Value}
    {u : World} {p : Failure} {signature : Signature}
    (hcall : ((Engine.within depth).complete
      (w₀.store.isAsynchronous (Descriptor.targetOf w₀.store v))
      (Descriptor.targetOf w₀.store v) args named).run handled w = (ended, u))
    (hp : Fails u.store ended p)
    (hsignature : w₀.store.signature false (Descriptor.targetOf w₀.store v) = .ok signature)
    (haccepts : signature.accepts args named)
    (hhashable : u.store.isHashableClass (u.store.classOf p.value) = true)
    (hplain : u.store.hasContextMethod (u.store.classOf p.value) = false) :
    ∃ guards, guards.length = decorations.length ∧
      Stacked w.store (w₀.store.isAsynchronous (Descriptor.targetOf w₀.store v))
        (Descriptor.targetOf w₀.store v) guards (Descriptor.targetOf w₁.store v') ∧
      ∀ contexts changes,
        Rendered depth (w₀.store.isAsynchronous (Descriptor.targetOf w₀.store v)) args named
          handled w guards contexts changes →
        let call := (Engine.within (depth + decorations.length)).complete
          (w₀.store.isAsynchronous (Descriptor.targetOf w₀.store v))
          (Descriptor.targetOf w₁.store v') args named
        ((∃ found, Registry.initial.dispatch u.store (.cls (u.store.classOf p.value)) =
            .ok found) →
          (∀ e texts, u.store.exception? p.value = some e → (u.store.notes? e).isSome →
            Notable e contexts changes texts →
            FailsNoted call handled w u.store p e changes texts) ∧
          (∀ payload, p = .returned payload → u.store.exception? payload = none →
            ∃ r s context, u.store.get? r = none ∧ contexts.getLast? = some context ∧
              s.label? r =
                some (.standard .contextError, [("context", context), ("source", payload)]) ∧
              ∀ texts, Notable r contexts.dropLast changes.dropLast texts →
                FailsNoted call handled w s (.returned (.object r)) r changes.dropLast texts)) ∧
        ((¬∃ found, Registry.initial.dispatch u.store (.cls (u.store.classOf p.value)) =
            .ok found) →
          ∃ x s, u.store.get? x = none ∧ s.label? x = some (.standard .runtimeError, []) ∧
            ∀ texts, Notable x contexts.dropLast changes.dropLast texts →
              FailsNoted call handled w s (.raised x) x changes.dropLast texts) := by
  obtain ⟨guards, hbuilt⟩ := Decoration.run_applyAll hdecorated
  have hstacked := hbuilt.stacked.persists hlater
  have hnonempty : guards ≠ [] := by
    rintro rfl
    exact hsome (List.eq_nil_of_length_eq_zero hbuilt.length.symm)
  have hguards : ∀ g ∈ guards,
      w.Leaves g.bindings .noted ∧ g.descriptor.callSignature.accepts args named := by
    intro g hg
    obtain ⟨d, hd, hbindings⟩ := hbuilt.bindings g hg
    refine ⟨⟨by rw [hbindings]; exact hnothing d hd, hreachable.sound.truthful⟩, ?_⟩
    -- Only the innermost guard has parameters that arguments could fail to fit.
    rcases hbuilt.signatures g hg with heq | heq
    · rw [heq, Signature.accepts_everything]
    · cases hsignature.symm.trans heq
      exact haccepts
  refine ⟨guards, hbuilt.length, hstacked, fun contexts changes hrendered => ?_⟩
  dsimp only
  rw [← hbuilt.length]
  refine ⟨fun hordered => ⟨fun e texts he hnotes hnotable => ?_, ?_⟩, fun hordered => ?_⟩
  · refine hstacked.run_complete_of_noted hguards hcall hp he hnotes
      ⟨hhashable, hplain, hordered⟩ ?_ hrendered hnotable
    rintro hasync r rfl
    -- A call of an asynchronous function does not end an iteration, so its guards do not either.
    obtain ⟨attributes, hf'⟩ :=
      ((keeps_of_run hdecorated).store.objects.trans hlater).function? hf
    have hform : f.code.form = .asynchronous := by
      rw [← Store.formOf_of_function? hf]
      exact of_decide_eq_true hasync
    rw [hasync] at hcall
    cases hp
    exact endsNoIteration_complete hf' hform depth handled r u hcall
  · rintro payload rfl hnone
    cases hp with
    | returned hresult hpayload =>
      exact hstacked.failsNoted_of_payload hnonempty hguards hcall (.returned hresult hpayload)
        hnone ⟨hhashable, hplain, hordered⟩ hrendered
  · exact hstacked.failsNoted_of_unordered hnonempty hguards hcall hp hhashable
      (Registry.dispatch_of_unordered hhashable hordered) hrendered

/-- A world with one set, which notes; an exception of a class, and a function that returns a
failure with that exception. -/
def World.notingFor (s : Store) (c : Class) : World :=
  { World.initial with
    sets := #[.standardWith .noted false]
    values := [("p", .object ⟨0⟩)]
    store := { s with objects := #[⟨c, [], .exception [] none none⟩,
      .function (.body .direct (.operation .err [.value (.variable "p")]) 0 none)] } }

/-- A function returns a failure with an instance of a class without an order.  Under two guards an
exception is raised that has nothing to do with it, and that one gets the note. -/
theorem tangled_failure_unnoted :
    ∃ c s v' w₁ x u', tangled = .ok (c, s) ∧
      (Decoration.applyAll (Engine.within 0) [.source (.value (.str .fresh "inner")) 0,
        .source (.value (.str .fresh "outer")) 0] (.object ⟨1⟩)).run none
          (World.notingFor s c) = (.ok v', w₁) ∧
      ((Engine.within 4).complete false (Descriptor.targetOf w₁.store v') [] []).run none w₁ =
        (.error (.raised x), u') ∧
      u'.store.classOf (.object x) = Standard.runtimeError ∧
      u'.store.notes? x = some [.str .fresh "outer"] := by
  obtain ⟨c, s, hmade, hfounded, hhashable, hplain, hunordered⟩ := tangled_unordered
  obtain ⟨w₁, u, d, d', hdecorated, hcall, hresult, hobject, hinner, houter, htarget, htarget',
      htop⟩ : ∃ w₁ u d d',
      (Decoration.applyAll (Engine.within 0) [.source (.value (.str .fresh "inner")) 0,
        .source (.value (.str .fresh "outer")) 0] (.object ⟨1⟩)).run none
          (World.notingFor s c) = (.ok (.object ⟨3⟩), w₁) ∧
      ((Engine.within 2).complete false (.object ⟨1⟩) [] []).run none w₁ =
        (.ok (.object ⟨4⟩), u) ∧
      Guard.payload? u.store (.object ⟨4⟩) = some (.object ⟨0⟩) ∧
      (u.store.get? ⟨0⟩).map Object.cls = some c ∧
      w₁.store.Guards (.object ⟨2⟩) ⟨d, .value (.str .fresh "inner"), 0⟩ ∧
      w₁.store.Guards (.object ⟨3⟩) ⟨d', .value (.str .fresh "outer"), 0⟩ ∧
      d.target = .object ⟨1⟩ ∧ d'.target = .object ⟨2⟩ ∧
      Descriptor.targetOf w₁.store (.object ⟨3⟩) = .object ⟨3⟩ :=
    ⟨_, _, _, _, rfl, rfl, rfl, rfl, ⟨_, rfl, rfl, rfl⟩, ⟨_, rfl, rfl, rfl⟩, rfl, rfl, rfl⟩
  -- The store of `tangled` is not computed again: its classes are known by what holds of them.
  have hkeeps := (keeps_of_run hdecorated).trans (keeps_of_run hcall)
  have hclasses : u.store.declarations = s.declarations := hkeeps.store.classes
  have hclass : u.store.classOf (.object ⟨0⟩) = c := by
    obtain ⟨o, ho, rfl⟩ := Option.map_eq_some_iff.mp hobject
    exact (Store.Persists.refl u.store).classOf ho
  have hp : Fails u.store (.ok (.object ⟨4⟩)) (.returned (.object ⟨0⟩)) := by
    refine .returned hresult ?_
    rintro r ⟨⟩
    simpa using congrArg Option.isSome hobject
  have hreachable : w₁.Reachable := by
    refine .run (.start (fun id => ?_) hfounded) hdecorated
    cases id <;> rfl
  have hset : (w₁.bindingSet 0).core = .standardWith .noted false :=
    ((keeps_of_run hdecorated).core_bindingSet 0).trans rfl
  obtain ⟨guards, hlength, hstacked, hall⟩ := decorated_call_notes hdecorated (by simp) rfl
    (fun _ _ h => h) hreachable (by simp [Decoration.bindings, hset]) hcall hp rfl rfl
    (by rw [Failure.value, hclass, Store.isHashableClass_congr hclasses, hhashable])
    (by rw [Failure.value, hclass, Store.hasContextMethod_congr hclasses, hplain])
  obtain ⟨outer, inner, rfl⟩ := List.length_eq_two.mp hlength
  rw [htop] at hstacked
  obtain _ | ⟨houter', -, hstacked⟩ := hstacked
  obtain rfl := houter.unique houter'
  rw [htarget'] at hstacked
  obtain _ | ⟨hinner', -, -⟩ := hstacked
  obtain rfl := hinner.unique hinner'
  -- Both guards render a text, which changes nothing.
  have hbelow : ((Engine.within 2).complete false d.target [] []).run none w₁ =
      (.ok (.object ⟨4⟩), u) := by
    rw [htarget]
    exact hcall
  obtain ⟨ended₁, u₁, habove⟩ : ∃ ended₁ u₁, ((Engine.within 3).complete false d'.target [] []).run
      none w₁ = (ended₁, u₁) := ⟨_, _, rfl⟩
  obtain ⟨x, s', -, hlabel, hnoted⟩ := (hall [.str .fresh "outer", .str .fresh "inner"] _
    (.layer (.layer .bare hbelow rfl) habove rfl)).2 (by
      rw [Failure.value, hclass, Registry.dispatch_congr hclasses]
      exact hunordered)
  obtain ⟨ended, u', hrun, hfails, hannotated⟩ := hnoted ["outer"] (.context rfl id .none)
  cases hfails
  obtain ⟨o, ho, hnone⟩ := Option.bind_eq_some_iff.mp (Store.notes?_of_label? hlabel rfl)
  obtain ⟨o', ho', hnotes⟩ := hannotated.self (by simp) o ho
  refine ⟨c, s, _, w₁, x, u', hmade, hdecorated, hrun,
    Store.classOf_of_label? hannotated.keeps.objects hlabel, ?_⟩
  rw [Store.notes?, ho', Option.bind_some]
  exact hnotes.notes [] hnone

end FaultContext
