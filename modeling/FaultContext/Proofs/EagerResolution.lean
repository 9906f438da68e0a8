/-
# FaultContext.Proofs.EagerResolution -- bindings that are found before the first call.

Where the return annotation of a function names a class of failures, decorating the function looks
that class up.  The lookup decides over the decoration: a missing or an ambiguous binding is found
at once.  And it stays decided: as long as nothing is registered in the set, the lookup for a
failure of that class finds the very same binding, whatever happens in between.

What the rules and the fallback of the set answer must be their own affair, a function of the class
and of what is registered, exceptions included; a rule that fills the cache or asks for another type
may answer differently later on.
-/
import FaultContext.Proofs.FailureBranch
import FaultContext.Proofs.Lasting

namespace FaultContext

open Eval

/-! ## Attaching a guard -/

namespace Guard

variable {g : Guard} {engine : Engine} {P : Class}
  (h : TypeHint.failureType g.descriptor.hint = some P) {handled : Option Ref} {w w' : World}
include h

/-- Where a class of failures is named, what prevents its lookup prevents the guard. -/
theorem run_attach_of_error {signal : Signal}
    (hlookup : (Resolution.lookup engine g.bindings (.cls P)).run handled w = (.error signal, w')) :
    (g.attach engine).run handled w = (.error signal, w') := by
  refine run_bind_of_error ?_
  simp only [resolveAhead, h]
  exact run_bind_of_error hlookup

/-- Once the class has been found nothing can go wrong. -/
theorem run_attach_of_found {b : Option Binding}
    (hlookup : (Resolution.lookup engine g.bindings (.cls P)).run handled w = (.ok b, w')) :
    ∃ v u, (g.attach engine).run handled w = (.ok v, u) := by
  have hahead : (g.resolveAhead engine).run handled w = (.ok (), w') := by
    simp only [resolveAhead, h]
    exact run_bind_of_ok hlookup
  rw [attach, run_bind_of_ok hahead, run_bind_of_ok run_store]
  dsimp only
  rw [run_bind_of_ok (run_new _)]
  cases g.descriptor.kind with
  | none => exact ⟨_, _, rfl⟩
  | some kind => cases kind <;> exact ⟨_, _, rfl⟩

end Guard

/-! ## Decorating -/

/-- **The lookup at decoration decides, and it stays decided.**  A function whose return annotation
names a class of failures is decorated: a new exception of some class is raised if and only if
looking the class up raises one.  If the decoration succeeds, the lookup has found a
binding.  Then in every later world, as long as nothing has been registered in the set, a call of
the decorated function that comes back with a failure of that class looks the class up once its
context is rendered, finds the same binding, and goes on with it. -/
theorem decoration_resolves_ahead {engine : Engine} {decoration : Decoration} {v : Value}
    {handled : Option Ref} {w w₁ w₂ : World} {d : Descriptor} {context : ContextSource} {P : Class}
    (hw : w.Sound) (hid : decoration.bindings < w.sets.size)
    (hset : (w.bindingSet decoration.bindings).isIndependent)
    (hdescribed : (Descriptor.ofValue engine v).run handled w = (.ok d, w₁))
    (hcontext : (decoration.context d).run handled w₁ = (.ok context, w₂))
    (hfailure : TypeHint.failureType d.hint = some P) (hP : w.store.isHashableClass P = true) :
    let id := decoration.bindings
    let g : Guard := ⟨d, context, id⟩
    let lookup (engine : Engine) := Resolution.lookup engine id (.cls P)
    (∀ problem, RaisesNew w problem ((decoration.apply engine v).run handled w) ↔
      RaisesNew w problem ((lookup engine).run handled w)) ∧
    ∀ v' w₃, (decoration.apply engine v).run handled w = (.ok v', w₃) →
      ∃ b u₂, (lookup engine).run handled w₂ = (.ok b, u₂) ∧
        ∀ later, w₃.Later id later → ∀ depth args named handled' result u p,
          let engine := Engine.within depth
          let call := engine.complete d.asynchronous d.target args named
          call.run handled' later = (.ok result, u) →
          Guard.payload? u.store result = some p → u.store.Exists p → u.store.classOf p = P →
          ((Engine.within (depth + 1)).complete d.asynchronous (Descriptor.targetOf w₃.store v')
              args named).run handled' later =
            (Guard.shell d.asynchronous (g.run engine args named call)).run handled' later ∧
          (g.run engine args named call).run handled' later =
            (do
              let merged ← g.render engine p args named
              err (← Resolution.wrap engine id p merged)).run handled' u ∧
          ∀ merged u', (g.render engine p args named).run handled' u = (.ok merged, u') →
            ∃ u'', (lookup engine).run handled' u' = (.ok b, u'') ∧ u''.store = u'.store ∧
              (Resolution.wrap engine id p merged).run handled' u' =
                (Resolution.apply engine b p merged).run handled' u'' := by
  intro id g lookup
  have hbefore := (keeps_of_run hdescribed).trans (keeps_of_run hcontext)
  have hstart : w.Later id w₂ := .run (.run .refl hdescribed) hcontext
  have happly : ∀ {ended}, (g.attach engine).run handled w₂ = ended →
      (decoration.apply engine v).run handled w = ended := fun hattach =>
    (run_bind_of_ok hdescribed).trans ((run_bind_of_ok hcontext).trans hattach)
  cases houtcome : (w.bindingSet id).outcome w.store P with
  | error problem =>
    have hset₂ : (w₂.bindingSet id).isIndependent := by rw [hbefore.isIndependent, hset]
    have hP₂ : w₂.store.isHashableClass P = true := by
      rw [Store.isHashableClass_congr hbefore.store.classes, hP]
    have hraises : RaisesNew w problem ((lookup engine).run handled w) :=
      Resolution.raises_lookup hw.truthful hset hP houtcome handled
    obtain ⟨x, u₂, hlookup, hx⟩ := Resolution.raises_lookup (hw.keeps hbefore).truthful hset₂ hP₂
      ((hbefore.outcome id P).trans houtcome) handled
    have hended := happly (Guard.run_attach_of_error (g := g) hfailure hlookup)
    have hraises' : RaisesNew w problem ((decoration.apply engine v).run handled w) :=
      .of_keeps hbefore ⟨x, u₂, hended, hx⟩
    refine ⟨fun other => hraises'.iff hraises, fun v' w₃ hok => ?_⟩
    cases hended.symm.trans hok
  | ok b =>
    have hfinds : ∀ {u}, w.Later id u → ∀ engine handled,
        ∃ u', (lookup engine).run handled u = (.ok b, u') ∧ u'.store = u.store :=
      fun hu _ handled => hu.run_lookup hw hid hset hP houtcome handled
    obtain ⟨u, hlookup, -⟩ := hfinds .refl engine handled
    obtain ⟨u₂, hlookup₂, -⟩ := hfinds hstart engine handled
    obtain ⟨made, attached, hattach⟩ := Guard.run_attach_of_found (g := g) hfailure hlookup₂
    have hended := happly hattach
    refine ⟨fun other => ?_, fun v' w₃ hok => ⟨b, u₂, hlookup₂, ?_⟩⟩
    · rw [hended, hlookup]
      exact ⟨fun h => absurd h RaisesNew.ne_ok, fun h => absurd h RaisesNew.ne_ok⟩
    · cases hended.symm.trans hok
      intro later hlater depth args named handled' result u p engine call hcall hp hexists hclass
      obtain ⟨f, hf, hguards⟩ := Guard.run_attach hattach
      have hattached : w.Later id attached := hstart.run hattach
      have hretains := hlater.retains ((hattached.retains hid).size hid)
      refine ⟨?_, (Guard.run_of_returned hcall).trans (Guard.run_returned_of_payload hp), ?_⟩
      · rw [Descriptor.targetOf, hf]
        exact complete_guard (hretains.objects.guards hguards) depth args named handled'
      intro merged u' hrender
      -- Nothing has been registered since, so the class is looked up to the same.
      obtain ⟨u'', hfound, hstore⟩ :=
        hfinds (.run ((hattached.trans hlater).run hcall) hrender) engine handled'
      refine ⟨u'', hfound, hstore, ?_⟩
      rw [Resolution.wrap, run_bind_of_ok run_store,
        (keeps_of_run hrender).store.classOf hexists, hclass]
      exact run_bind_of_ok hfound

/-- A function says that it fails with a certain class of exceptions, and it does.  When it is
decorated the class is looked up.  It is decorated once more and another class is looked up, and
then the call finds the same binding. -/
theorem annotated_failure_bound :
    let w := World.holding #[⟨Standard.valueError, [], .exception [] none none⟩,
      ⟨Standard.function, [], .function
        { name := "f", qualifiedName := "f", doc := none,
          annotations := [("return", .generic (.standard .err) [.std .valueError])], params := [],
          attributes := [], wrapped := none,
          code := .inject (.cls Standard.err) [.object ⟨0⟩] [] false }⟩]
    let decoration := Decoration.source (.value (.str .fresh "context")) defaultSet
    let lookup (depth : Nat) (c : Standard) :=
      Resolution.lookup (Engine.within depth) defaultSet (.std c)
    ∃ d v' w₃ again w₄ other w₅ u u' u'',
      (Descriptor.ofValue (Engine.within 0) (.object ⟨1⟩)).run none w = (.ok d, w) ∧
      TypeHint.failureType d.hint = some (.standard .valueError) ∧
      (decoration.apply (Engine.within 0) (.object ⟨1⟩)).run none w = (.ok v', w₃) ∧
      (decoration.apply (Engine.within 0) (.object ⟨1⟩)).run none w₃ = (.ok again, w₄) ∧
      (lookup 0 .keyError).run none w₄ = (.ok other, w₅) ∧
      ((Engine.within 2).complete false (.object ⟨1⟩) [] []).run none w₅ = (.ok (.object ⟨4⟩), u) ∧
      (lookup 0 .valueError).run none w = (.ok (some .chain), u') ∧
      (lookup 2 .valueError).run none u = (.ok (some .chain), u'') ∧
      ((Engine.within 3).complete false v' [] []).run none w₅ = (do
        err (← Resolution.apply (Engine.within 2) (some .chain) (.object ⟨0⟩)
          (.str .fresh "context"))).run none u'' := by
  intro w decoration lookup
  obtain ⟨d, v', w₃, again, w₄, other, w₅, u, u', hdescribed, hfailure, htarget, hasync, happly, hv',
      hdecorated, hother, hcall, hp, hpresent, hlookup⟩ : ∃ d v' w₃ again w₄ other w₅ u u',
      (Descriptor.ofValue (Engine.within 0) (.object ⟨1⟩)).run none w = (.ok d, w) ∧
      TypeHint.failureType d.hint = some (.standard .valueError) ∧ d.target = .object ⟨1⟩ ∧
      d.asynchronous = false ∧
      (decoration.apply (Engine.within 0) (.object ⟨1⟩)).run none w = (.ok v', w₃) ∧
      Descriptor.targetOf w₃.store v' = v' ∧
      (decoration.apply (Engine.within 0) (.object ⟨1⟩)).run none w₃ = (.ok again, w₄) ∧
      (lookup 0 .keyError).run none w₄ = (.ok other, w₅) ∧
      ((Engine.within 2).complete false (.object ⟨1⟩) [] []).run none w₅ = (.ok (.object ⟨4⟩), u) ∧
      Guard.payload? u.store (.object ⟨4⟩) = some (.object ⟨0⟩) ∧
      (u.store.get? ⟨0⟩).map Object.cls = some (.standard .valueError) ∧
      (lookup 0 .valueError).run none w = (.ok (some .chain), u') :=
    -- Telling two classes apart goes into definitions that recur along the values.
    by with_unfolding_all exact
      ⟨_, _, _, _, _, _, _, _, _, rfl, rfl, rfl, rfl, rfl, rfl, rfl, rfl, rfl, rfl, rfl, rfl⟩
  have hsound : w.Sound := by
    refine ⟨World.truthful_of_entries fun id => ?_, nofun⟩
    cases id <;> rfl
  have hid : decoration.bindings < w.sets.size := by decide
  obtain ⟨-, hlater⟩ :=
    decoration_resolves_ahead hsound hid rfl hdescribed (run_pure _) hfailure rfl
  obtain ⟨b, u₂, hfound, hcalls⟩ := hlater v' w₃ happly
  cases hlookup.symm.trans hfound
  have hexists : u.store.Exists (.object ⟨0⟩) := by
    rintro r ⟨⟩
    simpa using congrArg Option.isSome hpresent
  have hclass : u.store.classOf (.object ⟨0⟩) = .standard .valueError := by
    obtain ⟨o, ho, heq⟩ := Option.map_eq_some_iff.mp hpresent
    exact ((Store.Persists.refl u.store).classOf ho).trans heq
  have hmeanwhile : w₃.Later defaultSet w₅ := .run (.run .refl hdecorated) hother
  rw [← htarget, ← hasync] at hcall
  obtain ⟨hshell, hrun, hmerged⟩ := hcalls w₅ hmeanwhile 2 [] [] none _ u _ hcall hp hexists hclass
  have hrendered : (Guard.render (Engine.within 2) ⟨d, .value (.str .fresh "context"), defaultSet⟩
    (.object ⟨0⟩) [] []).run none u = (.ok (.str .fresh "context"), u) := rfl
  obtain ⟨u'', hagain, -, hwrap⟩ := hmerged _ u hrendered
  rw [htarget, hasync] at hcall
  refine ⟨d, v', w₃, again, w₄, other, w₅, u, u', u'', hdescribed, hfailure, happly, hdecorated,
    hother, hcall, hlookup, hagain, ?_⟩
  rw [hasync] at hshell hrun
  rw [hv'] at hshell
  refine hshell.trans (hrun.trans ((run_bind_of_ok hrendered).trans ?_))
  rw [run_bind, run_bind, hwrap]

end FaultContext
