/-
# FaultContext.Proofs.Stack -- functions under guards.

Guarding a function several times builds a stack: the outermost guard calls the next one, and the
innermost calls the function.  Whatever computes in between, the stack stays what it is, because no
computation changes the code of a function.

Calling the top of a stack is running its guard around a call of what is below.  The guard passes
all arguments on, and a guard over something asynchronous does its work inside of a coroutine of its
own.  Everything about stacks is an induction along `Stacked` with this one step,
`complete_guard`.
-/
import FaultContext.Call.Engine

namespace FaultContext

open Eval

/-! ## Functions in a store -/

/-- A function is an object. -/
theorem Store.exists_of_function? {s : Store} {v : Value} {f : Function}
    (h : s.function? v = some f) :
    ∃ r c attributes, v = .object r ∧ s.get? r = some ⟨c, attributes, .function f⟩ := by
  cases v with
  | object r =>
    simp only [Store.function?] at h
    split at h
    next c attributes f' hr =>
      cases h
      exact ⟨r, c, attributes, rfl, hr⟩
    next => cases h
  | _ => cases h

/-- Every function is still what it is, with the same attributes. -/
def Store.KeepsFunctions (s s' : Store) : Prop :=
  ∀ v f, s.function? v = some f → s'.function? v = some f

theorem Store.KeepsFunctions.refl (s : Store) : s.KeepsFunctions s := fun _ _ h => h

theorem Store.KeepsFunctions.trans {s s' s'' : Store} (h : s.KeepsFunctions s')
    (h' : s'.KeepsFunctions s'') : s.KeepsFunctions s'' :=
  fun v f hf => h' v f (h v f hf)

theorem Store.keepsFunctions_insert (s : Store) (o : Object) :
    s.KeepsFunctions (s.insert o).2 := by
  intro v f hf
  obtain ⟨r, c, attributes, rfl, hr⟩ := Store.exists_of_function? hf
  simp only [Store.function?, Store.get?_insert_of_get? o hr]

/-- A function keeps everything but its attributes. -/
theorem Store.Persists.function? {s s' : Store} (h : s.Persists s') {v : Value} {f : Function}
    (hf : s.function? v = some f) :
    ∃ attributes, s'.function? v = some { f with attributes } := by
  obtain ⟨r, c, attributes, rfl, hr⟩ := Store.exists_of_function? hf
  have hcore := h r _ (by rw [hr]; rfl)
  obtain ⟨⟨c', attributes', body⟩, hr', heq⟩ := Option.map_eq_some_iff.mp hcore
  -- Only a function has the core of a function.
  cases body <;> simp only [Object.core, Body.core, Prod.mk.injEq, reduceCtorEq, and_false,
    Body.function.injEq] at heq
  next f' =>
    refine ⟨f'.attributes, ?_⟩
    have hf' : f' = { f with attributes := f'.attributes } :=
      congrArg (fun g : Function => { g with attributes := f'.attributes }) heq.2
    rw [← hf']
    simp only [Store.function?, hr']

/-- The signature of a function is that of the function at the end of its wrappers, or its own. -/
theorem Store.signature_of_function? {s : Store} {follow : Bool} {v : Value} {f bottom : Function}
    (hf : s.function? v = some f)
    (hbottom : s.function? (if follow then s.unwrap v else v) = some bottom) :
    s.signature follow v = .ok bottom.params := by
  obtain ⟨r, c, attributes, rfl, hr⟩ := Store.exists_of_function? hf
  obtain ⟨r', c', attributes', hv', hr'⟩ := Store.exists_of_function? hbottom
  have hcallable : s.isCallable (.object r) = true := by simp only [Store.isCallable, hr]
  rw [Store.signature, Store.signatureWithin, hcallable]
  · simp only [Bool.not_true, Bool.false_eq_true, if_false, hv', hr']
    rfl
  · rintro self f ⟨⟩

theorem Store.qualifiedName?_of_function? {s : Store} {v : Value} {f : Function}
    (hf : s.function? v = some f) : s.qualifiedName? v = some f.qualifiedName := by
  obtain ⟨r, c, attributes, rfl, hr⟩ := Store.exists_of_function? hf
  simp only [Store.qualifiedName?, hr]

theorem Store.repr_of_function? {s : Store} {v : Value} {f : Function}
    (hf : s.function? v = some f) :
    s.repr v = .ok ("<function " ++ f.qualifiedName ++ " at 0x0>") := by
  obtain ⟨r, c, attributes, rfl, hr⟩ := Store.exists_of_function? hf
  simp only [Store.repr, Store.reprWith, Store.texts, hr, Store.reprObject]

/-! ## Guards as functions -/

/-- A value is a function that runs calls under a guard. -/
def Store.Guards (s : Store) (v : Value) (g : Guard) : Prop :=
  ∃ f, s.function? v = some f ∧ f.params = Signature.everything ∧ f.code = .guard g

/-- What a stack is made of: guards, the outermost first, over a function. -/
inductive Stacked (s : Store) (asynchronous : Bool) (f : Value) : List Guard → Value → Prop
  | bare : Stacked s asynchronous f [] f
  | layer {g : Guard} {guards : List Guard} {v : Value} :
    s.Guards v g → g.descriptor.asynchronous = asynchronous →
    Stacked s asynchronous f guards g.descriptor.target →
    Stacked s asynchronous f (g :: guards) v

/-- A value is not a function under two guards. -/
theorem Store.Guards.unique {s : Store} {v : Value} {g g' : Guard} (h : s.Guards v g)
    (h' : s.Guards v g') : g' = g := by
  obtain ⟨f, hf, -, hcode⟩ := h
  obtain ⟨f', hf', -, hcode'⟩ := h'
  obtain rfl := Option.some.inj (hf.symm.trans hf')
  exact Code.guard.inj (hcode'.symm.trans hcode)

theorem Store.Persists.guards {s s' : Store} (h : s.Persists s') {v : Value} {g : Guard}
    (hv : s.Guards v g) : s'.Guards v g := by
  obtain ⟨f, hf, hparams, hcode⟩ := hv
  obtain ⟨attributes, hf'⟩ := h.function? hf
  exact ⟨_, hf', hparams, hcode⟩

theorem Stacked.persists {s s' : Store} (h : s.Persists s') {asynchronous : Bool} {f v : Value}
    {guards : List Guard} (hv : Stacked s asynchronous f guards v) :
    Stacked s' asynchronous f guards v := by
  induction hv with
  | bare => exact .bare
  | layer hguards hasync _ ih => exact .layer (h.guards hguards) hasync ih

theorem Stacked.eq_of_nil {s : Store} {asynchronous : Bool} {f v : Value}
    (h : Stacked s asynchronous f [] v) : v = f := by
  cases h
  rfl

/-- Stacks can be put on stacks. -/
theorem Stacked.trans {s : Store} {asynchronous : Bool} {f v top : Value}
    {lower upper : List Guard} (hlower : Stacked s asynchronous f lower v)
    (hupper : Stacked s asynchronous v upper top) :
    Stacked s asynchronous f (upper ++ lower) top := by
  induction hupper with
  | bare => exact hlower
  | layer hguards hasync _ ih => exact .layer hguards hasync ih

/-! ## Calls of guards -/

theorem Signature.placeNamed_everything (all : Named) (placed : Named × Named)
    (arg : String × Value) :
    Signature.everything.placeNamed all placed arg = .ok (placed.1, placed.2 ++ [arg]) := by
  rfl

/-- Whatever the arguments are, they fit a guard. -/
theorem Signature.enter_everything (args : List Value) (named : Named) :
    Signature.everything.enter args named =
      .ok [("args", .tuple .fresh args), ("kwargs", collected named)] := by
  -- Every named argument is collected, in order.
  have hplaced : ∀ (rest all : Named) (placed : Named × Named),
      rest.foldlM (Signature.everything.placeNamed all) placed =
        (.ok (placed.1, placed.2 ++ rest) : Except CallFault _) := by
    intro rest all
    induction rest with
    | nil => simp [pure, Except.pure]
    | cons arg rest ih =>
      intro placed
      rw [List.foldlM_cons, Signature.placeNamed_everything]
      exact (ih (placed.1, placed.2 ++ [arg])).trans (by simp)
  have hpositional : Signature.everything.positionalParams = [] := rfl
  have hkeyword : Signature.everything.keywordParams = [] := rfl
  have hcollector : (Signature.everything.collector? .varPositional).isNone = false := rfl
  rw [Signature.enter, hplaced, hpositional, hkeyword, hcollector, Bool.and_false]
  rfl

theorem Signature.accepts_everything (args : List Value) (named : Named) :
    Signature.everything.accepts args named = true := by
  cases args <;> cases named <;> rfl

theorem run_complete_false (engine : Engine) (v : Value) (args : List Value) (named : Named)
    (handled : Option Ref) (w : World) :
    (engine.complete false v args named).run handled w =
      (engine.call v args named).run handled w := by
  rw [Engine.complete, run_bind]
  split
  next hcall => rw [hcall]; rfl
  next hcall => rw [hcall]

/-- What the guard of something asynchronous does happens inside of a coroutine. -/
def Guard.shell (asynchronous : Bool) (m : Eval Value) : Eval Value :=
  if asynchronous then asCoroutine m else m

/-- Calling a function, one level of nesting deeper. -/
theorem run_call_function {w : World} {v : Value} {f : Function}
    (hf : w.store.function? v = some f) (depth : Nat) (args : List Value) (named : Named)
    (handled : Option Ref) :
    ((Engine.within (depth + 1)).call v args named).run handled w =
      ((Engine.within depth).callFunction v f args named).run handled w := by
  obtain ⟨r, c, attributes, rfl, hr⟩ := Store.exists_of_function? hf
  simp only [Engine.within, Engine.callValue, Engine.callObject, run_bind, run_store, hr,
    Option.map_some]

/-- Waits for the result of a computation, if it is to be waited for. -/
def Engine.settle (engine : Engine) (awaited : Bool) (m : Eval Value) : Eval Value := do
  let result ← m
  if awaited then engine.await result else return result

/-- Waiting for a call of an asynchronous function is running its code inside of a coroutine, however
deep the call was: the call only makes a coroutine, and the code runs when that is driven. -/
theorem run_settle_of_asynchronous {w : World} {v : Value} {f : Function}
    (hf : w.store.function? v = some f) (hform : f.code.form = .asynchronous) {args : List Value}
    {named slots : Named} (henter : f.params.enter args named = .ok slots) (depth deep : Nat)
    (handled : Option Ref) :
    ((Engine.within (depth + 1)).settle true ((Engine.within (deep + 1)).call v args named)).run
        handled w =
      (asCoroutine ((Engine.within depth).run f args named)).run handled w := by
  have hcall : ((Engine.within (deep + 1)).call v args named).run handled w =
      (.ok (.coroutine .fresh v args named), w) := by
    rw [run_call_function hf, Engine.callFunction, hform, Function.enter, henter]
    rfl
  rw [Engine.settle, run_bind_of_ok hcall]
  simp only [if_true, Engine.within, Engine.awaitValue, run_bind, run_store, hf]

/-- Calling a function whose arguments fit is running its code, inside of a coroutine if it is
asynchronous. -/
theorem complete_of_enter {w : World} {v : Value} {f : Function} {asynchronous : Bool}
    (hf : w.store.function? v = some f)
    (hform : f.code.form = if asynchronous then .asynchronous else .direct) {args : List Value}
    {named slots : Named} (henter : f.params.enter args named = .ok slots) (depth : Nat)
    (handled : Option Ref) :
    ((Engine.within (depth + 1)).complete asynchronous v args named).run handled w =
      (Guard.shell asynchronous ((Engine.within depth).run f args named)).run handled w := by
  cases asynchronous with
  | false =>
    rw [run_complete_false, run_call_function hf, Engine.callFunction, hform]
    rfl
  | true => exact run_settle_of_asynchronous hf hform henter depth depth handled

/-- Calling a guard is running it around a call of its target. -/
theorem complete_guard {w : World} {v : Value} {g : Guard} (h : w.store.Guards v g) (depth : Nat)
    (args : List Value) (named : Named) (handled : Option Ref) :
    ((Engine.within (depth + 1)).complete g.descriptor.asynchronous v args named).run handled w =
      (Guard.shell g.descriptor.asynchronous (g.run (Engine.within depth) args named
        ((Engine.within depth).complete g.descriptor.asynchronous g.descriptor.target
          args named))).run handled w := by
  obtain ⟨f, hf, hparams, hcode⟩ := h
  have hform : f.code.form = if g.descriptor.asynchronous then .asynchronous else .direct := by
    rw [hcode, Code.form]
  -- A guard takes any arguments, so entering it cannot fail.
  have henter := Signature.enter_everything args named
  rw [← hparams] at henter
  rw [complete_of_enter hf hform henter, Engine.run, hcode]

/-! ## Decorations build stacks -/

/-- The signatures that are read are those that the function has. -/
theorem Descriptor.run_readSignatures {v : Value} {handled : Option Ref} {w w' : World}
    {found : Signature × Signature}
    (h : (Descriptor.readSignatures v).run handled w = (.ok found, w')) :
    w' = w ∧ Descriptor.signatures w.store v = .ok found := by
  rcases run_catchingIf_eq_ok.mp h with hread | ⟨r, between, -, -, hhandler⟩
  · obtain ⟨s, start, hstore, hlift⟩ := run_bind_eq_ok.mp hread
    cases hstore
    cases hsignatures : Descriptor.signatures w.store v with
    | error f =>
      rw [hsignatures] at hlift
      cases hlift
    | ok found =>
      rw [hsignatures] at hlift
      cases hlift
      exact ⟨rfl, rfl⟩
  · obtain ⟨text, _, -, hraise⟩ := run_bind_eq_ok.mp hhandler
    exact absurd hraise (run_raiseNewFrom_ne_ok _ _ _ _)

/-- What is checked about a target changes nothing, and a generator does not pass. -/
theorem Descriptor.run_checkTarget {v target : Value} {handled : Option Ref} {w w' : World}
    (h : (Descriptor.checkTarget v target).run handled w = (.ok (), w')) :
    w' = w ∧ w.store.formOf target ≠ .generator ∧
      w.store.formOf target ≠ .asynchronousGenerator := by
  obtain ⟨s, start, hstore, hcheck⟩ := run_bind_eq_ok.mp h
  cases hstore
  split at hcheck
  · obtain ⟨text, _, -, hraise⟩ := run_bind_eq_ok.mp hcheck
    exact absurd hraise (run_raiseNew_ne_ok _ _)
  · split at hcheck
    · obtain ⟨name, _, -, hraise⟩ := run_bind_eq_ok.mp hcheck
      exact absurd hraise (run_raiseNew_ne_ok _ _)
    · next hform =>
      cases hcheck
      refine ⟨rfl, ?_⟩
      simpa using hform

/-- What a description says of a value. -/
structure Descriptor.Describes (s : Store) (v : Value) (d : Descriptor) : Prop where
  target : d.target = Descriptor.targetOf s v
  kind : d.kind = (Descriptor.unwrapMethod s v).2
  asynchronous : d.asynchronous = s.isAsynchronous d.target
  signature : s.signature true d.target = .ok d.signature
  callSignature : s.signature false d.target = .ok d.callSignature
  notGenerator : s.formOf d.target ≠ .generator ∧ s.formOf d.target ≠ .asynchronousGenerator

/-- A description says what its function is. -/
theorem Descriptor.run_ofValue {engine : Engine} {v : Value} {handled : Option Ref} {w w' : World}
    {d : Descriptor} (h : (Descriptor.ofValue engine v).run handled w = (.ok d, w')) :
    Descriptor.Describes w.store v d := by
  obtain ⟨s, start, hstore, hcheck⟩ := run_bind_eq_ok.mp h
  cases hstore
  obtain ⟨_, between, hchecked, hread⟩ := run_bind_eq_ok.mp hcheck
  obtain ⟨rfl, hform⟩ := Descriptor.run_checkTarget hchecked
  obtain ⟨⟨signature, callSignature⟩, between, hsignatures, hhint⟩ := run_bind_eq_ok.mp hread
  obtain ⟨rfl, hfound⟩ := Descriptor.run_readSignatures hsignatures
  obtain ⟨hint, last, -, hmade⟩ := run_bind_eq_ok.mp hhint
  cases hmade
  simp only [Descriptor.signatures, bind, Except.bind] at hfound
  split at hfound
  next => cases hfound
  next hcaller =>
    split at hfound
    next => cases hfound
    next hcall =>
      cases hfound
      exact ⟨rfl, rfl, rfl, hcaller, hcall, hform⟩

theorem Guard.toFunction_params (s : Store) (g : Guard) :
    (g.toFunction s).params = Signature.everything := by
  unfold Guard.toFunction
  dsimp only
  split <;> rfl

theorem Guard.toFunction_code (s : Store) (g : Guard) : (g.toFunction s).code = .guard g := by
  unfold Guard.toFunction
  dsimp only
  split <;> rfl

/-- A function is not attached to a class by itself. -/
theorem Store.unwrapMethod_of_function? {s : Store} {v : Value} {f : Function}
    (hf : s.function? v = some f) : Descriptor.unwrapMethod s v = (v, none) := by
  obtain ⟨r, c, attributes, rfl, hr⟩ := Store.exists_of_function? hf
  simp only [Descriptor.unwrapMethod, hr]

/-- Attaching a guard resolves ahead and then makes a function, attached to a class in the same way
as its target. -/
theorem Guard.run_attach_eq_ok {engine : Engine} {g : Guard} {v : Value} {handled : Option Ref}
    {w w' : World} (h : (g.attach engine).run handled w = (.ok v, w')) :
    ∃ between f, (g.resolveAhead engine).run handled w = (.ok (), between) ∧
      Descriptor.unwrapMethod w'.store v = (f, g.descriptor.kind) ∧
      w'.store.function? f = some (g.toFunction between.store) ∧
      between.store.KeepsFunctions w'.store := by
  obtain ⟨_, between, hahead, hrest⟩ := run_bind_eq_ok.mp h
  obtain ⟨s, start, hstore, hmade⟩ := run_bind_eq_ok.mp hrest
  cases hstore
  obtain ⟨made, last, hnew, hrewrap⟩ := run_bind_eq_ok.mp hmade
  cases hnew
  have hplace : (between.store.insert
      ⟨Standard.function, [], .function (g.toFunction between.store)⟩).2.function?
        (.object (between.store.insert
          ⟨Standard.function, [], .function (g.toFunction between.store)⟩).1) =
      some (g.toFunction between.store) := by
    simp only [Store.function?, Store.get?_insert]
  have hkept := between.store.keepsFunctions_insert
    ⟨Standard.function, [], .function (g.toFunction between.store)⟩
  cases hkind : g.descriptor.kind with
  | none =>
    rw [hkind] at hrewrap
    cases hrewrap
    exact ⟨between, _, hahead, Store.unwrapMethod_of_function? hplace, hplace, hkept⟩
  | some kind =>
    cases kind <;> rw [hkind] at hrewrap <;> cases hrewrap <;>
      exact ⟨between, _, hahead, by simp only [Descriptor.unwrapMethod, Store.get?_insert],
        Store.keepsFunctions_insert _ _ _ _ hplace, hkept.trans (Store.keepsFunctions_insert _ _)⟩

/-- Attaching a guard gives a function that guards calls, attached to a class in the same way as its
target. -/
theorem Guard.run_attach {engine : Engine} {g : Guard} {v : Value} {handled : Option Ref}
    {w w' : World} (h : (g.attach engine).run handled w = (.ok v, w')) :
    ∃ f, Descriptor.unwrapMethod w'.store v = (f, g.descriptor.kind) ∧ w'.store.Guards f g := by
  obtain ⟨between, f, -, hf, hmade, -⟩ := run_attach_eq_ok h
  exact ⟨f, hf, g.toFunction between.store, hmade, g.toFunction_params _, g.toFunction_code _⟩

/-- Guarding a function describes it and puts a guard around it. -/
theorem Decoration.run_apply_guard {engine : Engine} {decoration : Decoration} {v v' : Value}
    {handled : Option Ref} {w w' : World}
    (h : (decoration.apply engine v).run handled w = (.ok v', w')) :
    ∃ d context, Descriptor.Describes w.store v d ∧
      w'.store.Guards (Descriptor.targetOf w'.store v') ⟨d, context, decoration.bindings⟩ := by
  obtain ⟨d, between, hdescribed, hrest⟩ := run_bind_eq_ok.mp h
  obtain ⟨context, between, -, hattach⟩ := run_bind_eq_ok.mp hrest
  obtain ⟨f, hf, hguards⟩ := Guard.run_attach hattach
  refine ⟨d, context, Descriptor.run_ofValue hdescribed, ?_⟩
  rw [Descriptor.targetOf, hf]
  exact hguards

/-- Guarding a function gives a guard around it. -/
theorem Decoration.run_apply {engine : Engine} {decoration : Decoration} {v v' : Value}
    {handled : Option Ref} {w w' : World}
    (h : (decoration.apply engine v).run handled w = (.ok v', w')) :
    ∃ g, w'.store.Guards (Descriptor.targetOf w'.store v') g ∧
      g.descriptor.target = Descriptor.targetOf w.store v ∧
      g.descriptor.asynchronous = w.store.isAsynchronous (Descriptor.targetOf w.store v) ∧
      w.store.signature false (Descriptor.targetOf w.store v) =
        .ok g.descriptor.callSignature ∧
      g.bindings = decoration.bindings := by
  obtain ⟨d, context, ⟨htarget, -, hasync, -, hsignature, -⟩, hguards⟩ := run_apply_guard h
  rw [htarget] at hasync hsignature
  exact ⟨⟨d, context, decoration.bindings⟩, hguards, htarget, hasync, hsignature, rfl⟩

/-- What calling a function gives is up to its code. -/
theorem Store.formOf_of_function? {s : Store} {v : Value} {f : Function}
    (hf : s.function? v = some f) : s.formOf v = f.code.form := by
  obtain ⟨r, c, attributes, rfl, hr⟩ := Store.exists_of_function? hf
  -- The function has a place in the store, so there is a step to look at it with.
  obtain ⟨n, hn⟩ := Nat.exists_eq_succ_of_ne_zero
    (Nat.ne_of_gt (Nat.zero_lt_of_lt (Store.index_lt_of_get? hr)))
  have htarget : s.targetWithin (.object r) s.objects.size = .object r := by
    simp only [hn, Store.targetWithin, hr]
  simp only [Store.formOf, htarget, hf]

/-- A guard gives what its target gives. -/
theorem Store.Guards.isAsynchronous {s : Store} {v : Value} {g : Guard} (h : s.Guards v g) :
    s.isAsynchronous v = g.descriptor.asynchronous := by
  obtain ⟨f, hf, -, hcode⟩ := h
  rw [Store.isAsynchronous, Store.formOf_of_function? hf, hcode, Code.form]
  cases g.descriptor.asynchronous <;> rfl

/-- The arguments that a guard takes are whatever it is given. -/
theorem Store.Guards.signature {s : Store} {v : Value} {g : Guard} (h : s.Guards v g) :
    s.signature false v = .ok Signature.everything := by
  obtain ⟨f, hf, hparams, -⟩ := h
  rw [← hparams]
  exact Store.signature_of_function? hf hf

/-- What holds of a stack that decorations build over a function which is described in a store. -/
structure Decoration.Built (s s' : Store) (f : Value) (decorations : List Decoration)
    (guards : List Guard) (v : Value) : Prop where
  stacked : Stacked s' (s.isAsynchronous f) f guards v
  length : guards.length = decorations.length
  bindings : ∀ g ∈ guards, ∃ decoration ∈ decorations, g.bindings = decoration.bindings
  callSignatures : ∀ upper innermost, guards = upper ++ [innermost] →
    s.signature false f = .ok innermost.descriptor.callSignature ∧
      ∀ g ∈ upper, g.descriptor.callSignature = Signature.everything

/-- Every guard takes whatever it is given, or what the function takes. -/
theorem Decoration.Built.signatures {s s' : Store} {f v : Value} {decorations : List Decoration}
    {guards : List Guard} (h : Decoration.Built s s' f decorations guards v) :
    ∀ g ∈ guards, g.descriptor.callSignature = Signature.everything ∨
      s.signature false f = .ok g.descriptor.callSignature := by
  intro g hg
  rcases List.eq_nil_or_concat guards with rfl | ⟨upper, innermost, rfl⟩
  · cases hg
  · obtain ⟨hinnermost, hupper⟩ := h.callSignatures upper innermost (List.concat_eq_append ..)
    rcases List.mem_append.mp (List.concat_eq_append .. ▸ hg) with hg | hg
    · exact .inl (hupper g hg)
    · obtain rfl := List.mem_singleton.mp hg
      exact .inr hinnermost

/-- Arguments that the function takes are taken by every guard. -/
theorem Decoration.Built.accepts {s s' : Store} {f v : Value} {decorations : List Decoration}
    {guards : List Guard} (h : Decoration.Built s s' f decorations guards v) {signature : Signature}
    (hsignature : s.signature false f = .ok signature) {args : List Value} {named : Named}
    (haccepts : signature.accepts args named) :
    ∀ g ∈ guards, g.descriptor.callSignature.accepts args named := by
  intro g hg
  rcases h.signatures g hg with heq | heq
  · rw [heq, Signature.accepts_everything]
  · cases hsignature.symm.trans heq
    exact haccepts

/-- Decorations that succeed build a stack. -/
theorem Decoration.run_applyAll {engine : Engine} {decorations : List Decoration} {v v' : Value}
    {handled : Option Ref} {w w' : World}
    (h : (Decoration.applyAll engine decorations v).run handled w = (.ok v', w')) :
    ∃ guards, Built w.store w'.store (Descriptor.targetOf w.store v) decorations guards
      (Descriptor.targetOf w'.store v') := by
  induction decorations generalizing v w with
  | nil =>
    cases h
    exact ⟨[], .bare, rfl, by simp, by simp⟩
  | cons decoration rest ih =>
    obtain ⟨inner, between, happly, hrest⟩ := run_bind_eq_ok.mp h
    obtain ⟨g, hguards, htarget, hasync, hsignature, hbindings⟩ := run_apply happly
    obtain ⟨guards, hbuilt⟩ := ih hrest
    have hkept := (keeps_of_run hrest).store.objects.guards hguards
    -- The guards above are asynchronous if this one is.
    have hform := hguards.isAsynchronous
    have hlower : Stacked w'.store g.descriptor.asynchronous
        (Descriptor.targetOf w.store v) [g] (Descriptor.targetOf between.store inner) :=
      .layer hkept rfl (htarget ▸ .bare)
    refine ⟨guards ++ [g], hasync ▸ hlower.trans (hform ▸ hbuilt.stacked), ?_, ?_, ?_⟩
    · simp [hbuilt.length]
    · intro g' hg'
      rcases List.mem_append.mp hg' with hg' | hg'
      · obtain ⟨found, hfound, heq⟩ := hbuilt.bindings g' hg'
        exact ⟨found, List.mem_cons_of_mem _ hfound, heq⟩
      · obtain rfl := List.mem_singleton.mp hg'
        exact ⟨decoration, List.mem_cons_self, hbindings⟩
    · intro upper innermost heq
      obtain ⟨rfl, hinnermost⟩ := List.append_inj' heq rfl
      cases hinnermost
      refine ⟨hsignature, fun g' hg' => ?_⟩
      -- What the guards above describe is a guard, and that takes everything.
      rcases hbuilt.signatures g' hg' with heq | heq
      · exact heq
      · rw [hguards.signature] at heq
        exact (Except.ok.inj heq).symm

/-! ## Small worlds -/

/-- A function without parameters, as an object. -/
def Object.function (code : Code) : Object :=
  ⟨Standard.function, [], .function
    { name := "f", qualifiedName := "f", doc := none, annotations := [], params := [],
      attributes := [], wrapped := none, code }⟩

/-- A guard over the function at a place, as an object. -/
def Object.guard (target : Ref) (context : ContextSource) : Object :=
  ⟨Standard.function, [], .function
    { name := "f", qualifiedName := "f", doc := none, annotations := [],
      params := Signature.everything, attributes := [], wrapped := some (.object target),
      code := .guard ⟨⟨.object target, [], [], false, none, .none⟩, context, defaultSet⟩ }⟩

/-- A world that holds some objects and nothing else. -/
def World.holding (objects : Array Object) : World :=
  { World.initial with store := ⟨objects, #[], #[]⟩ }

/-- A world that holds some objects, in which nothing is ever bound. -/
def World.unbound (objects : Array Object) : World :=
  { World.holding objects with sets := #[⟨[], [], .missing, Cache.empty false, Registry.initial⟩] }

end FaultContext
