/-
# FaultContext.Proofs.Suspending -- plain functions and coroutines under the same guard.

A function whose body does not wait for another coroutine can be written as a plain function or as
an asynchronous one that suspends a number of times.  Put under guards with the same context and the
same set of bindings, the two end in the same way: with the same value or the same exception, and in
worlds that differ in nothing but the number of suspensions (`decorated_coroutine_agrees`).

Nothing of what happens after the suspensions depends on how many there were, because no computation
does (`World.Steady`).  The guard of the coroutine does its work inside of a coroutine of its own,
which changes nothing unless an iteration is ended there.  What is left to show is that the two
guards say the same, for each of them describes a function of its own: of that they use the
signatures, which are equal, and the name.
-/
import FaultContext.Proofs.PlainCalls
import FaultContext.Proofs.Recalling

namespace FaultContext

open Eval

namespace Eval

variable {α β : Type}

/-! ## Computations that are ahead by some suspensions -/

/-- From some world, a computation ends as another one does, but for further suspensions. -/
def Delayed (n : Nat) (m m' : Eval α) (handled : Option Ref) (w : World) : Prop :=
  m'.run handled w = ((m.run handled w).1, (m.run handled w).2.suspended n)

/-- What comes next comes next in both. -/
theorem Delayed.bind {n : Nat} {m m' : Eval α} {handled : Option Ref} {w : World}
    (hw : w.scheduled = none) (h : Delayed n m m' handled w) (f : α → Eval β) :
    Delayed n (m >>= f) (m' >>= f) handled w := by
  have hscheduled := (m.steady handled).scheduled w hw
  rw [Delayed] at h
  rw [Delayed, run_bind, run_bind, h]
  rcases hrun : m.run handled w with ⟨_ | a, w'⟩
  · rfl
  · rw [hrun] at hscheduled
    exact ((f a).steady handled).suspended w' n hscheduled

/-- What is handled is handled in both. -/
theorem Delayed.catchingIf {n : Nat} {m m' : Eval α} {handled : Option Ref} {w : World}
    (hw : w.scheduled = none) (h : Delayed n m m' handled w) (test : Store → Ref → Bool)
    (handler : Ref → Eval α) :
    Delayed n (catchingIf test m handler) (catchingIf test m' handler) handled w := by
  have hscheduled := (m.steady handled).scheduled w hw
  rw [Delayed] at h
  rw [Delayed]
  dsimp only [Eval.catchingIf]
  rw [h]
  rcases hrun : m.run handled w with ⟨(r | _) | a, w'⟩
  · rw [hrun] at hscheduled
    dsimp only
    rw [World.store_suspended]
    split
    · exact ((handler r).steady (some r)).suspended w' n hscheduled
    · rfl
  · rfl
  · rfl

/-! ## Computations that are the same from some time on -/

/-- In all later worlds, computations do the same. -/
def SameFrom (s : Store) (m m' : Eval α) : Prop :=
  ∀ handled (w : World), s.Persists w.store → m'.run handled w = m.run handled w

variable {s : Store}

theorem SameFrom.refl (m : Eval α) : SameFrom s m m := fun _ _ _ => rfl

theorem SameFrom.bind {m m' : Eval α} {f f' : α → Eval β} (hm : SameFrom s m m')
    (hf : ∀ a, SameFrom s (f a) (f' a)) : SameFrom s (m >>= f) (m' >>= f') := by
  intro handled w hw
  have hkeeps := m.keeps handled w
  rw [run_bind, run_bind, hm handled w hw]
  rcases hrun : m.run handled w with ⟨_ | a, w'⟩
  · rfl
  · rw [hrun] at hkeeps
    exact hf a handled w' fun r core h => hkeeps.store.objects r core (hw r core h)

theorem SameFrom.catchingIf (test : Store → Ref → Bool) {m m' : Eval α}
    {handler handler' : Ref → Eval α} (hm : SameFrom s m m')
    (hhandler : ∀ r, SameFrom s (handler r) (handler' r)) :
    SameFrom s (catchingIf test m handler) (catchingIf test m' handler') := by
  intro handled w hw
  have hkeeps := m.keeps handled w
  dsimp only [Eval.catchingIf]
  rw [hm handled w hw]
  rcases hrun : m.run handled w with ⟨(r | _) | a, w'⟩
  · rw [hrun] at hkeeps
    dsimp only
    rw [hhandler r (some r) w' fun q core h => hkeeps.store.objects q core (hw q core h)]
  · rfl
  · rfl

end Eval

/-! ## Suspensions and coroutines -/

/-- With nothing scheduled, suspensions are counted and that is all. -/
theorem run_suspendTimes {w : World} (hw : w.scheduled = none) (handled : Option Ref) (n : Nat) :
    (suspendTimes n).run handled w = (.ok (), w.suspended n) := by
  induction n generalizing w with
  | zero => rfl
  | succ n ih =>
    have hdue : dueException.run handled (w.suspended 1) = (.ok none, w.suspended 1) := by
      rw [dueException, run_reading, World.due?_of_unscheduled (w := w.suspended 1) hw]
    have hsuspend : suspend.run handled w = (.ok (), w.suspended 1) :=
      (run_bind_of_ok rfl).trans ((run_bind_of_ok hdue).trans rfl)
    rw [suspendTimes, run_bind_of_ok hsuspend, ih (w := w.suspended 1) hw,
      World.suspended_suspended, Nat.add_comm]

/-- Further suspensions end no iteration. -/
theorem Eval.EndsNoIteration.delayed {α : Type} {m m' : Eval α} {n : Nat} {handled : Option Ref}
    {w : World} (h : m.EndsNoIteration handled w) (hm : Delayed n m m' handled w) :
    m'.EndsNoIteration handled w := by
  intro r w' hraised
  rw [Delayed, hraised, Prod.mk.injEq] at hm
  rw [hm.2, World.store_suspended]
  exact h r _ (Prod.ext hm.1.symm rfl)

/-! ## Guards that say the same -/

/-- The name of a function, as messages show it. -/
def Function.shownName (f : Function) : String :=
  if f.qualifiedName = "" then "<function  at 0x0>" else f.qualifiedName

theorem Descriptor.run_name {d : Descriptor} {f : Function} {w : World}
    (hf : w.store.function? d.target = some f) (handled : Option Ref) :
    d.name.run handled w = (.ok f.shownName, w) := by
  rw [name, run_bind, run_store]
  dsimp only
  rw [Store.qualifiedName?_of_function? hf, Function.shownName]
  split
  next heq =>
    have hempty : f.qualifiedName = "" := Option.some.inj heq
    rw [run_repr_of_ok (Store.repr_of_function? hf), if_pos hempty, hempty]
    rfl
  next heq => cases heq
  next found hfound heq =>
    cases heq
    rw [if_neg hfound, run_pure]

/-- Guards over two functions that they say the same of. -/
structure Guard.Matches (s : Store) (g g' : Guard) : Prop where
  context : g'.context = g.context
  bindings : g'.bindings = g.bindings
  signature : g'.descriptor.signature = g.descriptor.signature
  callSignature : g'.descriptor.callSignature = g.descriptor.callSignature
  names : ∃ f f', s.function? g.descriptor.target = some f ∧
    s.function? g'.descriptor.target = some f' ∧ f'.qualifiedName = f.qualifiedName

namespace Guard.Matches

variable {s : Store} {g g' : Guard} {engine : Engine} {args : List Value} {named : Named}

theorem name (h : g.Matches s g') : SameFrom s g.descriptor.name g'.descriptor.name := by
  intro handled w hw
  obtain ⟨f, f', hf, hf', hname⟩ := h.names
  obtain ⟨attributes, hf⟩ := hw.function? hf
  obtain ⟨attributes', hf'⟩ := hw.function? hf'
  rw [Descriptor.run_name hf, Descriptor.run_name hf', Function.shownName, Function.shownName]
  dsimp only
  rw [hname]

theorem rendering (h : g.Matches s g') :
    g'.rendering engine args named = g.rendering engine args named := by
  rw [Guard.rendering, Guard.rendering, h.context, Scope.ofCall, Scope.ofCall, Scope.argumentsOf,
    Scope.argumentsOf, h.signature, h.callSignature]

theorem render (h : g.Matches s g') (failure : Value) :
    SameFrom s (g.render engine failure args named) (g'.render engine failure args named) := by
  rw [Guard.render, Guard.render, h.rendering]
  exact .catchingIf _ (.refl _) fun exc => .bind h.name fun _ => .refl _

theorem raised (h : g.Matches s g') (exc : Ref) :
    SameFrom s (g.raised engine exc args named) (g'.raised engine exc args named) := by
  rw [Guard.raised, Guard.raised, h.callSignature]
  split
  · rw [merged, merged, h.bindings]
    exact .bind (h.render _) fun _ => .refl _
  · exact .refl _

theorem failing (h : g.Matches s g') (exc : Ref) :
    SameFrom s (g.failing engine args named exc) (g'.failing engine args named exc) :=
  .bind (h.raised exc) fun _ => .refl _

theorem returned (h : g.Matches s g') (result : Value) :
    SameFrom s (g.returned engine result args named) (g'.returned engine result args named) := by
  refine .bind (.refl _) fun s' => ?_
  split
  · exact .refl _
  · rw [h.bindings]
    exact .bind (h.render _) fun _ => .refl _

/-- Around the same call, the two guards do the same. -/
theorem run (h : g.Matches s g') (call : Eval Value) :
    SameFrom s (g.run engine args named call) (g'.run engine args named call) :=
  .bind (.catchingIf _ (.refl _) h.failing) h.returned

end Guard.Matches

/-! ## Functions that have been guarded -/

/-- A plain function and an asynchronous one that suspends a number of times and is the same
otherwise: it has the same name, the same parameters and the same body, and waits for nothing. -/
structure Function.Counterparts (k : Nat) (f f' : Function) : Prop where
  codes : ∃ expr, f.code = .body .direct expr 0 none ∧ f'.code = .body .asynchronous expr k none
  params : f'.params = f.params
  receiver : f'.receiver = f.receiver
  qualifiedName : f'.qualifiedName = f.qualifiedName
  unwrapped : f.wrapped = none ∧ f'.wrapped = none

theorem Function.Counterparts.withAttributes {k : Nat} {f f' : Function}
    (h : Function.Counterparts k f f') (attributes attributes' : Named) :
    Function.Counterparts k { f with attributes } { f' with attributes := attributes' } :=
  ⟨h.codes, h.params, h.receiver, h.qualifiedName, h.unwrapped⟩

/-- How often a call of an asynchronous function suspends that suspends a number of times in its
body: never if the arguments do not fit. -/
def Function.suspensions (f : Function) (k : Nat) (args : List Value) (named : Named) : Nat :=
  if (f.params.enter args named).isOk then k else 0

section Counterparts

variable {k depth : Nat} {f f' : Function} {v v' : Value} {args : List Value} {named : Named}
  {handled : Option Ref} {w : World}

/-- Without guards already, the asynchronous function ends as the plain one does, further
suspensions apart. -/
theorem Function.Counterparts.delayed (h : Function.Counterparts k f f')
    (hf : w.store.function? v = some f) (hf' : w.store.function? v' = some f')
    (hw : w.scheduled = none)
    (hends : ((Engine.within (depth + 1)).complete false v args named).EndsNoIteration handled w) :
    Delayed (f.suspensions k args named)
      ((Engine.within (depth + 1)).complete false v args named)
      ((Engine.within (depth + 1)).complete true v' args named) handled w := by
  obtain ⟨expr, hcode, hcode'⟩ := h.codes
  rw [Function.suspensions]
  cases henter : f.params.enter args named with
  | error problem =>
    have hown : f.code.isLayer = false := by rw [hcode, Code.isLayer]
    have hown' : f'.code.isLayer = false := by rw [hcode', Code.isLayer]
    have hproblem : f'.params.enter args named = .error problem := by rw [h.params, henter]
    have hrefusal : f'.refusal problem = f.refusal problem := by
      rw [Function.refusal, Function.refusal, h.qualifiedName]
    rw [Delayed, complete_of_refused hf hown henter, complete_of_refused hf' hown' hproblem,
      hrefusal]
    rfl
  | ok slots =>
    have hform : f.code.form = if false then .asynchronous else .direct := by rw [hcode]; rfl
    have hform' : f'.code.form = if true then .asynchronous else .direct := by rw [hcode']; rfl
    have hslots : f'.params.enter args named = .ok slots := by rw [h.params, henter]
    have hlocals : f'.locals slots = f.locals slots := by
      rw [Function.locals, Function.locals, Function.localNames, Function.localNames, h.params,
        h.receiver]
    let body := expr.eval (Engine.within depth) (f.locals slots)
    have hplain : ((Engine.within (depth + 1)).complete false v args named).run handled w =
        body.run handled w :=
      complete_of_fits hf hform henter ((Engine.within depth).hasBody_of_code hcode) handled
    have hdriven : ((Engine.within (depth + 1)).complete true v' args named).run handled w =
        (asCoroutine (suspendTimes k >>= fun _ => body)).run handled w := by
      rw [complete_of_fits hf' hform' hslots ((Engine.within depth).hasBody_of_code hcode')
        handled, hlocals]
      rfl
    have hbody : Delayed k body (suspendTimes k >>= fun _ => body) handled w := by
      rw [Delayed, run_bind_of_ok (run_suspendTimes hw handled k)]
      exact (body.steady handled).suspended w k hw
    have hends' : body.EndsNoIteration handled w := fun r w' hr => hends r w' (hplain.trans hr)
    rw [Delayed, hplain, hdriven, (hends'.delayed hbody).run_asCoroutine]
    exact hbody

/-- Under one guard each, which say the same of the two, they still end alike. -/
theorem Guard.Matches.delayed {n : Nat} {g g' : Guard} (h : g.Matches w.store g')
    (hv : w.store.Guards v g) (hv' : w.store.Guards v' g')
    (hasync : g.descriptor.asynchronous = false) (hasync' : g'.descriptor.asynchronous = true)
    (hw : w.scheduled = none)
    (hcall : Delayed n
      ((Engine.within depth).complete false g.descriptor.target args named)
      ((Engine.within depth).complete true g'.descriptor.target args named) handled w)
    (hends : ((Engine.within (depth + 1)).complete false v args named).EndsNoIteration handled w) :
    Delayed n ((Engine.within (depth + 1)).complete false v args named)
      ((Engine.within (depth + 1)).complete true v' args named) handled w := by
  have hplain := complete_guard hv depth args named handled
  have hdriven := complete_guard hv' depth args named handled
  rw [hasync] at hplain
  rw [hasync'] at hdriven
  let call := (Engine.within depth).complete false g.descriptor.target args named
  let call' := (Engine.within depth).complete true g'.descriptor.target args named
  have hrun : Delayed n (g.run (Engine.within depth) args named call)
      (g'.run (Engine.within depth) args named call') handled w := by
    rw [Delayed, h.run call' handled w fun _ _ hr => hr]
    exact Delayed.bind hw (Delayed.catchingIf hw hcall _ _) _
  have hends' : (g.run (Engine.within depth) args named call).EndsNoIteration handled w :=
    fun r w' hr => hends r w' (hplain.trans hr)
  rw [Delayed, hplain, hdriven]
  exact ((hends'.delayed hrun).run_asCoroutine).trans hrun

end Counterparts

/-- **Plain functions and coroutines agree under guards.**  A plain function and an asynchronous one
with the same name, parameters and body have been decorated, so that their guards have the same
context and the same set of bindings.  In any later world in which no exception is scheduled, unless
an iteration is ended by the plain function or by the decorated one, driving the coroutine of the
decorated asynchronous function gives what a call of the decorated plain function gives: the same
value or the same exception, and the same world, in which only the suspensions of the body have been
counted besides.  The guards have no part in these: without them, it is as many. -/
theorem decorated_coroutine_agrees {k : Nat} {f f' : Function}
    (hcounterparts : Function.Counterparts k f f') {engine engine' : Engine}
    {decoration decoration' : Decoration} {v v' top top' : Value} {first first' : Option Ref}
    {u u₁ q q₁ : World} (hf : u.store.function? (Descriptor.targetOf u.store v) = some f)
    (hdecorated : (decoration.apply engine v).run first u = (.ok top, u₁))
    (hf' : q.store.function? (Descriptor.targetOf q.store v') = some f')
    (hdecorated' : (decoration'.apply engine' v').run first' q = (.ok top', q₁))
    {d d' : Descriptor} {context : ContextSource} {bindings : Nat}
    (hguard : u₁.store.Guards (Descriptor.targetOf u₁.store top) ⟨d, context, bindings⟩)
    (hguard' : q₁.store.Guards (Descriptor.targetOf q₁.store top') ⟨d', context, bindings⟩)
    {w : World} (hlater : u₁.store.Persists w.store) (hlater' : q₁.store.Persists w.store)
    (hunscheduled : w.scheduled = none) {depth : Nat} {args : List Value} {named : Named}
    {handled : Option Ref}
    (hown : ((Engine.within (depth + 1)).complete false
      (Descriptor.targetOf u.store v) args named).EndsNoIteration handled w)
    (hends : ((Engine.within (depth + 2)).complete false
      (Descriptor.targetOf u₁.store top) args named).EndsNoIteration handled w) :
    (∃ ended w',
      ((Engine.within (depth + 2)).complete false
        (Descriptor.targetOf u₁.store top) args named).run handled w = (ended, w') ∧
      ((Engine.within (depth + 2)).complete true
        (Descriptor.targetOf q₁.store top') args named).run handled w =
        (ended, w'.suspended (f.suspensions k args named))) ∧
    ∃ ended w',
      ((Engine.within (depth + 1)).complete false
        (Descriptor.targetOf u.store v) args named).run handled w = (ended, w') ∧
      ((Engine.within (depth + 1)).complete true
        (Descriptor.targetOf q.store v') args named).run handled w =
        (ended, w'.suspended (f.suspensions k args named)) := by
  obtain ⟨expr, hcode, hcode'⟩ := hcounterparts.codes
  -- Each guard is the one that the decoration has made, and describes its own function.
  obtain ⟨_, _, hdescribed, hmade⟩ := Decoration.run_apply_guard hdecorated
  obtain ⟨_, _, hdescribed', hmade'⟩ := Decoration.run_apply_guard hdecorated'
  obtain rfl := congrArg Guard.descriptor (hmade.unique hguard)
  obtain rfl := congrArg Guard.descriptor (hmade'.unique hguard')
  have htarget := hdescribed.target ▸ hf
  have htarget' := hdescribed'.target ▸ hf'
  obtain ⟨hsignature, hcallSignature⟩ :=
    hdescribed.of_unwrapped htarget hcounterparts.unwrapped.1
  obtain ⟨hsignature', hcallSignature'⟩ :=
    hdescribed'.of_unwrapped htarget' hcounterparts.unwrapped.2
  have hasync : d.asynchronous = false := by
    simpa [hcode, Code.form] using hdescribed.form htarget
  have hasync' : d'.asynchronous = true := by
    simpa [hcode', Code.form] using hdescribed'.form htarget'
  -- In the later world, both functions are still there; only their attributes may have changed.
  have hkept : u.store.Persists w.store := fun r core hr =>
    hlater r core ((keeps_of_run hdecorated).store.objects r core hr)
  have hkept' : q.store.Persists w.store := fun r core hr =>
    hlater' r core ((keeps_of_run hdecorated').store.objects r core hr)
  obtain ⟨attributes, hnow⟩ := hkept.function? htarget
  obtain ⟨attributes', hnow'⟩ := hkept'.function? htarget'
  rw [← hdescribed.target] at hown ⊢
  rw [← hdescribed'.target]
  have hbare := (hcounterparts.withAttributes attributes attributes').delayed hnow hnow'
    hunscheduled hown
  refine ⟨⟨_, _, rfl, ?_⟩, _, _, rfl, hbare⟩
  have hmatches : Guard.Matches w.store ⟨d, context, bindings⟩ ⟨d', context, bindings⟩ := {
    context := rfl
    bindings := rfl
    signature := by rw [hsignature, hsignature', hcounterparts.params]
    callSignature := by rw [hcallSignature, hcallSignature', hcounterparts.params]
    names := ⟨_, _, hnow, hnow', hcounterparts.qualifiedName⟩ }
  exact hmatches.delayed (hlater.guards hguard) (hlater'.guards hguard') hasync hasync'
    hunscheduled hbare hends

/-- A function that returns a failure, plain and as a coroutine that suspends twice, under the same
text. -/
theorem returned_failure_agrees :
    let failing := Expr.operation .err [.value (.int 5)]
    let f : Function :=
      { name := "f", qualifiedName := "f", doc := none, annotations := [], params := [],
        attributes := [], wrapped := none, code := .body .direct failing 0 none }
    let f' := { f with code := .body .asynchronous failing 2 none }
    let w₀ := World.holding #[⟨Standard.function, [], .function f⟩,
      ⟨Standard.function, [], .function f'⟩]
    let decoration := Decoration.source (.value (.str .fresh "five")) defaultSet
    ∃ w₁ w₂ w₃ v,
      (decoration.apply (Engine.within 0) (.object ⟨0⟩)).run none w₀ = (.ok (.object ⟨2⟩), w₁) ∧
      (decoration.apply (Engine.within 0) (.object ⟨1⟩)).run none w₁ = (.ok (.object ⟨3⟩), w₂) ∧
      ((Engine.within 2).complete false (.object ⟨2⟩) [] []).run none w₂ = (.ok v, w₃) ∧
      ((Engine.within 2).complete true (.object ⟨3⟩) [] []).run none w₂ =
        (.ok v, w₃.suspended 2) := by
  intro failing f f' w₀ decoration
  obtain ⟨w₁, w₂, w₃, own, v, v', d, d', hdecorated, hf', hdecorated', htop, htop', hguard, hguard',
      hunscheduled, hown, hcall⟩ : ∃ w₁ w₂ w₃ own v v' d d',
      (decoration.apply (Engine.within 0) (.object ⟨0⟩)).run none w₀ = (.ok (.object ⟨2⟩), w₁) ∧
      w₁.store.function? (Descriptor.targetOf w₁.store (.object ⟨1⟩)) = some f' ∧
      (decoration.apply (Engine.within 0) (.object ⟨1⟩)).run none w₁ = (.ok (.object ⟨3⟩), w₂) ∧
      Descriptor.targetOf w₁.store (.object ⟨2⟩) = .object ⟨2⟩ ∧
      Descriptor.targetOf w₂.store (.object ⟨3⟩) = .object ⟨3⟩ ∧
      w₁.store.Guards (.object ⟨2⟩) ⟨d, .value (.str .fresh "five"), defaultSet⟩ ∧
      w₂.store.Guards (.object ⟨3⟩) ⟨d', .value (.str .fresh "five"), defaultSet⟩ ∧
      w₂.scheduled = none ∧
      ((Engine.within 1).complete false (.object ⟨0⟩) [] []).run none w₂ = (.ok v', own) ∧
      ((Engine.within 2).complete false (.object ⟨2⟩) [] []).run none w₂ = (.ok v, w₃) :=
    ⟨_, _, _, _, _, _, _, _, rfl, rfl, rfl, rfl, rfl, ⟨_, rfl, rfl, rfl⟩, ⟨_, rfl, rfl, rfl⟩, rfl,
      rfl, rfl⟩
  have hcounterparts : Function.Counterparts 2 f f' :=
    ⟨⟨failing, rfl, rfl⟩, rfl, rfl, rfl, rfl, rfl⟩
  obtain ⟨⟨ended, last, hplain, hdriven⟩, -⟩ :=
    decorated_coroutine_agrees hcounterparts rfl hdecorated hf' hdecorated'
      (htop.symm ▸ hguard) (htop'.symm ▸ hguard') (keeps_of_run hdecorated').store.objects
      (fun _ _ hr => hr) hunscheduled (endsNoIteration_of_ok hown)
      (endsNoIteration_of_ok (htop.symm ▸ hcall))
  rw [htop] at hplain
  rw [htop'] at hdriven
  rw [hcall] at hplain
  cases hplain
  exact ⟨w₁, w₂, w₃, v, hdecorated, hdecorated', hcall, hdriven⟩

end FaultContext
