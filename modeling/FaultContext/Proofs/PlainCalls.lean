/-
# FaultContext.Proofs.PlainCalls -- calls of functions without layers.

A plain function has code of its own and stands for nothing else.  A call of one either gets into
the body, which then sees the slots of its parameters and nothing else of the call, or is refused
with the exception for arguments that do not fit.

What is described of a plain function, from outside as well as from inside, are its parameters.
-/
import FaultContext.Proofs.FailureBranch
import FaultContext.Proofs.Matching

namespace FaultContext

open Eval

/-- Whether code is a layer around some other function. -/
def Code.isLayer : Code → Bool
  | .inject .. | .relay .. | .guard _ => true
  | .body .. | .rule _ | .phrase .. => false

/-- A function without layers, with parameters as functions have them. -/
structure Function.Plain (f : Function) : Prop where
  unwrapped : f.wrapped = none
  own : f.code.isLayer = false
  params : f.params.WellFormed

/-- What a body sees of the slots of its parameters. -/
def Function.locals (f : Function) (slots : Named) : Named :=
  f.localNames.filterMap fun n => (slots.get? n).map (n, ·)

/-- The exception for arguments that do not fit. -/
def Function.refusal (f : Function) (problem : CallFault) : Eval Value :=
  fault (.call f.qualifiedName problem)

/-- A refusal is an exception about types. -/
theorem run_refusal (f : Function) (problem : CallFault) (handled : Option Ref) (w : World) :
    ∃ e w', (f.refusal problem).run handled w = (.error (.raised e), w') ∧
      w'.store.classOf (.object e) = Standard.typeError := by
  refine ⟨_, _, rfl, ?_⟩
  dsimp only
  exact (Store.keeps_raising _ _ handled).objects.classOf (w.store.get?_insert _)

/-- It does not end an iteration. -/
theorem Function.endsNoIteration_refusal (f : Function) (problem : CallFault)
    (handled : Option Ref) (w : World) : (f.refusal problem).EndsNoIteration handled w := by
  intro r w' hraised
  obtain ⟨e, u, hrefusal, hclass⟩ := run_refusal f problem handled w
  cases hrefusal.symm.trans hraised
  rw [Store.isInstance, hclass]
  rfl

namespace Engine

/-- The body of a function sees what its parameters hold and nothing else of a call. -/
def HasBody (engine : Engine) (f : Function) (body : Named → Eval Value) : Prop :=
  ∀ args named, engine.run f args named = f.enter args named >>= body

/-- A body that waits for nothing suspends as often as it says and then computes its value. -/
theorem hasBody_of_code (engine : Engine) {f : Function} {form : Form} {expr : Expr}
    {awaits : Nat} (hcode : f.code = .body form expr awaits none) :
    engine.HasBody f (fun locals => suspendTimes awaits >>= fun _ => expr.eval engine locals) := by
  intro args named
  simp only [run, hcode]

/-- The code of a plain function is a body. -/
theorem exists_body (engine : Engine) {f : Function} (hown : f.code.isLayer = false) :
    ∃ body, engine.HasBody f body := by
  cases hcode : f.code with
  | body form expr awaits awaited =>
    cases awaited with
    | none => exact ⟨_, engine.hasBody_of_code hcode⟩
    | some call =>
      refine ⟨fun locals => do
        suspendTimes awaits
        let r ← engine.await (← call.eval engine locals)
        expr.eval engine (locals ++ [("$r", r)]), fun args named => ?_⟩
      simp only [run, hcode]
  | rule rule =>
    refine ⟨fun locals =>
      Resolution.applyRule engine rule (locals.slot "typ") (locals.slot "ctx"),
      fun args named => ?_⟩
    rw [run, hcode]
  | phrase form body scope =>
    refine ⟨fun locals => do body.eval engine (scope.enter (← newFrame locals)),
      fun args named => ?_⟩
    rw [run, hcode]
  | inject => simp [hcode, Code.isLayer] at hown
  | relay => simp [hcode, Code.isLayer] at hown
  | guard => simp [hcode, Code.isLayer] at hown

/-- Its attributes have no part in it. -/
theorem HasBody.withAttributes {engine : Engine} {f : Function} {body : Named → Eval Value}
    (h : engine.HasBody f body) (hown : f.code.isLayer = false) (attributes : Named) :
    engine.HasBody { f with attributes } body := by
  intro args named
  refine Eq.trans ?_ (h args named)
  cases hcode : f.code with
  | body => rw [run, run, hcode]; rfl
  | rule => rw [run, run, hcode]; rfl
  | phrase => rw [run, run, hcode]; rfl
  | inject => simp [hcode, Code.isLayer] at hown
  | relay => simp [hcode, Code.isLayer] at hown
  | guard => simp [hcode, Code.isLayer] at hown

end Engine

section Calls

variable {w : World} {v : Value} {f : Function} {args : List Value} {named : Named}

/-- A call of an asynchronous function does not end an iteration: its code runs inside of a
coroutine, and arguments that do not fit are refused. -/
theorem endsNoIteration_complete (hf : w.store.function? v = some f)
    (hform : f.code.form = .asynchronous) (depth : Nat) (handled : Option Ref) :
    ((Engine.within depth).complete true v args named).EndsNoIteration handled w := by
  intro r w' hraised
  cases depth with
  | zero => cases hraised
  | succ depth =>
    cases henter : f.params.enter args named with
    | ok slots =>
      have hforms : f.code.form = if true then .asynchronous else .direct := hform
      rw [complete_of_enter hf hforms henter depth handled] at hraised
      exact endsNoIteration_asCoroutine _ handled w r w' hraised
    | error problem =>
      refine f.endsNoIteration_refusal problem handled w r w' (Eq.trans ?_ hraised)
      refine (run_bind_of_error ((run_call_function hf depth args named handled).trans ?_)).symm
      rw [Engine.callFunction, hform, Function.enter, henter]
      rfl

/-- A call whose arguments do not fit is refused before anything else happens. -/
theorem complete_of_refused (hf : w.store.function? v = some f) (hown : f.code.isLayer = false)
    {problem : CallFault} (hproblem : f.params.enter args named = .error problem)
    (asynchronous : Bool) (depth : Nat) (handled : Option Ref) :
    ((Engine.within (depth + 1)).complete asynchronous v args named).run handled w =
      (f.refusal problem).run handled w := by
  have henter : (f.enter args named).run handled w =
      (fault (.call f.qualifiedName problem) : Eval Named).run handled w := by
    rw [Function.enter, hproblem]
  have hcall : ((Engine.within (depth + 1)).call v args named).run handled w =
      (f.refusal problem).run handled w := by
    rw [run_call_function hf, Engine.callFunction]
    cases f.code.form with
    | direct =>
      obtain ⟨body, hbody⟩ := (Engine.within depth).exists_body hown
      show ((Engine.within depth).run f args named).run handled w = _
      rw [hbody]
      exact run_bind_of_error henter
    | asynchronous => exact run_bind_of_error (run_bind_of_error henter)
    | generator => exact run_bind_of_error (run_bind_of_error henter)
    | asynchronousGenerator => exact run_bind_of_error (run_bind_of_error henter)
  exact run_bind_of_error hcall

/-- A call whose arguments fit gets into the body. -/
theorem complete_of_fits (hf : w.store.function? v = some f) {asynchronous : Bool}
    (hform : f.code.form = if asynchronous then .asynchronous else .direct) {slots : Named}
    (hslots : f.params.enter args named = .ok slots) {depth : Nat} {body : Named → Eval Value}
    (hbody : (Engine.within depth).HasBody f body)
    (handled : Option Ref) :
    ((Engine.within (depth + 1)).complete asynchronous v args named).run handled w =
      (Guard.shell asynchronous (body (f.locals slots))).run handled w := by
  rw [complete_of_enter hf hform hslots, hbody, Function.enter, hslots]
  cases asynchronous <;> rfl

end Calls

/-! ## Descriptions of plain functions -/

section Described

variable {s : Store} {v : Value} {d : Descriptor} {f : Function}

theorem Store.unwrap_of_unwrapped (hf : s.function? v = some f) (hunwrapped : f.wrapped = none) :
    s.unwrap v = v := by
  obtain ⟨r, c, attributes, rfl, hr⟩ := Store.exists_of_function? hf
  rw [Store.unwrap]
  cases s.objects.size with
  | zero => rfl
  | succ n => simp only [Store.unwrapWithin, Store.wrapped?, hr, hunwrapped]

/-- Both signatures of a function that stands for nothing else are its parameters. -/
theorem Descriptor.Describes.of_unwrapped (h : Descriptor.Describes s v d)
    (hf : s.function? d.target = some f) (hunwrapped : f.wrapped = none) :
    d.signature = f.params ∧ d.callSignature = f.params := by
  have hbottom : s.function? (s.unwrap d.target) = some f := by
    rw [Store.unwrap_of_unwrapped hf hunwrapped, hf]
  have houter : s.signature true d.target = .ok f.params :=
    Store.signature_of_function? hf hbottom
  have hinner : s.signature false d.target = .ok f.params := Store.signature_of_function? hf hf
  rw [h.signature] at houter
  rw [h.callSignature] at hinner
  exact ⟨Except.ok.inj houter, Except.ok.inj hinner⟩

theorem Descriptor.Describes.of_plain (h : Descriptor.Describes s v d)
    (hf : s.function? d.target = some f) (hplain : f.Plain) :
    d.signature = f.params ∧ d.callSignature = f.params :=
  h.of_unwrapped hf hplain.unwrapped

/-- What has been described gives its result at once, or in a coroutine. -/
theorem Descriptor.Describes.form (h : Descriptor.Describes s v d)
    (hf : s.function? d.target = some f) :
    f.code.form = if d.asynchronous then .asynchronous else .direct := by
  obtain ⟨hgenerator, hasyncGenerator⟩ := h.notGenerator
  rw [h.asynchronous, Store.isAsynchronous]
  rw [Store.formOf_of_function? hf] at hgenerator hasyncGenerator ⊢
  cases hform : f.code.form <;> simp [hform] at hgenerator hasyncGenerator ⊢

end Described

/-- A function with some parameters, as an object. -/
def Object.taking (params : Signature) (code : Code) : Object :=
  ⟨Standard.function, [], .function
    { name := "f", qualifiedName := "f", doc := none, annotations := [], params,
      attributes := [], wrapped := none, code }⟩

end FaultContext
