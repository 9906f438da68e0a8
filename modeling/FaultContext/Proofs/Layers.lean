/-
# FaultContext.Proofs.Layers -- calls of functions with layers.

A layered function stands for the function at the bottom.  Each layer passes a call on in its own way
(`Function.PassesOn`), as a coroutine function or not, and a call of what is on top gets into the
body at the bottom with the arguments that come out of it (`HandsDown.enteredBy`).

Layers that only inject arguments put these before those of the call, so what they hand down is known
from the layers alone (`Store.Injects.of_handsDown`).

Following what a layered function stands for ends at the bottom, because no wrapper can come twice
on a way that ends (`Store.Wraps.unwrap`).
-/
import FaultContext.Proofs.PlainCalls
import Mathlib.Data.List.Perm.Subperm

namespace FaultContext

open Eval

/-! ## Layers -/

/-- A call of a layer passes arguments on to the target of the layer, and may wait for the result.
An injecting layer puts its arguments before those of the call; a relaying layer has parameters of
its own and passes on what it wants. -/
inductive Function.PassesOn (handled : Option Ref) (w : World) (layer : Function)
    (args : List Value) (named : Named) : Value → Bool → List Value → Named → Prop
  | inject {target : Value} {injected : List Value} {injectedNamed : Named} {waits : Bool} :
    layer.params = Signature.everything →
    layer.code = .inject target injected injectedNamed waits →
    (∀ n, named.has n → injectedNamed.has n = false) →
    PassesOn handled w layer args named target waits (injected ++ args) (injectedNamed ++ named)
  | relay {target : Value} {passed : List PassedArgument} {injected given : List Value}
    {injectedNamed slots givenNamed : Named} {waits : Bool} :
    layer.code = .relay target passed injected injectedNamed waits →
    layer.params.enter args named = .ok slots →
    (relayed ((w.store.function? target).getD layer) (layer.locals slots) passed injected
      injectedNamed).run handled w = (.ok (given, givenNamed), w) →
    PassesOn handled w layer args named target waits given givenNamed

/-- A call of a layered function hands arguments down, layer by layer, to the function at the
bottom, and no name twice.  A layer may only wait for a result in a call whose result is waited
for. -/
inductive HandsDown (handled : Option Ref) (w : World) (awaited : Bool) (bottom : Value) :
    Nat → Value → List Value → Named → List Value → Named → Prop
  | here {args : List Value} {named : Named} :
    HandsDown handled w awaited bottom 0 bottom args named args named
  | layer {n : Nat} {v target : Value} {layer : Function} {waits : Bool}
    {args given args' : List Value} {named givenNamed named' : Named} :
    w.store.function? v = some layer →
    layer.PassesOn handled w args named target waits given givenNamed →
    (givenNamed.map Prod.fst).Nodup → (waits = true → awaited = true) →
    HandsDown handled w awaited bottom n target given givenNamed args' named' →
    HandsDown handled w awaited bottom (n + 1) v args named args' named'

theorem joinNamed_of_disjoint (f : Function) {first second : Named}
    (h : ∀ n, second.has n → first.has n = false) :
    joinNamed f first second = pure (first ++ second) := by
  rw [joinNamed, List.find?_eq_none.mpr]
  intro entry hentry
  rw [Bool.not_eq_true]
  exact h entry.1 (Named.has_iff.mpr (List.mem_map_of_mem hentry))

theorem Signature.wellFormed_everything : Signature.everything.WellFormed := by
  refine ⟨rfl, by decide, fun p hp hcollector => ?_⟩
  rcases List.mem_pair.mp hp with rfl | rfl <;> rfl

namespace Function.PassesOn

variable {handled : Option Ref} {w : World} {layer : Function} {target : Value} {waits : Bool}
  {args given : List Value} {named givenNamed : Named}

/-- A layer that waits for the result is asynchronous itself. -/
theorem form (h : layer.PassesOn handled w args named target waits given givenNamed) :
    layer.code.form = if waits then .asynchronous else .direct := by
  cases h with
  | inject _ hcode => rw [hcode, Code.form]
  | relay hcode => rw [hcode, Code.form]

/-- The arguments of the call have fitted the layer. -/
theorem exists_slots (h : layer.PassesOn handled w args named target waits given givenNamed) :
    ∃ slots, layer.params.enter args named = .ok slots := by
  cases h with
  | inject hparams => exact ⟨_, hparams ▸ Signature.enter_everything args named⟩
  | relay _ henter => exact ⟨_, henter⟩

/-- The code of a layer is a call of its target. -/
theorem run_code (h : layer.PassesOn handled w args named target waits given givenNamed)
    (engine : Engine) :
    (engine.run layer args named).run handled w =
      (engine.complete waits target given givenNamed).run handled w := by
  have hlayered : (layered target layer).run handled w =
      (.ok ((w.store.function? target).getD layer), w) := rfl
  cases h with
  | inject _ hcode hdisjoint =>
    rw [Engine.run, hcode]
    dsimp only
    rw [run_bind_of_ok hlayered, joinNamed_of_disjoint _ hdisjoint]
    rfl
  | @relay passed injected given injectedNamed slots givenNamed waits hcode henter hrelayed =>
    have hentered : layer.enter args named = pure (layer.locals slots) := by
      rw [Function.enter, henter]
      rfl
    rw [Engine.run, hcode]
    dsimp only
    rw [hentered, run_bind_of_ok (run_pure (layer.locals slots)), run_bind_of_ok hlayered,
      run_bind_of_ok hrelayed]

end Function.PassesOn

theorem HandsDown.nodup {handled : Option Ref} {w : World} {awaited : Bool} {bottom v : Value}
    {n : Nat} {args args' : List Value} {named named' : Named}
    (h : HandsDown handled w awaited bottom n v args named args' named')
    (hnamed : (named.map Prod.fst).Nodup) : (named'.map Prod.fst).Nodup := by
  induction h with
  | here => exact hnamed
  | layer _ _ hgiven _ _ ih => exact ih hgiven

/-- Every function on the way down has been entered. -/
theorem HandsDown.exists_slots {handled : Option Ref} {w : World} {awaited : Bool}
    {bottom v : Value} {n : Nat} {args args' : List Value} {named named' slots : Named} {f : Function}
    (h : HandsDown handled w awaited bottom n v args named args' named')
    (hf : w.store.function? bottom = some f) (hslots : f.params.enter args' named' = .ok slots) :
    ∃ g own, w.store.function? v = some g ∧ g.params.enter args named = .ok own := by
  cases h with
  | here => exact ⟨f, slots, hf, hslots⟩
  | layer hlayer hpasses =>
    obtain ⟨own, hown⟩ := hpasses.exists_slots
    exact ⟨_, own, hlayer, hown⟩

/-! ## Getting to the bottom -/

/-- A computation gets into the body of a function, on an engine of a certain depth at least, and
the body sees what the slots hold.  What is done with its result is nothing, if the function gives
its result in the way that is asked for. -/
def Function.EnteredBy (f : Function) (slots : Named) (handled : Option Ref) (w : World)
    (awaited : Bool) (depth : Nat) (shelled : Bool) (m : Eval Value) : Prop :=
  ∃ deeper ≥ depth, ∃ body after, (Engine.within deeper).HasBody f body ∧
    (f.code.form = (if awaited then .asynchronous else .direct) → after = pure) ∧
    m.run handled w = (Guard.shell shelled (body (f.locals slots) >>= after)).run handled w

section Calls

variable {handled : Option Ref} {w : World} {awaited : Bool} {bottom v : Value} {n : Nat}
  {args args' : List Value} {named named' : Named}

/-- Being inside of two coroutines is being inside of one. -/
theorem run_asCoroutine_shell (shelled : Bool) (m : Eval Value) :
    (asCoroutine (Guard.shell shelled m)).run handled w = (asCoroutine m).run handled w := by
  cases shelled with
  | false => rfl
  | true => exact (endsNoIteration_asCoroutine m handled w).run_asCoroutine

theorem run_asCoroutine_congr {m m' : Eval Value} (h : m.run handled w = m'.run handled w) :
    (asCoroutine m).run handled w = (asCoroutine m').run handled w := by
  simp only [asCoroutine, enclosed, catching, catchingIf, h]

theorem run_shell_congr (asynchronous : Bool) {m m' : Eval Value}
    (h : m.run handled w = m'.run handled w) :
    (Guard.shell asynchronous m).run handled w = (Guard.shell asynchronous m').run handled w := by
  cases asynchronous with
  | false => exact h
  | true => exact run_asCoroutine_congr h

theorem run_bind_pure (m : Eval Value) :
    (m >>= pure).run handled w = m.run handled w := by
  rw [run_bind]
  split
  next h => rw [h]; rfl
  next h => rw [h]

theorem Engine.run_settle_congr (engine : Engine) (awaited : Bool) {m m' : Eval Value}
    (h : m.run handled w = m'.run handled w) :
    (engine.settle awaited m).run handled w = (engine.settle awaited m').run handled w := by
  simp only [settle, run_bind, h]

/-- A call of a function gets into its own body, unless the call only makes a coroutine that nobody
waits for. -/
theorem Function.enteredBy_call {f : Function} (hf : w.store.function? v = some f)
    (hown : f.code.isLayer = false) {slots : Named} (hslots : f.params.enter args named = .ok slots)
    (hform : f.code.form = .direct ∨ awaited = true ∧ f.code.form = .asynchronous)
    {depth deep waiting : Nat} (hdeep : depth ≤ deep) (hwaiting : depth ≤ waiting) :
    f.EnteredBy slots handled w awaited depth (f.code.form = .asynchronous)
      ((Engine.within (waiting + 1)).settle awaited
        ((Engine.within (deep + 1)).call v args named)) := by
  have hentered : f.enter args named = pure (f.locals slots) := by
    rw [Function.enter, hslots]
    rfl
  rcases hform with hdirect | ⟨rfl, hasync⟩
  · obtain ⟨body, hbody⟩ := (Engine.within deep).exists_body hown
    refine ⟨deep, hdeep, body, fun r => if awaited then (Engine.within (waiting + 1)).await r
      else pure r, hbody, fun hmatch => ?_, ?_⟩
    · cases awaited with
      | false => rfl
      | true => cases hdirect.symm.trans hmatch
    · have hcall : ((Engine.within (deep + 1)).call v args named).run handled w =
          (body (f.locals slots)).run handled w := by
        rw [run_call_function hf, Engine.callFunction, hdirect]
        show ((Engine.within deep).run f args named).run handled w = _
        rw [hbody, hentered]
        rfl
      rw [hdirect]
      exact Engine.run_settle_congr _ _ hcall
  · obtain ⟨body, hbody⟩ := (Engine.within waiting).exists_body hown
    refine ⟨waiting, hwaiting, body, pure, hbody, fun _ => rfl, ?_⟩
    rw [run_settle_of_asynchronous hf hasync hslots, hasync]
    refine run_asCoroutine_congr ?_
    rw [hbody, hentered, run_bind_of_ok (run_pure _), run_bind_pure]

/-- A call of a layered function gets into the body of the function at the bottom, through
coroutines if what is called is asynchronous. -/
theorem HandsDown.enteredBy
    (h : HandsDown handled w awaited bottom n v args named args' named') {f : Function}
    (hf : w.store.function? bottom = some f) (hown : f.code.isLayer = false) {slots : Named}
    (hslots : f.params.enter args' named' = .ok slots)
    (hform : f.code.form = .direct ∨ awaited = true ∧ f.code.form = .asynchronous)
    (depth deep waiting : Nat) (hdeep : depth + n ≤ deep) (hwaiting : depth + n ≤ waiting) :
    ∃ shelled, (shelled = true → awaited = true) ∧
      (∀ g, w.store.function? v = some g → g.code.form = .asynchronous → shelled = true) ∧
      f.EnteredBy slots handled w awaited depth shelled
        ((Engine.within (waiting + 1)).settle awaited
          ((Engine.within (deep + 1)).call v args named)) := by
  induction h generalizing deep waiting with
  | here =>
    refine ⟨f.code.form = .asynchronous, fun hasync => ?_, fun g hg hasync => ?_,
      f.enteredBy_call hf hown hslots hform hdeep hwaiting⟩
    · rcases hform with hdirect | ⟨hawaited, -⟩
      · simp [hdirect] at hasync
      · exact hawaited
    · obtain rfl := Option.some.inj (hf.symm.trans hg)
      exact decide_eq_true hasync
  | @layer n v target layer waits args given args' named givenNamed named' hv hpasses _ hwaits _ ih =>
    cases waits with
    | true =>
      -- What is below does its work inside of the coroutine of the layer.
      obtain rfl := hwaits rfl
      obtain ⟨own, hentered⟩ := hpasses.exists_slots
      obtain ⟨waiting, rfl⟩ : ∃ k, waiting = k + 1 := ⟨waiting - 1, by omega⟩
      obtain ⟨shelled, -, -, deeper, hdeeper, body, after, hbody, hafter, hrun⟩ :=
        ih hslots waiting waiting (by omega) (by omega)
      refine ⟨true, fun _ => rfl, fun _ _ _ => rfl, deeper, hdeeper, body, after, hbody, hafter, ?_⟩
      rw [run_settle_of_asynchronous hv hpasses.form hentered]
      refine (run_asCoroutine_congr ?_).trans (run_asCoroutine_shell shelled _)
      exact (hpasses.run_code _).trans hrun
    | false =>
      have hdirect : layer.code.form = .direct := hpasses.form
      obtain ⟨deep, rfl⟩ : ∃ k, deep = k + 1 := ⟨deep - 1, by omega⟩
      obtain ⟨shelled, hawaited, -, deeper, hdeeper, body, after, hbody, hafter, hrun⟩ :=
        ih hslots deep waiting (by omega) (by omega)
      refine ⟨shelled, hawaited, fun g hg hasync => ?_, deeper, hdeeper, body, after, hbody, hafter,
        (Engine.run_settle_congr _ _ ?_).trans hrun⟩
      · obtain rfl := Option.some.inj (hv.symm.trans hg)
        cases hdirect.symm.trans hasync
      · rw [run_call_function hv, Engine.callFunction, hdirect]
        exact (hpasses.run_code _).trans (run_complete_false _ _ _ _ _ _)

/-- A call of what is on top of the layers, whose result is waited for if that is asynchronous, gets
into the body at the bottom. -/
theorem HandsDown.enteredBy_complete
    (h : HandsDown handled w awaited bottom n v args named args' named') {f : Function}
    (hf : w.store.function? bottom = some f) (hown : f.code.isLayer = false) {slots : Named}
    (hslots : f.params.enter args' named' = .ok slots)
    (hform : f.code.form = .direct ∨ awaited = true ∧ f.code.form = .asynchronous)
    {outer : Function} (houter : w.store.function? v = some outer)
    (houterForm : outer.code.form = if awaited then .asynchronous else .direct) (depth : Nat) :
    f.EnteredBy slots handled w awaited depth awaited
      ((Engine.within (depth + 1 + n)).complete awaited v args named) := by
  obtain ⟨shelled, hawaited, hshelled, hentered⟩ :=
    h.enteredBy hf hown hslots hform depth (depth + n) (depth + n) (Nat.le_refl _) (Nat.le_refl _)
  have hsame : shelled = awaited := by
    cases awaited with
    | false => exact Bool.eq_false_iff.mpr fun h => nomatch hawaited h
    | true => exact hshelled _ houter houterForm
  subst hsame
  rw [Nat.add_right_comm]
  exact hentered

theorem Function.EnteredBy.withAttributes {f : Function} {slots : Named} {depth : Nat}
    {shelled : Bool} {m : Eval Value} (h : f.EnteredBy slots handled w awaited depth shelled m)
    (hown : f.code.isLayer = false) (attributes : Named) :
    Function.EnteredBy { f with attributes } slots handled w awaited depth shelled m := by
  obtain ⟨deeper, hdeeper, body, after, hbody, hafter, hrun⟩ := h
  exact ⟨deeper, hdeeper, body, after, hbody.withAttributes hown attributes, hafter, hrun⟩

end Calls

/-! ## What is at the bottom -/

/-- A value stands for another one, through a number of wrappers. -/
inductive Store.Wraps (s : Store) (bottom : Value) : Nat → Value → Prop
  | here : Wraps s bottom 0 bottom
  | layer {n : Nat} {v target : Value} :
    s.wrapped? v = some target → Wraps s bottom n target → Wraps s bottom (n + 1) v

section Bottom

variable {s : Store} {bottom v : Value} {n m : Nat}

theorem Store.wrapped?_of_function? {f : Function} (hf : s.function? v = some f) :
    s.wrapped? v = f.wrapped := by
  obtain ⟨r, c, attributes, rfl, hr⟩ := Store.exists_of_function? hf
  simp only [Store.wrapped?, hr]

/-- The way to something that is no wrapper itself has one length. -/
theorem Store.Wraps.unique (hbottom : s.wrapped? bottom = none) (h : s.Wraps bottom n v)
    (h' : s.Wraps bottom m v) : n = m := by
  induction h generalizing m with
  | here =>
    cases h' with
    | here => rfl
    | layer hv => cases hbottom.symm.trans hv
  | layer hv _ ih =>
    cases h' with
    | here => cases hbottom.symm.trans hv
    | layer hv' h' =>
      obtain rfl := Option.some.inj (hv.symm.trans hv')
      rw [ih h']

/-- No wrapper comes twice on this way. -/
theorem Store.Wraps.exists_refs (hbottom : s.wrapped? bottom = none) (h : s.Wraps bottom n v) :
    ∃ indices : List Nat, indices.length = n ∧ indices.Nodup ∧
      ∀ i ∈ indices, i < s.objects.size ∧ ∃ m ≤ n, s.Wraps bottom m (.object ⟨i⟩) := by
  induction h with
  | here => exact ⟨[], rfl, List.nodup_nil, by simp⟩
  | @layer n v target hv htarget ih =>
    obtain ⟨indices, hlength, hnodup, hindices⟩ := ih
    obtain ⟨r, rfl⟩ : ∃ r, v = .object r := by
      cases v with
      | object r => exact ⟨r, rfl⟩
      | _ => cases hv
    have hindex : r.index < s.objects.size := by
      cases hr : s.get? r with
      | some o => exact Store.index_lt_of_get? hr
      | none => simp [Store.wrapped?, hr] at hv
    have hself : s.Wraps bottom (n + 1) (.object r) := .layer hv htarget
    refine ⟨r.index :: indices, by simp [hlength], List.nodup_cons.mpr ⟨fun hmem => ?_, hnodup⟩, ?_⟩
    · obtain ⟨-, m, hm, hwraps⟩ := hindices r.index hmem
      have := hself.unique hbottom hwraps
      omega
    · intro i hi
      rcases List.mem_cons.mp hi with rfl | hi
      · exact ⟨hindex, n + 1, Nat.le_refl _, hself⟩
      · obtain ⟨hi, m, hm, hwraps⟩ := hindices i hi
        exact ⟨hi, m, Nat.le_succ_of_le hm, hwraps⟩

/-- Following the wrappers of a value leads to what it stands for. -/
theorem Store.Wraps.unwrap (hbottom : s.wrapped? bottom = none) (h : s.Wraps bottom n v) :
    s.unwrap v = bottom := by
  have hfollow : ∀ steps, n ≤ steps → s.unwrapWithin v steps = bottom := by
    induction h with
    | here =>
      intro steps _
      cases steps with
      | zero => rfl
      | succ steps => simp only [Store.unwrapWithin, hbottom]
    | layer hv _ ih =>
      intro steps hsteps
      obtain ⟨steps, rfl⟩ := Nat.exists_eq_succ_of_ne_zero (Nat.ne_of_gt (Nat.zero_lt_of_lt hsteps))
      simp only [Store.unwrapWithin, hv]
      exact ih steps (Nat.le_of_succ_le_succ hsteps)
  -- There are no more wrappers than objects.
  obtain ⟨indices, rfl, hnodup, hindices⟩ := h.exists_refs hbottom
  refine hfollow _ ?_
  have hsub := List.subperm_of_subset hnodup fun i hi => List.mem_range.mpr (hindices i hi).1
  simpa using hsub.length_le

end Bottom

/-- The signature that callers see is that of the function at the bottom. -/
theorem Store.Wraps.signature {s : Store} {bottom v : Value} {n : Nat} {f : Function}
    {params : Signature} (h : s.Wraps bottom n v) (hf : s.function? bottom = some f)
    (hunwrapped : f.wrapped = none) (hparams : s.signature true v = .ok params) :
    params = f.params := by
  have hunwrap := h.unwrap ((Store.wrapped?_of_function? hf).trans hunwrapped)
  obtain ⟨r, c, attributes, rfl, hr⟩ := Store.exists_of_function? hf
  obtain ⟨q, rfl⟩ : ∃ q, v = .object q := by
    cases h with
    | here => exact ⟨r, rfl⟩
    | layer hv =>
      cases v with
      | object q => exact ⟨q, rfl⟩
      | _ => cases hv
  rw [Store.signature, Store.signatureWithin] at hparams
  · cases hcallable : s.isCallable (.object q) with
    | true =>
      simp only [hcallable, Bool.not_true, Bool.false_eq_true, if_false, if_true, hunwrap, hr]
        at hparams
      exact (Except.ok.inj hparams).symm
    | false =>
      simp only [hcallable, Bool.not_false, if_true] at hparams
      cases hrepr : s.repr (.object q) <;> rw [hrepr] at hparams <;> cases hparams
  · rintro self f ⟨⟩

/-! ## Layers that only inject -/

/-- A function under layers that only inject arguments, and what these are in the end. -/
inductive Store.Injects (s : Store) (bottom : Value) : Value → List Value → Named → Prop
  | here : Injects s bottom bottom [] []
  | layer {v target : Value} {layer : Function} {injected more : List Value}
    {injectedNamed moreNamed : Named} {waits : Bool} :
    s.function? v = some layer → layer.code = .inject target injected injectedNamed waits →
    Injects s bottom target more moreNamed →
    Injects s bottom v (more ++ injected) (moreNamed ++ injectedNamed)

/-- Such layers hand down the arguments of a call behind their own, and no name twice. -/
theorem Store.Injects.of_handsDown {handled : Option Ref} {w : World} {awaited : Bool}
    {bottom v : Value} {n : Nat} {args args' injected : List Value}
    {named named' injectedNamed : Named} {f : Function} (hf : w.store.function? bottom = some f)
    (hown : f.code.isLayer = false) (hv : w.store.Injects bottom v injected injectedNamed)
    (h : HandsDown handled w awaited bottom n v args named args' named') :
    args' = injected ++ args ∧ named' = injectedNamed ++ named ∧
      ∀ n, named.has n → injectedNamed.has n = false := by
  induction h generalizing injected injectedNamed with
  | here =>
    cases hv with
    | here => exact ⟨rfl, rfl, fun _ _ => rfl⟩
    | layer hv hcode =>
      obtain rfl := Option.some.inj (hf.symm.trans hv)
      simp [hcode, Code.isLayer] at hown
  | layer hlayer hpasses _ _ _ ih =>
    cases hv with
    | here =>
      obtain rfl := Option.some.inj (hf.symm.trans hlayer)
      cases hpasses with
      | inject _ hcode => simp [hcode, Code.isLayer] at hown
      | relay hcode => simp [hcode, Code.isLayer] at hown
    | layer hv hcode' hrest =>
      obtain rfl := Option.some.inj (hlayer.symm.trans hv)
      cases hpasses with
      | inject hparams hcode hdisjoint =>
        cases hcode.symm.trans hcode'
        obtain ⟨rfl, rfl, hdisjoint'⟩ := ih hrest
        refine ⟨by simp, by simp, fun n hn => ?_⟩
        rw [Named.has_append, hdisjoint n hn, Bool.or_false]
        refine hdisjoint' n ?_
        rw [Named.has_append, hn, Bool.or_true]
      | relay hcode => cases hcode.symm.trans hcode'

/-! ## Layers as objects -/

/-- A layer over the function at a place, as an object. -/
def Object.wrapping (target : Ref) (params : Signature) (code : Code) : Object :=
  ⟨Standard.function, [], .function
    { name := "f", qualifiedName := "f", doc := none, annotations := [], params,
      attributes := [], wrapped := some (.object target), code }⟩

/-- A layer over the function at a place that injects positional arguments, as an object. -/
def Object.injecting (target : Ref) (injected : List Value) : Object :=
  .wrapping target Signature.everything (.inject (.object target) injected [] false)

end FaultContext
