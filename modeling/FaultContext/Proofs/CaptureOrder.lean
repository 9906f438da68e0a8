/-
# FaultContext.Proofs.CaptureOrder -- which captures a failing call runs, and in which order.

A call of a decorated function is told layer by layer, from the innermost one: what has come from
below, which captures were run on account of it, and what has left the layer.  The captures are run
first, one after the other; all that a layer does then is a function of what they have given
(`Guard.conclude`), so no capture is run anywhere else.

Captures are code of the program, and may do anything, calls of other decorated functions included.
What these run is not part of the account.
-/
import FaultContext.Proofs.Merging
import FaultContext.Proofs.Redecorating
import FaultContext.Proofs.Rendering

namespace FaultContext

open Eval

/-! ## Ends of computations -/

/-- How a computation has ended, and the world that it has left. -/
abbrev Ending (α : Type) : Type := Except Signal α × World

namespace Ending

variable {α β : Type}

/-- Goes on with the value that a computation has ended with. -/
def andThen (handled : Option Ref) (ending : Ending α) (f : α → Eval β) : Ending β :=
  match ending with
  | (.ok a, w) => (f a).run handled w
  | (.error signal, w) => (.error signal, w)

/-- Handles the exception that a computation has ended with, if it belongs to a class. -/
def handling (c : Standard) (ending : Ending α) (handler : Ref → Eval α) : Ending α :=
  match ending with
  | (.error (.raised r), w) =>
    if w.store.isInstance (.object r) c then (handler r).run (some r) w else (.error (.raised r), w)
  | ended => ended

/-- What leaves a function whose code has ended, which is inside of a coroutine if the function is
asynchronous. -/
def leaving (asynchronous : Bool) (ending : Ending Value) : Ending Value :=
  if asynchronous then
    ending.handling .stopIteration
      (raiseNewFrom .runtimeError ("coroutine" ++ " raised StopIteration") [])
  else ending

end Ending

section

variable {α β : Type} {handled : Option Ref} {w : World}

theorem run_bind_eq_andThen (m : Eval α) (f : α → Eval β) :
    (m >>= f).run handled w = Ending.andThen handled (m.run handled w) f := by
  rw [run_bind]
  rcases m.run handled w with ⟨signal | a, u⟩ <;> rfl

theorem run_catching_eq_handling (c : Standard) (m : Eval α) (handler : Ref → Eval α) :
    (catching c m handler).run handled w = Ending.handling c (m.run handled w) handler := by
  simp only [catching, catchingIf]
  rcases m.run handled w with ⟨(r | _) | a, u⟩ <;> rfl

theorem run_shell_eq_leaving (asynchronous : Bool) (m : Eval Value) :
    (Guard.shell asynchronous m).run handled w = Ending.leaving asynchronous (m.run handled w) := by
  cases asynchronous with
  | false => rfl
  | true => exact run_catching_eq_handling _ _ _

end

/-! ## Runs of captures -/

/-- One run of a capture. -/
structure CaptureRun where
  capture : Capture
  start : World
  ending : Ending Value

namespace CaptureRun

/-- The values that captures have given, or the end of the first that has given none. -/
def gathered : World → List CaptureRun → Ending (List Value)
  | w, [] => (.ok [], w)
  | _, ⟨_, _, .error signal, u⟩ :: _ => (.error signal, u)
  | _, ⟨_, _, .ok v, u⟩ :: rest => Prod.map (Except.map (v :: ·)) id (gathered u rest)

/-- **Captures have been run as they are written**, each in the world that the one before has left,
and the first that gives no value is the last that is run. -/
structure InOrder (engine : Engine) (scope : Scope) (handled : Option Ref) (w : World)
    (captures : List Capture) (runs : List CaptureRun) : Prop where
  each : ∀ r ∈ runs, (r.capture.evaluate engine scope).run handled r.start = r.ending
  consecutive : runs.map start = (w :: runs.map fun r => r.ending.2).dropLast
  written : runs.map capture <+: captures
  whole : (∀ r ∈ runs, ∃ v, r.ending.1 = .ok v) → runs.map capture = captures
  final : ∀ earlier r later signal, runs = earlier ++ r :: later → r.ending.1 = .error signal →
    later = []

namespace InOrder

variable {engine : Engine} {scope : Scope} {handled : Option Ref} {w u : World} {c : Capture}
  {rest : List Capture} {runs : List CaptureRun}

theorem nil : InOrder engine scope handled w [] [] where
  each r hr := absurd hr List.not_mem_nil
  consecutive := rfl
  written := List.prefix_rfl
  whole _ := rfl
  final := by simp

/-- A capture that gives no value is the last that is run. -/
theorem stop {signal : Signal}
    (hc : (c.evaluate engine scope).run handled w = (.error signal, u)) :
    InOrder engine scope handled w (c :: rest) [⟨c, w, (.error signal, u)⟩] where
  each r hr := by
    obtain rfl := List.mem_singleton.mp hr
    exact hc
  consecutive := rfl
  written := ⟨rest, rfl⟩
  whole h := by
    obtain ⟨v, ⟨⟩⟩ := h _ List.mem_cons_self
  final earlier r later signal heq _ := by
    -- There is just one run, so it is the one that is asked about.
    rcases earlier with _ | ⟨first, _ | ⟨second, earlier⟩⟩
    · exact (List.cons.inj heq).2.symm
    · cases heq
    · cases heq

/-- After one that gives a value, the others are run. -/
theorem cons {v : Value} (hc : (c.evaluate engine scope).run handled w = (.ok v, u))
    (h : InOrder engine scope handled u rest runs) :
    InOrder engine scope handled w (c :: rest) (⟨c, w, (.ok v, u)⟩ :: runs) where
  each := List.forall_mem_cons.mpr ⟨hc, h.each⟩
  consecutive := by
    rw [List.map_cons, List.map_cons, List.dropLast_cons_cons, h.consecutive]
  written := (List.prefix_cons_inj c).mpr h.written
  whole hall := by
    rw [List.map_cons, h.whole fun r hr => hall r (List.mem_cons_of_mem _ hr)]
  final earlier r later signal heq hr := by
    rcases earlier with _ | ⟨first, earlier⟩
    · obtain ⟨rfl, -⟩ := List.cons.inj heq
      cases hr
    · exact h.final earlier r later signal (List.cons.inj heq).2 hr

end InOrder

end CaptureRun

namespace Template

variable {engine : Engine} {scope : Scope} {handled : Option Ref} {w : World}

/-- The captures that are run, which are all of them up to the first that gives no value. -/
def runs (engine : Engine) (scope : Scope) (handled : Option Ref) :
    World → List Capture → List CaptureRun
  | _, [] => []
  | w, c :: rest =>
    let ending := (c.evaluate engine scope).run handled w
    ⟨c, w, ending⟩ :: match ending with
      | (.error _, _) => []
      | (.ok _, u) => runs engine scope handled u rest

theorem runs_cons_of_ok {c : Capture} {v : Value} {u : World}
    (h : (c.evaluate engine scope).run handled w = (.ok v, u)) (rest : List Capture) :
    runs engine scope handled w (c :: rest) =
      ⟨c, w, (.ok v, u)⟩ :: runs engine scope handled u rest := by
  simp only [runs, h]

theorem runs_cons_of_error {c : Capture} {signal : Signal} {u : World}
    (h : (c.evaluate engine scope).run handled w = (.error signal, u)) (rest : List Capture) :
    runs engine scope handled w (c :: rest) = [⟨c, w, (.error signal, u)⟩] := by
  simp only [runs, h]

/-- Evaluating captures is running them and gathering their values. -/
theorem run_evaluateAll (captures : List Capture) :
    (evaluateAll engine scope captures).run handled w =
      CaptureRun.gathered w (runs engine scope handled w captures) := by
  induction captures generalizing w with
  | nil => rfl
  | cons c rest ih =>
    rw [evaluateAll, run_bind_eq_andThen]
    rcases hc : (c.evaluate engine scope).run handled w with ⟨signal | v, u⟩
    · rw [runs_cons_of_error hc]
      rfl
    · rw [runs_cons_of_ok hc, CaptureRun.gathered, ← ih, Ending.andThen, run_bind]
      rcases (evaluateAll engine scope rest).run handled u with ⟨signal | values, u'⟩ <;> rfl

theorem inOrder_runs (captures : List Capture) :
    CaptureRun.InOrder engine scope handled w captures
      (runs engine scope handled w captures) := by
  induction captures generalizing w with
  | nil => exact .nil
  | cons c rest ih =>
    rcases hc : (c.evaluate engine scope).run handled w with ⟨signal | v, u⟩
    · rw [runs_cons_of_error hc]
      exact .stop hc
    · rw [runs_cons_of_ok hc]
      exact ih.cons hc

/-- Captures in two lists are evaluated one list after the other. -/
theorem run_evaluateAll_append (first second : List Capture) :
    (evaluateAll engine scope (first ++ second)).run handled w =
      (do
        let values ← evaluateAll engine scope first
        let others ← evaluateAll engine scope second
        return values ++ others).run handled w := by
  -- Both sides stop at the first capture that gives no value, in either list.
  induction first generalizing w with
  | nil =>
    simp only [evaluateAll, List.nil_append, run_bind, run_pure]
    rcases (evaluateAll engine scope second).run handled w with ⟨signal | values, u⟩ <;> rfl
  | cons c rest ih =>
    simp only [evaluateAll, List.cons_append, run_bind, ih, run_pure]
    rcases (c.evaluate engine scope).run handled w with ⟨signal | v, u⟩
    · rfl
    · dsimp only
      rcases (evaluateAll engine scope rest).run handled u with ⟨signal | values, u'⟩
      · rfl
      · dsimp only
        rcases (evaluateAll engine scope second).run handled u' with ⟨signal | others, u''⟩ <;> rfl

/-- Fills the format text with the values of the captures, the positional ones first. -/
def fill (scope : Scope) (t : Template) (values : List Value) : Eval Value := do
  let named := values.drop t.positional.length
  let arguments := ⟨values.take t.positional.length, namesFor scope t.named named⟩
  let text ← lift (Format.render (← store) arguments t.format)
  return .str .fresh text

/-- Rendering a template is evaluating its captures, the positional ones first, and filling the
format text then. -/
theorem run_render_eq_andThen (t : Template) :
    (t.render engine scope).run handled w =
      Ending.andThen handled
        ((evaluateAll engine scope (t.positional ++ t.named)).run handled w) (t.fill scope) := by
  rw [run_evaluateAll_append, render, run_bind, run_bind]
  rcases hpositional : (evaluateAll engine scope t.positional).run handled w with
    ⟨signal | positional, u⟩
  · rfl
  dsimp only
  rw [run_bind, run_bind]
  rcases (evaluateAll engine scope t.named).run handled u with ⟨signal | named, u'⟩
  · rfl
  have hlength : t.positional.length = positional.length := (evaluated_of_run hpositional).length_eq
  simp only [run_pure, Ending.andThen, fill, hlength, List.take_left, List.drop_left]

end Template

namespace ContextSource

/-- The captures of a context, in the order in which they are written. -/
def captures : ContextSource → List Capture
  | .template t => t.positional ++ t.named
  | .value _ | .provider .. => []

/-- The context that is made of the values of the captures. -/
def finish (engine : Engine) (scope : Scope) (values : List Value) : ContextSource → Eval Value
  | .template t => t.fill scope values
  | .value v => pure v
  | .provider p true => engine.call p scope.args scope.named
  | .provider p false => engine.call p [] []

/-- Rendering a context is running its captures and making the context of their values. -/
theorem run_render (engine : Engine) (scope : Scope) (context : ContextSource)
    (handled : Option Ref) (w : World) :
    (context.render engine scope).run handled w =
      Ending.andThen handled
        (CaptureRun.gathered w (Template.runs engine scope handled w context.captures))
        fun values => context.finish engine scope values := by
  rw [← Template.run_evaluateAll]
  cases context with
  | template t => exact t.run_render_eq_andThen
  | value v => rfl
  | provider p passArguments => cases passArguments <;> rfl

end ContextSource

/-! ## Layers -/

namespace Guard

/-- What a guard makes of the values of its captures: a context, which is merged into the failure,
or the report that there is none. -/
def conclude (engine : Engine) (g : Guard) (p : Failure) (args : List Value) (named : Named)
    (handled : Option Ref) (values : Ending (List Value)) : Ending Value :=
  let scope := Scope.ofCall g.descriptor args named
  let context := values.andThen handled fun values => g.context.finish engine scope values
  ((context.handling .exception (g.unrendered p.value)).andThen handled
    (g.merging engine p)).leaving g.descriptor.asynchronous

end Guard

/-- One layer of a call: how the call below has ended, the captures that were run after that, and
how the call has left the layer. -/
structure Layer where
  guard : Guard
  arrived : Ending Value
  runs : List CaptureRun
  left : Ending Value

/-- What a guard does with the end of the call below. -/
def Guard.layer (engine : Engine) (g : Guard) (args : List Value) (named : Named)
    (handled : Option Ref) (arrived : Ending Value) : Layer :=
  match failureOf? arrived.2.store arrived.1 with
  | none => ⟨g, arrived, [], arrived⟩
  | some p =>
    let handled := handledAfter handled arrived.1
    let runs := Template.runs engine (Scope.ofCall g.descriptor args named) handled arrived.2
      g.context.captures
    ⟨g, arrived, runs, g.conclude engine p args named handled (CaptureRun.gathered arrived.2 runs)⟩

/-- The layers that the end of a call passes through, the innermost one first. -/
def unwind (args : List Value) (named : Named) (handled : Option Ref) :
    Nat → Ending Value → List Guard → List Layer
  | _, _, [] => []
  | depth, arrived, g :: rest =>
    let layer := g.layer (Engine.within depth) args named handled arrived
    layer :: unwind args named handled (depth + 1) layer.left rest

namespace Layer

/-- How a call has ended once it has left some layers. -/
def outcome (arrived : Ending Value) (layers : List Layer) : Ending Value :=
  layers.foldl (fun _ l => l.left) arrived

/-- A layer has nothing to do with a call that has not failed.  For a call that has, its captures
have been run in their order, and what has left the layer follows from what they have given. -/
structure InOrder (engine : Engine) (args : List Value) (named : Named) (handled : Option Ref)
    (l : Layer) : Prop where
  idle : failureOf? l.arrived.2.store l.arrived.1 = none → l.runs = [] ∧ l.left = l.arrived
  runs : ∀ p, failureOf? l.arrived.2.store l.arrived.1 = some p →
    CaptureRun.InOrder engine (Scope.ofCall l.guard.descriptor args named)
      (handledAfter handled l.arrived.1) l.arrived.2 l.guard.context.captures l.runs
  left : ∀ p, failureOf? l.arrived.2.store l.arrived.1 = some p →
    l.left = l.guard.conclude engine p args named (handledAfter handled l.arrived.1)
      (CaptureRun.gathered l.arrived.2 l.runs)

end Layer

section

variable {engine : Engine} {g : Guard} {guards : List Guard} {args : List Value} {named : Named}
  {handled : Option Ref} {call : Eval Value} {w : World} {arrived : Ending Value}

theorem Guard.layer_guard :
    (g.layer engine args named handled arrived).guard = g ∧
      (g.layer engine args named handled arrived).arrived = arrived := by
  rw [layer]
  split <;> exact ⟨rfl, rfl⟩

/-- A guard around a call does what its layer says. -/
theorem Guard.run_shell_eq_left (haccepts : g.descriptor.callSignature.accepts args named) :
    (Guard.shell g.descriptor.asynchronous (g.run engine args named call)).run handled w =
      (g.layer engine args named handled (call.run handled w)).left := by
  rcases hcall : call.run handled w with ⟨ended, u⟩
  rw [layer]
  cases hp : failureOf? u.store ended with
  | none =>
    exact run_shell_of_no_failure _ (run_of_no_failure hcall hp) hp
  | some p =>
    rw [run_shell_eq_leaving, run_of_failure haccepts hcall hp, run_bind_eq_andThen, render,
      run_catching_eq_handling, rendering, ContextSource.run_render]
    rfl

theorem Guard.inOrder_layer :
    (g.layer engine args named handled arrived).InOrder engine args named handled := by
  rw [layer]
  cases hp : failureOf? arrived.2.store arrived.1 with
  | none =>
    refine ⟨fun _ => ⟨rfl, rfl⟩, fun p h => ?_, fun p h => ?_⟩ <;> cases hp.symm.trans h
  | some p =>
    refine ⟨fun h => ?_, fun q h => ?_, fun q h => ?_⟩ <;> cases hp.symm.trans h
    · exact Template.inOrder_runs _
    · rfl

/-- The outermost layer is the last. -/
theorem unwind_concat (depth : Nat) :
    unwind args named handled depth arrived (guards ++ [g]) =
      unwind args named handled depth arrived guards ++
        [g.layer (Engine.within (depth + guards.length)) args named handled
          (Layer.outcome arrived (unwind args named handled depth arrived guards))] := by
  induction guards generalizing depth arrived with
  | nil => rfl
  | cons first rest ih =>
    simp only [List.cons_append, unwind, ih, List.length_cons]
    rw [show depth + 1 + rest.length = depth + (rest.length + 1) by omega]
    rfl

theorem guard_unwind (depth : Nat) :
    (unwind args named handled depth arrived guards).map Layer.guard = guards := by
  induction guards generalizing depth arrived with
  | nil => rfl
  | cons first rest ih => rw [unwind, List.map_cons, ih, Guard.layer_guard.1]

/-- What arrives at a layer is what has left the one below. -/
theorem arrived_unwind (depth : Nat) :
    (unwind args named handled depth arrived guards).map Layer.arrived =
      (arrived :: (unwind args named handled depth arrived guards).map Layer.left).dropLast := by
  induction guards generalizing depth arrived with
  | nil => rfl
  | cons first rest ih =>
    rw [unwind, List.map_cons, List.map_cons, List.dropLast_cons_cons, ih, Guard.layer_guard.2]

theorem inOrder_unwind {depth i : Nat} {l : Layer}
    (h : (unwind args named handled depth arrived guards)[i]? = some l) :
    l.InOrder (Engine.within (depth + i)) args named handled := by
  induction guards generalizing depth arrived i with
  | nil => cases h
  | cons first rest ih =>
    rw [unwind] at h
    cases i with
    | zero =>
      cases h
      exact Guard.inOrder_layer
    | succ i =>
      have hl := ih h
      rwa [Nat.add_right_comm] at hl

/-- **A call of a stack passes through its layers**, from the innermost one on. -/
theorem Stacked.run_complete_eq_outcome {asynchronous : Bool} {f v : Value}
    (hv : Stacked w.store asynchronous f guards v) {depth : Nat}
    (haccepts : ∀ g ∈ guards, g.descriptor.callSignature.accepts args named) :
    ((Engine.within (depth + guards.length)).complete asynchronous v args named).run handled w =
      Layer.outcome (((Engine.within depth).complete asynchronous f args named).run handled w)
        (unwind args named handled depth
          (((Engine.within depth).complete asynchronous f args named).run handled w)
          guards.reverse) := by
  induction hv with
  | bare => rfl
  | @layer g guards v hguards hasync _ ih =>
    subst hasync
    -- The guard is the last to see the call, which has left all layers below it by then.
    rw [List.reverse_cons, unwind_concat, Layer.outcome, List.foldl_concat, List.length_reverse,
      ← ih fun g hg => haccepts g (List.mem_cons_of_mem _ hg),
      ← Guard.run_shell_eq_left (haccepts g List.mem_cons_self)]
    exact complete_guard hguards (depth + guards.length) args named handled

end

/-! ## Captures of decorations -/

/-- There is only one stack of a given height. -/
theorem Stacked.unique {s : Store} {asynchronous asynchronous' : Bool} {f f' v : Value}
    {guards guards' : List Guard} (h : Stacked s asynchronous f guards v)
    (h' : Stacked s asynchronous' f' guards' v) (hlength : guards.length = guards'.length) :
    guards = guards' := by
  induction h generalizing guards' with
  | bare => exact (List.eq_nil_of_length_eq_zero hlength.symm).symm
  | layer hguards _ _ ih =>
    cases h' with
    | bare => cases hlength
    | layer hguards' _ hrest =>
      obtain rfl := hguards.unique hguards'
      rw [ih hrest (Nat.succ.inj hlength)]

namespace Decoration

variable {engine : Engine} {decoration : Decoration} {decorations : List Decoration}
  {v v' : Value} {handled : Option Ref} {w w' : World}

/-- The names and the sources of the captures in the order in which they are written, the positional
ones first. -/
def written : Decoration → List (Option String × Value)
  | .template _ args named _ => args.map (none, ·) ++ named.map fun (n, v) => (some n, v)
  | .source context _ => context.captures.map fun c => (c.name, c.source)

/-- A template has the captures that are written. -/
theorem captures_of_parse {s : Store} {format : String} {args : List Value} {named : Named}
    {params : List String} {t : Template}
    (h : Template.parse s format args named params = .ok t) :
    (t.positional ++ t.named).map (fun c => (c.name, c.source)) =
      args.map (none, ·) ++ named.map fun (n, v) => (some n, v) := by
  have hnamed := (Template.accepted_of_parse h).captures
  obtain ⟨positional, hpositional, h⟩ := except_bind_eq_ok.mp h
  obtain ⟨captures, -, h⟩ := except_bind_eq_ok.mp h
  obtain ⟨u, -, h⟩ := except_bind_eq_ok.mp h
  obtain ⟨_, -, h⟩ := except_bind_eq_ok.mp h
  cases h
  rw [List.map_append, hnamed]
  congr 1
  refine map_of_mapM (fun source c hc => ?_) hpositional
  obtain ⟨hname, hsource⟩ := Template.eq_of_capture hc
  rw [hname, hsource]

/-- A context has the captures that are written. -/
theorem captures_of_run_context {d : Descriptor} {context : ContextSource}
    (h : (decoration.context d).run handled w = (.ok context, w')) :
    context.captures.map (fun c => (c.name, c.source)) = decoration.written := by
  cases decoration with
  | source => cases h; rfl
  | template format args named id =>
    rw [Decoration.context, run_bind_of_ok run_store] at h
    obtain ⟨t, hparse, rfl⟩ := except_map_eq_ok.mp (run_liftTemplate_eq_ok h).1
    exact captures_of_parse hparse

/-- A decoration puts a guard on top that has its captures. -/
theorem run_apply_captures (h : (decoration.apply engine v).run handled w = (.ok v', w')) :
    ∃ g, w'.store.Guards (Descriptor.targetOf w'.store v') g ∧
      g.descriptor.target = Descriptor.targetOf w.store v ∧
      g.context.captures.map (fun c => (c.name, c.source)) = decoration.written := by
  obtain ⟨d, between, hdescribed, hrest⟩ := run_bind_eq_ok.mp h
  obtain ⟨context, between, hcontext, hattach⟩ := run_bind_eq_ok.mp hrest
  obtain ⟨f, hf, hguards⟩ := Guard.run_attach hattach
  refine ⟨⟨d, context, decoration.bindings⟩, ?_, (Descriptor.run_ofValue hdescribed).target,
    captures_of_run_context hcontext⟩
  rw [Descriptor.targetOf, hf]
  exact hguards

/-- The guards of a stack have the captures of the decorations that have built it. -/
theorem run_applyAll_captures {asynchronous : Bool} {f : Value} {guards : List Guard}
    (h : (applyAll engine decorations v).run handled w = (.ok v', w'))
    (hstacked : Stacked w'.store asynchronous f guards (Descriptor.targetOf w'.store v'))
    (hlength : guards.length = decorations.length) :
    List.Forall₂ (fun d g => g.context.captures.map (fun c => (c.name, c.source)) = d.written)
      decorations guards.reverse := by
  induction decorations generalizing v w f asynchronous guards with
  | nil =>
    rw [List.eq_nil_of_length_eq_zero hlength]
    exact .nil
  | cons decoration rest ih =>
    obtain ⟨inner, between, happly, hrest⟩ := run_bind_eq_ok.mp h
    obtain ⟨g, hguards, -, hcaptures⟩ := run_apply_captures happly
    obtain ⟨upper, hbuilt⟩ := run_applyAll hrest
    have hkept := (keeps_of_run hrest).store.objects.guards hguards
    -- This guard is below those of the other decorations.
    have hlower : Stacked w'.store g.descriptor.asynchronous g.descriptor.target [g]
        (Descriptor.targetOf between.store inner) := .layer hkept rfl .bare
    have hform := hguards.isAsynchronous
    have hwhole := hlower.trans (hform ▸ hbuilt.stacked)
    obtain rfl := hstacked.unique hwhole (by simp [hlength, hbuilt.length])
    rw [List.reverse_concat]
    exact .cons hcaptures (ih hrest hbuilt.stacked hbuilt.length)

end Decoration

/-- **Captures run once, in written order, and the innermost layer first.**  Decorations that
succeed are put around a function, the innermost first.  In any later world the function is called
with arguments that fit its own signature, and the call of the function itself ends in `ended`.

The decorated call, given as many more levels of nesting, passes through one layer for each
decoration.  What arrives at the innermost is the end of the call of the function, what arrives at
any other is what has left the one below, and the call ends in what has left the outermost.

A layer that no failure arrives at runs no captures and changes nothing.  Any other layer runs its
captures in the order in which the decoration lists them, the positional ones first: each in the
world that the one before has left, starting in the world in which the failure has arrived, and none
after the first that gives no value.  So those that are run are the first of those that are written,
and all of them if each gives a value.  What leaves the layer follows from what they have given. -/
theorem captures_run_in_written_order {engine : Engine} {decorations : List Decoration}
    {v v' : Value} {first : Option Ref} {w₀ w₁ : World}
    (hdecorated : (Decoration.applyAll engine decorations v).run first w₀ = (.ok v', w₁))
    {w : World} (hlater : w₁.store.Persists w.store) {signature : Signature}
    (hsignature : w₀.store.signature false (Descriptor.targetOf w₀.store v) = .ok signature)
    {args : List Value} {named : Named} (haccepts : signature.accepts args named) {depth : Nat}
    {handled : Option Ref} {ended : Except Signal Value} {u : World}
    (hcall : ((Engine.within depth).complete
      (w₀.store.isAsynchronous (Descriptor.targetOf w₀.store v))
      (Descriptor.targetOf w₀.store v) args named).run handled w = (ended, u)) :
    ∃ guards : List Guard,
      Stacked w.store (w₀.store.isAsynchronous (Descriptor.targetOf w₀.store v))
        (Descriptor.targetOf w₀.store v) guards.reverse (Descriptor.targetOf w₁.store v') ∧
      List.Forall₂ (fun d g => g.context.captures.map (fun c => (c.name, c.source)) = d.written)
        decorations guards ∧
      let layers := unwind args named handled depth (ended, u) guards
      layers.map Layer.guard = guards ∧
      layers.map Layer.arrived = ((ended, u) :: layers.map Layer.left).dropLast ∧
      ((Engine.within (depth + decorations.length)).complete
          (w₀.store.isAsynchronous (Descriptor.targetOf w₀.store v))
          (Descriptor.targetOf w₁.store v') args named).run handled w =
        Layer.outcome (ended, u) layers ∧
      ∀ (i : ℕ) (l : Layer), layers[i]? = some l →
        l.InOrder (Engine.within (depth + i)) args named handled := by
  obtain ⟨guards, hbuilt⟩ := Decoration.run_applyAll hdecorated
  have hstacked := hbuilt.stacked.persists hlater
  have hguards : ∀ g ∈ guards, g.descriptor.callSignature.accepts args named := by
    intro g hg
    -- Only the innermost guard has parameters that arguments could fail to fit.
    rcases hbuilt.signatures g hg with heq | heq
    · rw [heq, Signature.accepts_everything]
    · cases hsignature.symm.trans heq
      exact haccepts
  refine ⟨guards.reverse, guards.reverse_reverse.symm ▸ hstacked,
    Decoration.run_applyAll_captures hdecorated hbuilt.stacked hbuilt.length,
    guard_unwind depth, arrived_unwind depth, ?_, fun i l => inOrder_unwind⟩
  rw [← hbuilt.length, hstacked.run_complete_eq_outcome hguards, hcall]

/-- A world with a function that raises an exception, one that returns a number, and one that raises
another exception. -/
def World.failing : World :=
  .holding #[
    .function (.body .direct (.operation .raise [.construct (.name "ValueError") []]) 0 none),
    .function (.body .direct (.value (.int 5)) 0 none),
    .function (.body .direct (.operation .raise [.construct (.name "KeyError") []]) 0 none)]

/-- A template with three captures, of which the second raises an exception, and one with a single
capture around it. -/
def Decoration.twoTemplates : List Decoration :=
  [.template "\x7b\x7d\x7b\x7d\x7bx\x7d" [.object ⟨1⟩, .object ⟨2⟩] [("x", .object ⟨1⟩)] defaultSet,
    .template "\x7b\x7d" [.object ⟨1⟩] [] defaultSet]

/-- The guards that these make of the first function, the innermost first. -/
def Guard.ofTwoTemplates : List Guard :=
  [⟨⟨.object ⟨0⟩, [], [], false, none, .none⟩,
      .template ⟨"\x7b\x7d\x7b\x7d\x7bx\x7d",
        [⟨none, .object ⟨1⟩, some [], false⟩, ⟨none, .object ⟨2⟩, some [], false⟩],
        [⟨some "x", .object ⟨1⟩, some [], false⟩]⟩, defaultSet⟩,
    ⟨⟨.object ⟨3⟩, [], Signature.everything, false, none, .none⟩,
      .template ⟨"\x7b\x7d", [⟨none, .object ⟨1⟩, some [], false⟩], []⟩, defaultSet⟩]

/-- The second capture of the inner template raises an exception, so the third is not run, and the
outer template runs its capture for the report about that. -/
theorem raising_capture_last :
    ∃ w₁ guards, (Decoration.applyAll (Engine.within 0) Decoration.twoTemplates (.object ⟨0⟩)).run
        none .failing = (.ok (.object ⟨4⟩), w₁) ∧
      let arrived := ((Engine.within 2).complete false (.object ⟨0⟩) [] []).run none w₁
      let layers := unwind [] [] none 2 arrived guards
      ((Engine.within 4).complete false (.object ⟨4⟩) [] []).run none w₁ =
        Layer.outcome arrived layers ∧
      layers.map (fun l => l.runs.map fun r => (r.capture.name, r.ending.1.toBool)) =
        [[(none, true), (none, false)], [(none, true)]] := by
  have hruns : (unwind [] [] none 2 (((Engine.within 2).complete false (.object ⟨0⟩) [] []).run none
      ((Decoration.applyAll (Engine.within 0) Decoration.twoTemplates (.object ⟨0⟩)).run none
        .failing).2) Guard.ofTwoTemplates).map
          (fun l => l.runs.map fun r => (r.capture.name, r.ending.1.toBool)) =
        [[(none, true), (none, false)], [(none, true)]] := by decide +kernel
  -- From here on the world is only known by what it holds.
  obtain ⟨w₁, hw₁, hdecorated, htarget, hstacked⟩ : ∃ w₁, ((Decoration.applyAll (Engine.within 0)
      Decoration.twoTemplates (.object ⟨0⟩)).run none .failing).2 = w₁ ∧
      (Decoration.applyAll (Engine.within 0) Decoration.twoTemplates (.object ⟨0⟩)).run none
        .failing = (.ok (.object ⟨4⟩), w₁) ∧
      Descriptor.targetOf w₁.store (.object ⟨4⟩) = .object ⟨4⟩ ∧
      Stacked w₁.store false (.object ⟨0⟩) Guard.ofTwoTemplates.reverse (.object ⟨4⟩) := by
    refine ⟨_, rfl, Prod.ext (by with_unfolding_all rfl) rfl, by with_unfolding_all rfl, ?_⟩
    exact .layer ⟨_, by with_unfolding_all rfl, rfl, rfl⟩ rfl
      (.layer ⟨_, by with_unfolding_all rfl, rfl, rfl⟩ rfl .bare)
  rw [hw₁] at hruns
  rcases harrived : ((Engine.within 2).complete false (.object ⟨0⟩) [] []).run none w₁ with
    ⟨ended, u⟩
  have hsignature : World.failing.store.signature false
    (Descriptor.targetOf World.failing.store (.object ⟨0⟩)) = .ok [] := rfl
  have haccepts : Signature.accepts [] [] [] := rfl
  obtain ⟨guards, hguards, hwritten, -, -, hrun, -⟩ :=
    captures_run_in_written_order hdecorated (fun _ _ h => h) hsignature haccepts harrived
  rw [htarget] at hguards hrun
  have hreverse : guards.reverse = Guard.ofTwoTemplates.reverse := by
    refine hguards.unique hstacked ?_
    rw [List.length_reverse, ← hwritten.length_eq]
    rfl
  obtain rfl := List.reverse_inj.mp hreverse
  rw [harrived] at hruns
  refine ⟨w₁, Guard.ofTwoTemplates, hdecorated, ?_⟩
  rw [harrived]
  exact ⟨hrun, hruns⟩

end FaultContext
