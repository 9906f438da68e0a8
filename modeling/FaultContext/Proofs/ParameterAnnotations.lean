/-
# FaultContext.Proofs.ParameterAnnotations -- the annotations beside the return annotation.

All annotations of a function are resolved together, those of the parameters first.  So it is not
the return annotation alone that decides which binding is resolved before the first call.  Where the
annotations of the parameters can be resolved, and do nothing that the return annotation could tell,
they make no difference: functions with the same return annotation have the same hint, and
decorating them looks the same class up (`Descriptor.run_returnHint_fst`).  Where one of them cannot
be resolved yet there is no hint, whatever the return annotation is, and nothing is looked up.

An annotation may be a text, and what that evaluates may change the world.  What such an annotation
of a parameter leaves behind, the return annotation meets; nothing is promised about that, except
for return annotations without texts (`Descriptor.Unhindered`).
-/
import FaultContext.Proofs.Alike
import FaultContext.Proofs.Answering
import FaultContext.Proofs.Entering
import FaultContext.Proofs.Sparing

namespace FaultContext

open Eval

/-! ## Runs that come to the same -/

namespace Eval

variable {α : Type} {m : Eval α} {handled : Option Ref} {w w' : World}

/-- Two runs come to the same, with the same objects around. -/
structure SameEnd (ended ended' : Except Signal α × World) : Prop where
  result : ended'.1 = ended.1
  store : ended'.2.store = ended.2.store
  reporting : ended'.2.reporting = ended.2.reporting

theorem SameEnd.refl (ended : Except Signal α × World) : SameEnd ended ended := ⟨rfl, rfl, rfl⟩

/-- What reads objects comes to the same where the objects are the same. -/
theorem Reads.sameEnd (h : Reads m) (handled : Option Ref) (hstore : w'.store = w.store)
    (hreporting : w'.reporting = w.reporting) :
    SameEnd (m.run handled w) (m.run handled w') := by
  obtain ⟨told, htold⟩ := h
  rw [htold, htold, hstore]
  cases told w.store with
  | ok a => exact ⟨rfl, hstore, hreporting⟩
  | error problem =>
    show SameEnd ((fault problem).run handled w) ((fault problem).run handled w')
    rw [run_fault, run_fault, hstore]
    exact ⟨rfl, rfl, hreporting⟩

end Eval

/-! ## Annotations behind others -/

namespace TypeHint

variable {engine : Engine} {scope : NameScope} {params : Named} {handled : Option Ref}
  {w w' : World}

/-- Every annotation keeps its name. -/
theorem has_of_run_resolveNamed {hints : Named} (name : String)
    (h : (resolveNamed engine scope params).run handled w = (.ok hints, w')) :
    hints.has name = params.has name := by
  induction params generalizing hints w with
  | nil =>
    cases h
    rfl
  | cons annotation rest ih =>
    obtain ⟨r, _, -, h⟩ := run_bind_eq_ok.mp h
    obtain ⟨others, _, hothers, h⟩ := run_bind_eq_ok.mp h
    cases h
    rw [Named.has_cons, Named.has_cons, ih hothers]

/-- The annotation behind others is resolved when they are. -/
theorem run_resolveNamed_append (name : String) (r : Value) (handled : Option Ref) (w : World) :
    (resolveNamed engine scope (params ++ [(name, r)])).run handled w = (do
      let hints ← resolveNamed engine scope params
      let h ← resolve engine scope r
      return hints ++ [(name, h)]).run handled w := by
  induction params generalizing w with
  | nil =>
    show (resolve engine scope r >>= fun h => _).run handled w =
      (resolve engine scope r >>= fun h => _).run handled w
    rw [run_bind, run_bind]
    rcases (resolve engine scope r).run handled w with ⟨_ | h, w'⟩ <;> rfl
  | cons annotation params ih =>
    obtain ⟨first, v⟩ := annotation
    simp only [List.cons_append, resolveNamed, run_bind, ih]
    rcases (resolve engine scope v).run handled w with ⟨_ | v', w₁⟩
    · rfl
    · dsimp only
      rcases (resolveNamed engine scope params).run handled w₁ with ⟨_ | hints, w₂⟩
      · rfl
      · dsimp only [run_pure]
        rcases (resolve engine scope r).run handled w₂ with ⟨_ | h, w₃⟩ <;> rfl

end TypeHint

/-! ## The return annotation behind those of the parameters -/

/-- A function has a return annotation, which stands behind those of its parameters and may be
looked at. -/
structure Function.Returns (f : Function) (params : Named) (r : Value) : Prop where
  annotations : f.annotations = params ++ [("return", r)]
  distinct : params.has "return" = false
  typed : Descriptor.isUntyped f = false

namespace Descriptor

variable {engine : Engine} {scope : NameScope} {t : Value} {f : Function} {params : Named}
  {r : Value} {handled : Option Ref} {w w₁ : World}

theorem unaware_reporting : World.Unaware World.reporting := ⟨fun _ _ _ => rfl⟩

/-- An annotation is left open: that may be reported, and there is no hint. -/
def leaveOpen (v : Value) (x : Ref) : Eval Value := do
  if ← reading World.reporting unaware_reporting then
    addTrace ("Couldn't resolve return annotation of " ++ (← repr v) ++ ": " ++
      (← str (.object x)))
  return .none

/-- The annotations of the parameters are resolved first, and then the return annotation. -/
theorem run_returnHint_of_returns (hf : w.store.function? t = some f) (hr : f.Returns params r) :
    (returnHint engine t).run handled w =
      (catchingIf isDeferred (do
        let _ ← TypeHint.resolveNamed engine (scopeOf w.store t) params
        TypeHint.resolve engine (scopeOf w.store t) r) (leaveOpen t)).run handled w := by
  have hhas : f.annotations.has "return" = true := by
    rw [hr.annotations, Named.has_append]
    exact Bool.or_eq_true_iff.mpr (.inr rfl)
  have hresolved : (do
        let hints ← TypeHint.resolveNamed engine (scopeOf w.store t) f.annotations
        return (hints.get? "return").getD .none : Eval Value).run handled w =
      (do
        let _ ← TypeHint.resolveNamed engine (scopeOf w.store t) params
        TypeHint.resolve engine (scopeOf w.store t) r).run handled w := by
    rw [hr.annotations, run_bind, TypeHint.run_resolveNamed_append, run_bind, run_bind]
    rcases hparams : (TypeHint.resolveNamed engine (scopeOf w.store t) params).run handled w with
      ⟨_ | hints, w₁⟩
    · rfl
    · dsimp only [run_pure]
      rw [run_bind]
      rcases (TypeHint.resolve engine (scopeOf w.store t) r).run handled w₁ with ⟨_ | h, w₂⟩
      · rfl
      · -- None of the parameters has that name.
        have hnone : hints.get? "return" = none := by
          rw [Named.get?_eq_none_iff, TypeHint.has_of_run_resolveNamed "return" hparams,
            hr.distinct]
        dsimp only [run_pure]
        rw [Named.get?_append, hnone]
        rfl
  rw [returnHint, run_bind_of_ok run_store, annotated?_of_function? hf]
  dsimp only
  rw [hhas, hr.typed]
  show (catchingIf isDeferred _ (leaveOpen t)).run handled w = _
  simp only [catchingIf, hresolved]

/-- What follows once the annotations of the parameters have been resolved: the return annotation is
resolved where they have left the world. -/
theorem run_returnHint_of_resolved (hf : w.store.function? t = some f) (hr : f.Returns params r)
    {hints : Named}
    (hparams : (TypeHint.resolveNamed engine (scopeOf w.store t) params).run handled w =
      (.ok hints, w₁)) :
    (returnHint engine t).run handled w =
      (catchingIf isDeferred (TypeHint.resolve engine (scopeOf w.store t) r) (leaveOpen t)).run
        handled w₁ := by
  rw [run_returnHint_of_returns hf hr]
  simp only [catchingIf, run_bind_of_ok hparams]

/-- What follows if one of them cannot be resolved: nobody asks for the return annotation. -/
theorem run_returnHint_of_unresolved (hf : w.store.function? t = some f) (hr : f.Returns params r)
    {signal : Signal}
    (hparams : (TypeHint.resolveNamed engine (scopeOf w.store t) params).run handled w =
      (.error signal, w₁)) :
    (returnHint engine t).run handled w =
      match signal with
      | .raised x =>
        if isDeferred w₁.store x then (leaveOpen t x).run (some x) w₁
        else (.error (.raised x), w₁)
      | .exhausted => (.error .exhausted, w₁) := by
  rw [run_returnHint_of_returns hf hr]
  simp only [catchingIf, run_bind_of_error hparams]
  cases signal <;> rfl

/-- No hint comes of an annotation that is left open. -/
theorem eq_none_of_leaveOpen {x : Ref} {h : Value}
    (hrun : (leaveOpen t x).run handled w = (.ok h, w₁)) : h = .none := by
  obtain ⟨reporting, between, -, hrest⟩ := run_bind_eq_ok.mp hrun
  cases reporting with
  | false =>
    cases hrest
    rfl
  | true =>
    obtain ⟨_, _, -, hrest⟩ := run_bind_eq_ok.mp hrest
    obtain ⟨_, _, -, hrest⟩ := run_bind_eq_ok.mp hrest
    obtain ⟨_, _, -, hrest⟩ := run_bind_eq_ok.mp hrest
    cases hrest
    rfl

/-! ## The return annotation by itself -/

/-- An annotation is left open, for no function in particular. -/
def leaveOpenAlone (x : Ref) : Eval Value := do
  if ← reading World.reporting unaware_reporting then
    discard (str (.object x))
  return .none

/-- What a return annotation comes to by itself: the hint, or the value none where it is left open.
-/
def hintAlone (engine : Engine) (scope : NameScope) (r : Value) : Eval Value :=
  catchingIf isDeferred (TypeHint.resolve engine scope r) leaveOpenAlone

/-- Between two worlds nothing has happened that a return annotation could tell: nothing at all, or
nothing to the objects that an annotation without texts goes by. -/
def Unhindered (r : Value) (w w₁ : World) : Prop :=
  w₁ = w ∨ TypeHint.holdsText r = false ∧ w₁.store = w.store ∧ w₁.reporting = w.reporting

/-- Annotations of parameters without texts are in nobody's way. -/
theorem unhindered_of_textless {hints : Named}
    (htextless : ∀ annotation ∈ params, TypeHint.holdsText annotation.2 = false)
    (hparams : (TypeHint.resolveNamed engine scope params).run handled w = (.ok hints, w₁)) :
    Unhindered r w w₁ :=
  .inl ((TypeHint.reads_resolveNamed htextless).eq_of_run hparams)

theorem Unhindered.sameEnd (h : Unhindered r w w₁) (engine : Engine) (scope : NameScope)
    (handled : Option Ref) :
    SameEnd ((TypeHint.resolve engine scope r).run handled w)
      ((TypeHint.resolve engine scope r).run handled w₁) := by
  rcases h with rfl | ⟨htextless, hstore, hreporting⟩
  · exact .refl _
  · exact (TypeHint.reads_resolve htextless).sameEnd handled hstore hreporting

/-- Leaving an annotation open comes to the same whatever the function is. -/
theorem leaveOpen_fst {u u₁ : World} (hf : u₁.store.function? t = some f)
    (hstore : u₁.store = u.store) (hreporting : u₁.reporting = u.reporting) (x : Ref)
    (handled : Option Ref) :
    ((leaveOpen t x).run handled u₁).1 = ((leaveOpenAlone x).run handled u).1 := by
  have hname : (repr t).run handled u₁ = (.ok _, u₁) := run_repr_of_ok (Store.repr_of_function? hf)
  have hreads : Reads (str (.object x)) := .store_bind fun s => .lift (s.str (.object x))
  have hstr := hreads.sameEnd handled hstore hreporting
  rw [leaveOpen, leaveOpenAlone, run_bind, run_bind, run_reading, run_reading, hreporting]
  cases u.reporting with
  | false => rfl
  | true =>
    simp only [if_true]
    rw [run_bind_of_ok hname]
    generalize hended : (str (.object x)).run handled u = ended at hstr
    generalize hended₁ : (str (.object x)).run handled u₁ = ended₁ at hstr
    obtain ⟨result, u'⟩ := ended
    obtain ⟨result₁, u₁'⟩ := ended₁
    obtain rfl : result₁ = result := hstr.result
    cases result₁ with
    | error signal =>
      have hdiscard : (discard (str (.object x)) : Eval Unit).run handled u = (.error signal, u') :=
        run_bind_of_error hended
      rw [run_bind_of_error hended₁, run_bind_of_error hdiscard]
    | ok text =>
      have hdiscard : (discard (str (.object x)) : Eval Unit).run handled u = (.ok (), u') :=
        run_bind_of_ok hended
      rw [run_bind_of_ok hended₁, run_bind_of_ok hdiscard]
      rfl

/-- **The hint is what the return annotation comes to by itself**, as long as the annotations of the
parameters can be resolved and are not in its way. -/
theorem run_returnHint_fst (hf : w.store.function? t = some f) (hr : f.Returns params r)
    {hints : Named}
    (hparams : (TypeHint.resolveNamed engine (scopeOf w.store t) params).run handled w =
      (.ok hints, w₁)) (h : Unhindered r w w₁) :
    ((returnHint engine t).run handled w).1 =
      ((hintAlone engine (scopeOf w.store t) r).run handled w).1 := by
  have hsame := h.sameEnd engine (scopeOf w.store t) handled
  rw [run_returnHint_of_resolved hf hr hparams, hintAlone]
  simp only [catchingIf]
  rcases halone : (TypeHint.resolve engine (scopeOf w.store t) r).run handled w with ⟨ended, u⟩
  rcases hbehind : (TypeHint.resolve engine (scopeOf w.store t) r).run handled w₁ with ⟨ended₁, u₁⟩
  rw [halone, hbehind] at hsame
  obtain ⟨rfl, hstore, hreporting⟩ := hsame
  rcases ended₁ with (x | _) | hint
  · obtain ⟨attributes, hf₁⟩ :=
      ((keeps_of_run hparams).trans (keeps_of_run hbehind)).store.objects.function? hf
    dsimp only at hstore hreporting ⊢
    rw [hstore]
    split
    · exact leaveOpen_fst hf₁ hstore hreporting x (some x)
    · rfl
  · rfl
  · rfl

end Descriptor

/-! ## Decorating -/

/-- A text can be traced. -/
theorem Eval.exists_run_trace (handled : Option Ref) (w : World) (text : String) :
    ∃ w', (trace (pure text)).run handled w = (.ok (), w') := by
  rw [trace, run_bind, run_reading]
  dsimp only
  split
  · exact ⟨_, run_bind_of_ok (run_pure _)⟩
  · exact ⟨_, run_pure _⟩

namespace Guard

variable {g : Guard} {engine : Engine} {handled : Option Ref} {w : World}

/-- Puts a guard over its target, once the failures have been resolved ahead. -/
def emit (g : Guard) : Eval Value := do
  let f := g.toFunction (← store)
  rewrap g.descriptor.kind (← new ⟨Standard.function, [], .function f⟩)

theorem attach_eq (g : Guard) (engine : Engine) :
    g.attach engine = (do g.resolveAhead engine; g.emit) := rfl

/-- From there on nothing can go wrong. -/
theorem exists_run_emit (g : Guard) (handled : Option Ref) (w : World) :
    ∃ v w', g.emit.run handled w = (.ok v, w') := by
  rw [emit, run_bind_of_ok run_store]
  dsimp only
  rw [run_bind_of_ok (run_new _)]
  cases g.descriptor.kind with
  | none => exact ⟨_, _, rfl⟩
  | some kind => cases kind <;> exact ⟨_, _, rfl⟩

/-- The class that the hint names is looked up first. -/
theorem attach_of_named {P : Class} (h : TypeHint.failureType g.descriptor.hint = some P) :
    g.attach engine = (do discard (Resolution.lookup engine g.bindings (.cls P)); g.emit) := by
  rw [attach_eq, resolveAhead, h]

/-- Without a hint nothing is looked up. -/
theorem run_attach_of_unnamed {f : Function} (hf : w.store.function? g.descriptor.target = some f)
    (h : g.descriptor.hint = .none) :
    (g.attach engine).run handled w = (do
      trace (pure ("transform(" ++ f.shownName ++ "): failure types resolved on first failure"))
      g.emit).run handled w := by
  have hnone : TypeHint.failureType g.descriptor.hint = none := by
    simp only [h, TypeHint.failureType]
  have hahead : (g.resolveAhead engine).run handled w = (trace (pure
      ("transform(" ++ f.shownName ++ "): failure types resolved on first failure"))).run
        handled w := by
    rw [resolveAhead, hnone]
    exact run_bind_of_ok (Descriptor.run_name hf handled)
  rw [attach_eq, run_bind, run_bind, hahead]

end Guard

namespace Decoration

variable {engine : Engine} {decoration : Decoration} {v : Value} {d : Descriptor}
  {context : ContextSource} {handled : Option Ref} {w w' w'' : World}
  (hdescribed : (Descriptor.ofValue engine v).run handled w = (.ok d, w'))
  (hcontext : (decoration.context d).run handled w' = (.ok context, w''))
include hdescribed hcontext

/-- What is left of a decoration once its function is described and its context is ready. -/
theorem run_apply_of_context : (decoration.apply engine v).run handled w =
    (Guard.attach engine ⟨d, context, decoration.bindings⟩).run handled w'' :=
  (run_bind_of_ok hdescribed).trans (run_bind_of_ok hcontext)

/-- A decoration looks up the class that the hint names. -/
theorem run_apply_of_named {P : Class} (h : TypeHint.failureType d.hint = some P) :
    (decoration.apply engine v).run handled w = (do
      discard (Resolution.lookup engine decoration.bindings (.cls P))
      Guard.emit ⟨d, context, decoration.bindings⟩).run handled w'' := by
  rw [run_apply_of_context hdescribed hcontext, Guard.attach_of_named h]

/-- Without a hint a decoration looks nothing up, and it goes through. -/
theorem run_apply_of_unnamed {f : Function}
    (hf : w.store.function? (Descriptor.targetOf w.store v) = some f) (h : d.hint = .none) :
    (∃ v' u, (decoration.apply engine v).run handled w = (.ok v', u)) ∧
      (decoration.apply engine v).run handled w = (do
        trace (pure
          ("transform(" ++ f.shownName ++ "): failure types resolved on first failure"))
        Guard.emit ⟨d, context, decoration.bindings⟩).run handled w'' := by
  -- By then the function may have other attributes, but it has the same name.
  have hkeeps := (keeps_of_run hdescribed).trans (keeps_of_run hcontext)
  obtain ⟨attributes, hf'⟩ := hkeeps.store.objects.function? hf
  rw [← (Descriptor.run_ofValue hdescribed).target] at hf'
  have hattach : (Guard.attach engine ⟨d, context, decoration.bindings⟩).run handled w'' = _ :=
    Guard.run_attach_of_unnamed hf' h
  rw [run_apply_of_context hdescribed hcontext]
  refine ⟨?_, hattach⟩
  rw [hattach]
  obtain ⟨between, htraced⟩ := exists_run_trace handled w''
    ("transform(" ++ f.shownName ++ "): failure types resolved on first failure")
  obtain ⟨v', u, hemitted⟩ :=
    Guard.exists_run_emit ⟨d, context, decoration.bindings⟩ handled between
  exact ⟨v', u, (run_bind_of_ok htraced).trans hemitted⟩

end Decoration

/-- **The return annotation decides alone if those of the parameters let it.**  A function has a
return annotation.  The annotations of its parameters are resolved first, and what that ends with
tells what becomes of the return annotation.

If they can be resolved, the return annotation is resolved in the world that they leave.  If they
are not in its way, the hint is what it comes to by itself, and that for any two functions that
differ in the annotations of their parameters only.  If it comes to a type that names a class of
failures, decorating looks that class up.

If one of them raises an exception that leaves annotations open, there is no hint, whatever the
return annotation is, and decorating goes through without looking anything up.  Other exceptions end
the decoration. -/
theorem hint_behind_parameters {engine : Engine} {decoration : Decoration} {v : Value}
    {f : Function} {params : Named} {r : Value} {handled : Option Ref} {w : World}
    (hf : w.store.function? (Descriptor.targetOf w.store v) = some f) (hr : f.Returns params r) :
    let t := Descriptor.targetOf w.store v
    let scope := Descriptor.scopeOf w.store t
    let hint (t : Value) := (Descriptor.returnHint engine t).run handled w
    let decorated := (decoration.apply engine v).run handled w
    match (TypeHint.resolveNamed engine scope params).run handled w with
    | (.ok _, w₁) =>
      (∀ h u, (TypeHint.resolve engine scope r).run handled w₁ = (.ok h, u) →
        hint t = (.ok h, u)) ∧
      (Descriptor.Unhindered r w w₁ →
        (∀ t' f' params' hints w₁', w.store.function? t' = some f' → f'.Returns params' r →
          Descriptor.scopeOf w.store t' = scope →
          (TypeHint.resolveNamed engine scope params').run handled w = (.ok hints, w₁') →
          Descriptor.Unhindered r w w₁' → (hint t').1 = (hint t).1) ∧
        ∀ h u P, (TypeHint.resolve engine scope r).run handled w = (.ok h, u) →
          TypeHint.failureType h = some P →
          ∀ d w' context w'', (Descriptor.ofValue engine v).run handled w = (.ok d, w') →
            (decoration.context d).run handled w' = (.ok context, w'') →
            d.hint = h ∧ decorated = (do
              discard (Resolution.lookup engine decoration.bindings (.cls P))
              Guard.emit ⟨d, context, decoration.bindings⟩).run handled w'')
    | (.error (.raised x), w₁) =>
      if Descriptor.isDeferred w₁.store x then
        ∀ d w' context w'', (Descriptor.ofValue engine v).run handled w = (.ok d, w') →
          (decoration.context d).run handled w' = (.ok context, w'') →
          d.hint = .none ∧ (∃ v' u, decorated = (.ok v', u)) ∧ decorated = (do
            trace (pure
              ("transform(" ++ f.shownName ++ "): failure types resolved on first failure"))
            Guard.emit ⟨d, context, decoration.bindings⟩).run handled w''
      else hint t = (.error (.raised x), w₁)
    | (.error .exhausted, w₁) => hint t = (.error .exhausted, w₁) := by
  intro t scope hint decorated
  rcases hparams : (TypeHint.resolveNamed engine scope params).run handled w with
    ⟨(x | _) | hints, w₁⟩
  · -- The annotation of a parameter raises: the description of the function tells what comes of it.
    dsimp only
    have hhint := Descriptor.run_returnHint_of_unresolved hf hr hparams
    dsimp only at hhint
    split
    next hdeferred =>
      rw [if_pos hdeferred] at hhint
      intro d w' context w'' hdescribed hcontext
      have hd := Descriptor.run_returnHint_of_run_ofValue hdescribed
      have hnone := Descriptor.eq_none_of_leaveOpen (hhint.symm.trans hd)
      exact ⟨hnone, decoration.run_apply_of_unnamed hdescribed hcontext hf hnone⟩
    next hother =>
      rw [if_neg hother] at hhint
      exact hhint
  · exact Descriptor.run_returnHint_of_unresolved hf hr hparams
  · refine ⟨fun h u hresolved => ?_, fun hfree => ?_⟩
    · exact (Descriptor.run_returnHint_of_resolved hf hr hparams).trans
        (run_catchingIf_eq_ok.mpr (.inl hresolved))
    -- Both functions have the hint that the return annotation comes to alone.
    have halone := Descriptor.run_returnHint_fst hf hr hparams hfree
    refine ⟨?_, ?_⟩
    · intro t' f' params' hints' w₁' hf' hr' hscope hparams' hfree'
      rw [← hscope] at hparams'
      have halone' := Descriptor.run_returnHint_fst hf' hr' hparams' hfree'
      rw [hscope] at halone'
      exact halone'.trans halone.symm
    · intro h u P hresolved hP d w' context w'' hdescribed hcontext
      have hd := Descriptor.run_returnHint_of_run_ofValue hdescribed
      have hh : ((Descriptor.hintAlone engine scope r).run handled w).1 = .ok h :=
        congrArg Prod.fst (run_catchingIf_eq_ok.mpr (.inl hresolved))
      obtain rfl : d.hint = h := by
        rw [hd, hh] at halone
        exact Except.ok.inj halone
      exact ⟨rfl, decoration.run_apply_of_named hdescribed hcontext hP⟩

/-- A function that says that it fails with a text, and what the annotation of its parameter is. -/
def Function.failing (parameter : Value) : Function :=
  { name := "f", qualifiedName := "f", doc := none
    annotations := [("a", parameter), ("return", .generic (.standard .err) [.std .str])]
    params := [⟨"a", .standard, none⟩]
    attributes := [], wrapped := none
    code := .body .direct (.value .none) 0 none }

/-- Whether resolving has ended with an exception that leaves annotations open. -/
def leavesOpen : Except Signal Named × World → Bool
  | (.error (.raised x), w) => Descriptor.isDeferred w.store x
  | _ => false

theorem exists_of_leavesOpen {ended : Except Signal Named × World} (h : leavesOpen ended = true) :
    ∃ x w, ended = (.error (.raised x), w) ∧ Descriptor.isDeferred w.store x = true := by
  obtain ⟨(x | _) | hints, w⟩ := ended
  · exact ⟨x, w, rfl, h⟩
  · cases h
  · cases h

theorem exists_of_toBool {α : Type} {ended : Except Signal α × World} (h : ended.1.toBool = true) :
    ∃ a w, ended = (.ok a, w) := by
  obtain ⟨signal | a, w⟩ := ended
  · cases h
  · exact ⟨a, w, rfl⟩

/-- In a set without rules there is no binding for texts.  A function that says that it fails with
one cannot be decorated, unless its parameter has an annotation that cannot be resolved yet. -/
theorem unresolved_parameter_hides_failure :
    let w : World := { World.initial with
      store := { Store.empty with objects := #[
        ⟨Standard.function, [], .function (.failing (.std .int))⟩,
        ⟨Standard.function, [], .function (.failing (.str .fresh "Missing"))⟩] }
      sets := #[⟨[], [], .missing, .empty false, .initial⟩] }
    let decorated (r : Ref) := ((Decoration.source (.value (.str .fresh "context")) 0).apply
      (Engine.within 0) (.object r)).run none w
    Raises w .missingBinding ((Resolution.lookup (Engine.within 0) 0 (.std .str)).run none w) ∧
      Raises w .missingBinding (decorated ⟨0⟩) ∧ ∃ v w', decorated ⟨1⟩ = (.ok v, w') := by
  intro w decorated
  have hraises : Raises w .missingBinding ((Resolution.lookup (Engine.within 0) 0 (.std .str)).run none w) :=
    ⟨_, _, rfl, rfl, rfl, rfl⟩
  have hreturns : ∀ v, Function.Returns (.failing v) [("a", v)]
      (.generic (.standard .err) [.std .str]) := fun v => ⟨rfl, rfl, rfl⟩
  refine ⟨hraises, ?_, ?_⟩
  · obtain ⟨d, hdescribed, hcontext⟩ : ∃ d,
        (Descriptor.ofValue (Engine.within 0) (.object ⟨0⟩)).run none w = (.ok d, w) ∧
        (Decoration.context d (.source (.value (.str .fresh "context")) 0)).run none w =
          (.ok (.value (.str .fresh "context")), w) := ⟨_, rfl, rfl⟩
    have hresolved : (TypeHint.resolveNamed (Engine.within 0) (Descriptor.scopeOf w.store
        (Descriptor.targetOf w.store (.object ⟨0⟩))) [("a", .std .int)]).run none w =
          (.ok [("a", .std .int)], w) := rfl
    have hends := @hint_behind_parameters (Engine.within 0)
      (.source (.value (.str .fresh "context")) 0) (.object ⟨0⟩) _ _ _ none w rfl
      (hreturns (.std .int))
    dsimp only at hends
    rw [hresolved] at hends
    have htextless : ∀ annotation ∈ [("a", Value.std .int)],
        TypeHint.holdsText annotation.2 = false := by
      simp [TypeHint.holdsText]
    obtain ⟨-, hlooks⟩ := hends.2 (Descriptor.unhindered_of_textless htextless hresolved)
    obtain ⟨-, hdecorated⟩ := hlooks _ w (.standard .str) rfl rfl d w _ w hdescribed hcontext
    obtain ⟨x, w', hlookup, hx⟩ := hraises
    refine ⟨x, w', hdecorated.trans (run_bind_of_error ?_), hx⟩
    exact run_bind_of_error hlookup
  · obtain ⟨d, w₁, hdescribed⟩ := exists_of_toBool (show ((Descriptor.ofValue (Engine.within 0)
      (.object ⟨1⟩)).run none w).1.toBool = true by decide +kernel)
    obtain ⟨x, w₂, hunresolved, hdeferred⟩ := exists_of_leavesOpen (show leavesOpen
      ((TypeHint.resolveNamed (Engine.within 0) (Descriptor.scopeOf w.store
        (Descriptor.targetOf w.store (.object ⟨1⟩))) [("a", .str .fresh "Missing")]).run none w) =
          true by decide +kernel)
    have hends := @hint_behind_parameters (Engine.within 0)
      (.source (.value (.str .fresh "context")) 0) (.object ⟨1⟩) _ _ _ none w rfl
      (hreturns (.str .fresh "Missing"))
    dsimp only at hends
    rw [hunresolved] at hends
    dsimp only at hends
    rw [if_pos hdeferred] at hends
    exact (hends d w₁ _ w₁ hdescribed (run_pure _)).2.1

end FaultContext
