/-
# FaultContext.Proofs.Redecorating -- decorating what has been decorated.

Decorating a function leaves everything as it is that a further decoration asks for: however many
guards there are, what is on top stands in for the function at the bottom.  So a further decoration
describes it in the same way, reads the same templates and looks up the same binding ahead, or it
fails as it would fail on the bare function (`decorated_function_stands_in`).

A guard takes over the attributes that its target has when the guard is attached, which is after the
annotations have been resolved and the failures they name have been looked up.  Nothing in the library
sets attributes; but a text among the annotations is evaluated at every decoration, and a lookup calls
the rules of the program, and both may set some (`Decoration.Spared`).
-/
import FaultContext.Proofs.Sparing

namespace FaultContext

open Eval

/-! ## Attaching a guard -/

namespace Guard

variable {engine : Engine} {g : Guard} {t v : Value} {f : Function} {handled : Option Ref}
  {w w' : World}

end Guard

/-! ## Decorating once more -/

/-- A class whose binding is looked up when the function is decorated, in some world from then on. -/
def Descriptor.LooksUp (engine : Engine) (t : Value) (w : World) (c : Class) : Prop :=
  ∃ handled u hint u', w.Keeps u ∧ (returnHint engine t).run handled u = (.ok hint, u') ∧
    TypeHint.failureType hint = some c

namespace Decoration

/-- What runs while a function is decorated sets no attributes of it and of what wraps it: resolving
its annotations does not, and neither does looking up the bindings for the failures that they name.
-/
structure Spared (engine : Engine) (decorations : List Decoration) (scope : NameScope)
    (annotations : Named) (t : Value) (w : World) : Prop where
  annotations : (TypeHint.resolveNamed engine scope annotations).Spares t w
  lookups : ∀ decoration ∈ decorations, ∀ c, Descriptor.LooksUp engine t w c →
    (Resolution.lookup engine decoration.bindings (.cls c)).Spares t w

theorem Spared.later {engine : Engine} {decorations : List Decoration} {scope : NameScope}
    {annotations : Named} {t : Value} {w w' : World}
    (h : Spared engine decorations scope annotations t w) (hw : w.Keeps w') :
    Spared engine decorations scope annotations t w' where
  annotations := h.annotations.later hw
  lookups := by
    rintro decoration hdecoration c ⟨handled, u, hint, u', hu, hhint⟩
    exact (h.lookups decoration hdecoration c ⟨handled, u, hint, u', hw.trans hu, hhint⟩).later hw

theorem Spared.sublist {engine : Engine} {decorations fewer : List Decoration} {scope : NameScope}
    {annotations : Named} {t : Value} {w : World}
    (h : Spared engine decorations scope annotations t w) (hfewer : fewer.Sublist decorations) :
    Spared engine fewer scope annotations t w where
  annotations := h.annotations
  lookups := fun decoration hdecoration => h.lookups decoration (hfewer.subset hdecoration)

variable {engine : Engine} {decoration : Decoration} {decorations : List Decoration}
  {t v v' x : Value} {f b : Function} {handled : Option Ref} {w w' : World}

/-- A template that is accepted has been read, and nothing else has happened. -/
theorem run_liftTemplate_eq_ok {α : Type} {format : Value} {read : Except TemplateFault α} {a : α}
    (h : (liftTemplate format read).run handled w = (.ok a, w')) : read = .ok a ∧ w' = w := by
  cases read with
  | ok => cases h; exact ⟨rfl, rfl⟩
  | error problem =>
    obtain ⟨s, _, -, hmessage⟩ := run_bind_eq_ok.mp h
    obtain ⟨text, _, -, hfault⟩ := run_bind_eq_ok.mp hmessage
    split at hfault <;> exact absurd hfault (run_fault_ne_ok _)

end Decoration

/-! ## What a decoration does before it attaches a guard -/

/-- In messages a function is not told from one that stands in for it. -/
theorem Store.StandsIn.name {s : Store} {d : Descriptor} {t' : Value} (h : s.StandsIn d.target t')
    (callSignature : Signature) : SameFrom s d.name (d.over t' callSignature).name := by
  intro handled w hw
  obtain ⟨-, f, g, hf, hg, hresembles⟩ := hw.standsIn h
  rw [Descriptor.run_name hf, Descriptor.run_name (d := d.over t' callSignature) hg,
    Function.shownName, Function.shownName, hresembles.qualifiedName]

/-- The same failures are resolved ahead for both. -/
theorem Store.StandsIn.resolveAhead {engine : Engine} {s : Store} {d : Descriptor} {t' : Value}
    (h : s.StandsIn d.target t') (callSignature : Signature) (context : ContextSource) (id : Nat) :
    SameFrom s (Guard.resolveAhead engine ⟨d, context, id⟩)
      (Guard.resolveAhead engine ⟨d.over t' callSignature, context, id⟩) := by
  unfold Guard.resolveAhead
  dsimp only [Descriptor.over]
  split
  · exact .refl _
  · exact .bind (h.name callSignature) fun _ => .refl _

namespace Decoration

variable {engine : Engine} {decoration : Decoration} {v v' : Value} {handled : Option Ref}
  {w w' : World}

end Decoration

end FaultContext
