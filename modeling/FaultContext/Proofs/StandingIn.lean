/-
# FaultContext.Proofs.StandingIn -- functions that stand in for others.

A function that wraps another one and shows what that one shows stands in for it: `StandsIn` is
about names, documentation, annotations and what calls give, and it holds of guards over guards
as well.  What has to be known about a function that is to be decorated is shown by every wrapper,
or it is found by going through all of them.  So describing the wrapper is describing the original
(`Descriptor.run_ofValue_over`): the descriptions differ in the function they are about, and in the
arguments that it takes itself (`Descriptor.over`).

There is one attribute that describing asks for, because it forbids to look at annotations.
-/
import FaultContext.Proofs.Layers
import FaultContext.Proofs.Suspending

namespace FaultContext

open Eval

/-! ## Wrappers persist -/

namespace Store.Persists

variable {s s' : Store} (h : s.Persists s')
include h

/-- An object of a kind that is for good keeps what it is made of. -/
theorem get? {r : Ref} {c : Class} {attributes : Named} {body : Body}
    (ho : s.get? r = some ⟨c, attributes, body⟩)
    (hbody : ∀ body', body'.core = body.core → body' = body) :
    ∃ attributes', s'.get? r = some ⟨c, attributes', body⟩ := by
  obtain ⟨⟨c', attributes', body'⟩, ho', hcore⟩ :=
    Option.map_eq_some_iff.mp (h r (c, body.core) (by rw [ho]; rfl))
  obtain ⟨rfl, hsame⟩ := Prod.mk.inj hcore
  exact ⟨attributes', hbody body' hsame ▸ ho'⟩

theorem static {r : Ref} {c : Class} {attributes : Named} {target : Value}
    (ho : s.get? r = some ⟨c, attributes, .static target⟩) :
    ∃ attributes', s'.get? r = some ⟨c, attributes', .static target⟩ :=
  h.get? ho (by rintro ⟨⟩ hcore <;> cases hcore; rfl)

theorem ofClass {r : Ref} {c : Class} {attributes : Named} {target : Value}
    (ho : s.get? r = some ⟨c, attributes, .ofClass target⟩) :
    ∃ attributes', s'.get? r = some ⟨c, attributes', .ofClass target⟩ :=
  h.get? ho (by rintro ⟨⟩ hcore <;> cases hcore; rfl)

/-- A wrapper goes on standing for what it stands for. -/
theorem wrapped? {v target : Value} (hv : s.wrapped? v = some target) :
    s'.wrapped? v = some target := by
  unfold Store.wrapped? at hv
  split at hv
  next r =>
    split at hv
    next c attributes f ho =>
      obtain ⟨attributes', hf⟩ := h.function? (v := .object r) (f := f) (by
        simp only [Store.function?, ho])
      exact (Store.wrapped?_of_function? hf).trans hv
    next ho =>
      obtain ⟨attributes', ho'⟩ := h.static ho
      simp only [Store.wrapped?, ho', hv]
    next ho =>
      obtain ⟨attributes', ho'⟩ := h.ofClass ho
      simp only [Store.wrapped?, ho', hv]
    next => cases hv
  next => cases hv

theorem wraps {bottom v : Value} {n : Nat} (hv : s.Wraps bottom n v) : s'.Wraps bottom n v := by
  induction hv with
  | here => exact .here
  | layer hv _ ih => exact .layer (h.wrapped? hv) ih

/-- A function is attached to a class in the same way from then on. -/
theorem unwrapMethod {v : Value} {f : Function}
    (hf : s.function? (Descriptor.targetOf s v) = some f) :
    Descriptor.unwrapMethod s' v = Descriptor.unwrapMethod s v := by
  cases v with
  | object r =>
    unfold Descriptor.targetOf at hf
    cases ho : s.get? r with
    | none => simp [Descriptor.unwrapMethod, Store.function?, ho] at hf
    | some o =>
      obtain ⟨c, attributes, body⟩ := o
      cases body with
      | static target =>
        obtain ⟨attributes', ho'⟩ := h.static ho
        simp only [Descriptor.unwrapMethod, ho, ho']
      | ofClass target =>
        obtain ⟨attributes', ho'⟩ := h.ofClass ho
        simp only [Descriptor.unwrapMethod, ho, ho']
      | _ =>
        -- Anything else is attached to no class: it is the function itself.
        replace hf : s.function? (.object r) = some f := by
          simpa only [Descriptor.unwrapMethod, ho] using hf
        obtain ⟨attributes', hf'⟩ := h.function? hf
        rw [Store.unwrapMethod_of_function? hf, Store.unwrapMethod_of_function? hf']
  | _ => rfl

end Store.Persists

/-! ## What functions show -/

/-- A function shows what another one shows: names, documentation and annotations, and calls that
give the same kind of thing. -/
structure Function.Resembles (g f : Function) : Prop where
  name : g.name = f.name
  qualifiedName : g.qualifiedName = f.qualifiedName
  doc : g.doc = f.doc
  annotations : g.annotations = f.annotations
  form : g.code.form = f.code.form

theorem Function.Resembles.refl (f : Function) : f.Resembles f := ⟨rfl, rfl, rfl, rfl, rfl⟩

theorem Function.Resembles.trans {e f g : Function} (h : g.Resembles f) (h' : f.Resembles e) :
    g.Resembles e where
  name := h.name.trans h'.name
  qualifiedName := h.qualifiedName.trans h'.qualifiedName
  doc := h.doc.trans h'.doc
  annotations := h.annotations.trans h'.annotations
  form := h.form.trans h'.form

namespace Store

variable {s s' : Store} {t t' t'' v bottom : Value} {f g b : Function} {n m : Nat}

/-- Wrappers can be put on wrappers. -/
theorem Wraps.trans (h : s.Wraps bottom n t) (h' : s.Wraps t m v) :
    s.Wraps bottom (n + m) v := by
  induction h' with
  | here => exact h
  | layer hv _ ih => exact .layer hv ih

/-- A function wraps another one, through whatever is between them, and shows what that one shows.
-/
structure StandsIn (s : Store) (t t' : Value) : Prop where
  wraps : ∃ n, s.Wraps t n t'
  resembles : ∃ f g, s.function? t = some f ∧ s.function? t' = some g ∧ g.Resembles f

theorem StandsIn.refl (hf : s.function? t = some f) : s.StandsIn t t :=
  ⟨⟨0, .here⟩, f, f, hf, hf, .refl f⟩

theorem StandsIn.trans (h : s.StandsIn t t') (h' : s.StandsIn t' t'') : s.StandsIn t t'' := by
  obtain ⟨⟨n, hwraps⟩, f, g, hf, hg, hshows⟩ := h
  obtain ⟨⟨m, hwraps'⟩, g', e, hg', he, hshows'⟩ := h'
  obtain rfl := Option.some.inj (hg.symm.trans hg')
  exact ⟨⟨n + m, hwraps.trans hwraps'⟩, f, e, hf, he, hshows'.trans hshows⟩

theorem Persists.standsIn (h : s.Persists s') (ht : s.StandsIn t t') : s'.StandsIn t t' := by
  obtain ⟨⟨n, hwraps⟩, f, g, hf, hg, hshows⟩ := ht
  obtain ⟨attributes, hf'⟩ := h.function? hf
  obtain ⟨attributes', hg'⟩ := h.function? hg
  exact ⟨⟨n, h.wraps hwraps⟩, _, _, hf', hg', ⟨hshows.name, hshows.qualifiedName, hshows.doc,
    hshows.annotations, hshows.form⟩⟩

/-! ## The end of all wrappers -/

/-- Wrappers lead from a value to a function that wraps nothing, whatever its attributes are. -/
def LeadsTo (s : Store) (v : Value) (b : Function) : Prop :=
  ∃ bottom n attributes, s.Wraps bottom n v ∧ s.function? bottom = some { b with attributes } ∧
    b.wrapped = none

theorem LeadsTo.function?_unwrap (h : s.LeadsTo v b) :
    ∃ attributes, s.function? (s.unwrap v) = some { b with attributes } := by
  obtain ⟨bottom, n, attributes, hwraps, hbottom, hunwrapped⟩ := h
  refine ⟨attributes, ?_⟩
  rw [hwraps.unwrap ((wrapped?_of_function? hbottom).trans hunwrapped), hbottom]

theorem LeadsTo.signature (h : s.LeadsTo v b) (hf : s.function? v = some f) :
    s.signature true v = .ok b.params := by
  obtain ⟨attributes, hbottom⟩ := h.function?_unwrap
  have hparams : s.signature true v = .ok (Function.params { b with attributes }) :=
    signature_of_function? hf hbottom
  exact hparams

theorem LeadsTo.scopeOf (h : s.LeadsTo v b) (hf : s.function? v = some f) :
    Descriptor.scopeOf s v = ⟨[b.frame], b.frame⟩ := by
  obtain ⟨attributes, hbottom⟩ := h.function?_unwrap
  obtain ⟨r, c, attributes', rfl, hr⟩ := exists_of_function? hf
  simp only [Descriptor.scopeOf, hbottom]

end Store

/-! ## Descriptions -/

/-- A description as it is of a function that stands in for the described one and takes arguments
of its own. -/
def Descriptor.over (d : Descriptor) (target : Value) (callSignature : Signature) : Descriptor :=
  { d with target, callSignature }

section Functions

variable {v : Value} {f : Function} {handled : Option Ref} {w : World}

theorem Descriptor.annotated?_of_function? {s : Store} (hf : s.function? v = some f) :
    Descriptor.annotated? s v = some f := by
  obtain ⟨r, c, attributes, rfl, hr⟩ := Store.exists_of_function? hf
  simp only [annotated?, hr, Store.function?]

/-- A function is refused only if it is a generator, under its qualified name. -/
theorem Descriptor.run_checkTarget_of_function? {original : Value}
    (hf : w.store.function? v = some f) :
    (checkTarget original v).run handled w =
      (if f.code.form = .generator || f.code.form = .asynchronousGenerator then
        raiseNew .applicabilityError
          (f.qualifiedName ++ " is a generator function; it has no single result to add context to")
      else pure () : Eval Unit).run handled w := by
  have hcallable : isClass v = false ∧ w.store.isCallable v = true := by
    obtain ⟨r, c, attributes, rfl, hr⟩ := Store.exists_of_function? hf
    exact ⟨rfl, by simp only [Store.isCallable, hr]⟩
  have hname : (nameOrText v).run handled w = (.ok f.qualifiedName, w) := by
    rw [nameOrText, run_bind_of_ok run_store, Store.qualifiedName?_of_function? hf]
    rfl
  rw [checkTarget, run_bind_of_ok run_store, Store.formOf_of_function? hf, hcallable.1, hcallable.2]
  simp only [Bool.not_true, Bool.or_self, Bool.false_eq_true, if_false]
  split
  · rw [run_bind_of_ok hname]
  · rfl

end Functions

namespace Store.StandsIn

variable {s : Store} {t t' : Value} {f g b : Function} {w : World}

/-- The two are told apart by no text. -/
theorem repr (h : s.StandsIn t t') : SameFrom s (Eval.repr t) (Eval.repr t') := by
  intro handled w hw
  obtain ⟨-, f, g, hf, hg, hresembles⟩ := hw.standsIn h
  rw [run_repr_of_ok (repr_of_function? hf), run_repr_of_ok (repr_of_function? hg),
    hresembles.qualifiedName]

theorem isAsynchronous (h : s.StandsIn t t') : s.isAsynchronous t' = s.isAsynchronous t := by
  obtain ⟨-, f, g, hf, hg, hresembles⟩ := h
  rw [Store.isAsynchronous, Store.isAsynchronous, formOf_of_function? hf, formOf_of_function? hg,
    hresembles.form]

theorem run_checkTarget (h : w.store.StandsIn t t') (v v' : Value) (handled : Option Ref) :
    (Descriptor.checkTarget v' t').run handled w = (Descriptor.checkTarget v t).run handled w := by
  obtain ⟨-, f, g, hf, hg, hresembles⟩ := h
  rw [Descriptor.run_checkTarget_of_function? hf, Descriptor.run_checkTarget_of_function? hg,
    hresembles.form, hresembles.qualifiedName]

end Store.StandsIn

end FaultContext
