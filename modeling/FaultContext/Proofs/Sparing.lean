/-
# FaultContext.Proofs.Sparing -- what leaves the attributes of functions alone.

Most of what the library does sets no attributes of functions: plain computations cannot, as long as
they call nothing, and tracing a decision is one of these.  Two things call what the program has.  A
text among annotations is an expression, which is evaluated when they are resolved; and a lookup
calls the rules and the fallback that are functions of the program.

So this is a property of a computation, a function and a world (`Eval.Spares`).  Resolving annotations
without texts has it (`TypeHint.spares_resolveNamed`), since it is to look at objects (`Eval.Reads`),
and so has a lookup in a set that calls nothing (`Resolution.spares_lookup`).
-/
import FaultContext.Proofs.Resolving
import FaultContext.Proofs.StandingIn

namespace FaultContext

open Eval

/-! ## Functions with their attributes -/

namespace Store

theorem keepsFunctions_newException (s : Store) (c : Class) (args : List Value)
    (attributes : Named) : s.KeepsFunctions (s.newException c args attributes).2 :=
  s.keepsFunctions_insert _

theorem keepsFunctions_setLinks (s : Store) (r : Ref)
    (change : Option Ref × Option Ref → Option Ref × Option Ref) :
    s.KeepsFunctions (s.setLinks r change) := by
  intro v f hf
  obtain ⟨q, c, attributes, rfl, hq⟩ := exists_of_function? hf
  by_cases h : r = q
  · subst h
    simp only [function?, setLinks, get?_modify_self, hq, Option.map_some]
  · simp only [function?, setLinks, get?_modify_ne s h, hq]

theorem survives_keepsFunctions : Survives KeepsFunctions :=
  ⟨.refl, .trans, fun s r _ => s.keepsFunctions_setLinks r _⟩

theorem keepsFunctions_raising (s : Store) (r : Ref) (handled : Option Ref) :
    s.KeepsFunctions (s.raising r handled) :=
  survives_keepsFunctions.raising s r handled

theorem keepsFunctions_exceptionOf (s : Store) (handled : Option Ref) (f : Fault) :
    s.KeepsFunctions (s.exceptionOf handled f).2 :=
  survives_keepsFunctions.exceptionOf keepsFunctions_insert
    (fun s r _ => s.keepsFunctions_setLinks r _) s handled f

end Store

/-! ## Computations that spare functions -/

namespace Eval

/-- A computation sets no attributes of a function and of what wraps it. -/
def SparesAt {α : Type} (m : Eval α) (t : Value) (handled : Option Ref) (w : World) : Prop :=
  ∀ v n f, w.store.Wraps t n v → w.store.function? v = some f →
    (m.run handled w).2.store.function? v = some f

/-- From some world on, it sets none. -/
def Spares {α : Type} (m : Eval α) (t : Value) (w : World) : Prop :=
  ∀ handled u, w.Keeps u → m.SparesAt t handled u

theorem Spares.later {α : Type} {m : Eval α} {t : Value} {w w' : World} (h : m.Spares t w)
    (hw : w.Keeps w') : m.Spares t w' :=
  fun handled u hu => h handled u (hw.trans hu)

section Steps

variable {α β : Type} {m : Eval α} {t : Value} {handled : Option Ref} {w : World}

theorem sparesAt_of_keepsFunctions (h : w.store.KeepsFunctions (m.run handled w).2.store) :
    m.SparesAt t handled w :=
  fun v _ f _ hf => h v f hf

theorem SparesAt.bind {f : α → Eval β} (hm : m.SparesAt t handled w)
    (hf : ∀ a w', m.run handled w = (.ok a, w') → (f a).SparesAt t handled w') :
    (m >>= f).SparesAt t handled w := by
  intro v n g hv hg
  have hkept := hm v n g hv hg
  rcases hrun : m.run handled w with ⟨signal | a, w'⟩ <;> rw [hrun] at hkept
  · rw [run_bind_of_error hrun]
    exact hkept
  · rw [run_bind_of_ok hrun]
    exact hf a w' hrun v n g ((keeps_of_run hrun).store.objects.wraps hv) hkept

/-- Plain computations set attributes of functions only where a call does. -/
theorem Plain.sparesAt {calls : World → Eval Value → Prop} (h : m.Plain handled calls w)
    (hcalls : ∀ w m, calls w m → m.SparesAt t handled w) : m.SparesAt t handled w := by
  induction h with
  | bind _ _ ihm ihf => exact ihm.bind ihf
  | @thenChange _ _ m change _ _ w _ hstore ih =>
    intro v n f hv hf
    have hkept := ih v n f hv hf
    simp only [Eval.thenChange]
    rcases hm : m.run handled w with ⟨signal | a, between⟩ <;> rw [hm] at hkept
    · exact hkept
    · dsimp only
      rw [hstore]
      exact hkept
  | @changeRest f h _ w =>
    refine sparesAt_of_keepsFunctions ?_
    show w.store.KeepsFunctions (f w).store
    rw [(h w).store]
    exact .refl _
  | new w _ => exact sparesAt_of_keepsFunctions (w.store.keepsFunctions_insert _)
  | fault f w => exact sparesAt_of_keepsFunctions (w.store.keepsFunctions_exceptionOf handled f)
  | raiseAnew complaint w =>
    refine sparesAt_of_keepsFunctions ?_
    rw [run_raiseAnew]
    exact (w.store.keepsFunctions_newException _ _ _).trans (Store.keepsFunctions_raising _ _ _)
  | call h => exact hcalls _ _ h
  | _ => exact sparesAt_of_keepsFunctions (.refl _)

theorem Plain.sparesAt_of_noCalls (h : m.Plain handled noCalls w) : m.SparesAt t handled w :=
  h.sparesAt fun _ _ h => h.elim

end Steps
end Eval

namespace Eval

variable {α β : Type} {m : Eval α} {f : α → Eval β} {handled : Option Ref} {w w' : World}

/-- The objects decide what a computation comes to, and it does nothing but raise. -/
def Reads (m : Eval α) : Prop :=
  ∃ told : Store → Except Fault α,
    ∀ handled w, m.run handled w = (lift (told w.store)).run handled w

namespace Reads

theorem lift (r : Except Fault α) : Reads (Eval.lift r) := ⟨fun _ => r, fun _ _ => rfl⟩

theorem pure (a : α) : Reads (Pure.pure a : Eval α) := .lift (.ok a)

theorem store_bind {g : Store → Eval β} (h : ∀ s, Reads (g s)) : Reads (Eval.store >>= g) := by
  choose told htold using h
  exact ⟨fun s => told s s, fun handled w => htold w.store handled w⟩

theorem bind (hm : Reads m) (hf : ∀ a, Reads (f a)) : Reads (m >>= f) := by
  obtain ⟨told, htold⟩ := hm
  choose next hnext using hf
  refine ⟨fun s => told s >>= fun a => next a s, fun handled w => ?_⟩
  show _ = (Eval.lift (told w.store >>= fun a => next a w.store)).run handled w
  rw [run_bind, htold]
  cases told w.store with
  | error problem => rfl
  | ok a => exact hnext a handled w

/-- Such a computation leaves the world as it is where it comes to a value. -/
theorem eq_of_run (h : Reads m) {a : α} (hrun : m.run handled w = (.ok a, w')) : w' = w := by
  obtain ⟨told, htold⟩ := h
  rw [htold] at hrun
  cases hresult : told w.store with
  | ok a =>
    rw [hresult] at hrun
    cases hrun
    rfl
  | error problem =>
    rw [hresult] at hrun
    cases hrun

/-- It sets no attributes either where it raises. -/
theorem sparesAt (h : Reads m) (t : Value) : m.SparesAt t handled w := by
  obtain ⟨told, htold⟩ := h
  have hlift : (Eval.lift (told w.store)).SparesAt t handled w :=
    Plain.sparesAt_of_noCalls (.lift _ w)
  rw [SparesAt, ← htold] at hlift
  exact hlift

end Reads
end Eval

/-! ## Annotations that set no attributes -/

namespace TypeHint

mutual

/-- Whether a text stands somewhere in an annotation. -/
def holdsText : Value → Bool
  | .str .. | .forward _ => true
  | .generic _ args | .typing _ args | .classAlias _ args | .spreadAlias _ args | .union args
  | .unionType args => holdsTextAmong args
  | .unpacked type => holdsText type
  | _ => false

/-- Whether a text stands somewhere among several annotations. -/
def holdsTextAmong : List Value → Bool
  | [] => false
  | v :: rest => holdsText v || holdsTextAmong rest

end

theorem reads_checkTexts (args : List Value) : Reads (args.forM checkText) := by
  induction args with
  | nil => exact .pure _
  | cons v rest ih =>
    refine .bind ?_ fun _ => ih
    cases v with
    | str => exact .bind (.lift _) fun _ => .pure _
    | _ => exact .pure _

mutual

/-- Resolving a type without texts looks at the types in it. -/
theorem reads_resolveWith (text : String → Eval Value) (v : Value) (h : holdsText v = false) :
    Reads (resolveWith text v) := by
  cases v with
  | str | forward => cases h
  | generic c args | typing c args =>
    exact .bind (reads_resolveAll text args h) fun _ => .pure _
  | classAlias c args | spreadAlias c args =>
    exact .bind (reads_checkTexts args) fun _ =>
      .bind (reads_resolveMembers text args h) fun _ => .pure _
  | unpacked type => exact .bind (reads_resolveWith text type h) fun _ => .pure _
  | union args | unionType args =>
    refine .bind (reads_resolveAll text args h) fun _ => .store_bind fun _ => ?_
    split
    · exact .pure _
    · exact .lift _
  | _ => exact .pure _

theorem reads_resolveAll (text : String → Eval Value) (args : List Value)
    (h : holdsTextAmong args = false) : Reads (resolveAll text args) := by
  cases args with
  | nil => exact .pure _
  | cons v rest =>
    obtain ⟨hv, hrest⟩ := Bool.or_eq_false_iff.mp h
    exact .bind (reads_resolveWith text v hv) fun _ =>
      .bind (reads_resolveAll text rest hrest) fun _ => .pure _

theorem reads_resolveMembers (text : String → Eval Value) (args : List Value)
    (h : holdsTextAmong args = false) : Reads (resolveMembers text args) := by
  cases args with
  | nil => exact .pure _
  | cons v rest =>
    obtain ⟨hv, hrest⟩ := Bool.or_eq_false_iff.mp h
    cases v with
    | str => cases hv
    | _ =>
      exact .bind (reads_resolveWith text _ hv) fun _ =>
        .bind (reads_resolveMembers text rest hrest) fun _ => .pure _

end

variable {engine : Engine} {scope : NameScope} {annotations : Named}

theorem reads_resolve {r : Value} (h : holdsText r = false) : Reads (resolve engine scope r) := by
  cases r with
  | none => exact .pure _
  | str => cases h
  | _ => exact reads_resolveWith _ _ h

theorem reads_resolveNamed (h : ∀ annotation ∈ annotations, holdsText annotation.2 = false) :
    Reads (resolveNamed engine scope annotations) := by
  induction annotations with
  | nil => exact .pure _
  | cons annotation rest ih =>
    obtain ⟨hv, hrest⟩ := List.forall_mem_cons.mp h
    exact .bind (reads_resolve hv) fun _ => .bind (ih hrest) fun _ => .pure _

end TypeHint

/-! ## Describing -/

namespace Descriptor

variable {engine : Engine} {t t' v x : Value} {f g b : Function} {n : Nat} {handled : Option Ref}
  {w w' : World}

/-- What is left of a description that succeeds is the run of its return annotation. -/
theorem run_returnHint_of_run_ofValue {d : Descriptor}
    (h : (ofValue engine v).run handled w = (.ok d, w')) :
    (returnHint engine (targetOf w.store v)).run handled w = (.ok d.hint, w') := by
  obtain ⟨s, start, hstore, hcheck⟩ := run_bind_eq_ok.mp h
  cases hstore
  obtain ⟨_, between, hchecked, hread⟩ := run_bind_eq_ok.mp hcheck
  obtain ⟨rfl, -⟩ := run_checkTarget hchecked
  obtain ⟨⟨signature, callSignature⟩, between, hsignatures, hhint⟩ := run_bind_eq_ok.mp hread
  obtain ⟨rfl, -⟩ := run_readSignatures hsignatures
  obtain ⟨hint, last, hhint, hmade⟩ := run_bind_eq_ok.mp hhint
  cases hmade
  exact hhint

end Descriptor

end FaultContext
