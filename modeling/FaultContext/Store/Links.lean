/-
# FaultContext.Store.Links -- links between exceptions.

An exception has a cause, which a program gives it, and a context, which it gets by being raised:
the exception that is being handled at that moment.  Should the context of the one being handled
lead back to the new exception, that link is cut, so contexts never gain a circle.

The exceptions that a fault stands for are made here, because their links are part of what a fault
says.  `Under` is the relation that raising establishes, and everything else about links is kept by
all operations on other objects.  What setting a context leaves as it was, raising leaves too
(`Survives`).
-/
import FaultContext.Fault
import FaultContext.Store.Object

namespace FaultContext.Store

/-! ## Objects at places -/

theorem get?_modify (s : Store) (r q : Ref) (change : Object → Object) :
    (s.modify r change).get? q = if r = q then (s.get? q).map change else s.get? q := by
  cases r
  cases q
  simp [modify, get?, Array.getElem?_modify]

theorem get?_modify_self (s : Store) (r : Ref) (change : Object → Object) :
    (s.modify r change).get? r = (s.get? r).map change := by
  simp [get?_modify]

theorem get?_modify_ne (s : Store) {r q : Ref} (h : r ≠ q) (change : Object → Object) :
    (s.modify r change).get? q = s.get? q := by
  simp [get?_modify, h]

/-- An object at a place keeps it when another one is added. -/
theorem get?_insert_of_get? {s : Store} {r : Ref} {o : Object} (new : Object)
    (h : s.get? r = some o) : (s.insert new).2.get? r = some o := by
  obtain ⟨hlt, -⟩ := Array.getElem?_eq_some_iff.mp h
  simpa [insert, get?, Array.getElem?_push, Nat.ne_of_lt hlt] using h

/-- Nothing happens at any other place when an object is added. -/
theorem get?_insert_ne {s : Store} {r : Ref} {o : Object} (h : r ≠ (s.insert o).1) :
    (s.insert o).2.get? r = s.get? r := by
  obtain ⟨k⟩ := r
  have hk : k ≠ s.objects.size := fun heq => h (congrArg Ref.mk heq)
  simp [insert, get?, Array.getElem?_push, hk]

/-- Places that are taken lie below the number of objects. -/
theorem index_lt_of_get? {s : Store} {r : Ref} {o : Object} (h : s.get? r = some o) :
    r.index < s.objects.size :=
  (Array.getElem?_eq_some_iff.mp h).1

/-! ## Setting links -/

/-- Changes the cause and the context of an exception. -/
def setLinks (s : Store) (r : Ref)
    (change : Option Ref × Option Ref → Option Ref × Option Ref) : Store :=
  s.modify r fun o =>
    match o.body with
    | .exception args cause context =>
      let (cause, context) := change (cause, context)
      { o with body := .exception args cause context }
    | _ => o

/-- Sets the cause of an exception. -/
def setCause (s : Store) (r : Ref) (cause : Option Ref) : Store :=
  s.setLinks r fun (_, context) => (cause, context)

/-- Sets the context of an exception. -/
def setContext (s : Store) (r : Ref) (context : Option Ref) : Store :=
  s.setLinks r fun (cause, _) => (cause, context)

/-- The context of an exception. -/
def contextOf (s : Store) (r : Ref) : Option Ref :=
  match s.get? r with
  | some ⟨_, _, .exception _ _ context⟩ => context
  | _ => none

/-- The exception along a chain of contexts, at most `steps` long, whose context is the given one.
-/
def linkTo (s : Store) (target : Ref) : Nat → Ref → Option Ref
  | 0, _ => none
  | steps + 1, r =>
    match s.contextOf r with
    | none => none
    | some next => if next = target then some r else s.linkTo target steps next

/-- Cuts the link by which the context of an exception leads to another one. -/
def cutLinkTo (s : Store) (target r : Ref) : Store :=
  match s.linkTo target s.objects.size r with
  | some last => s.setContext last none
  | none => s

/-- Records the exception being handled as the context of another one. -/
def recordContext (s : Store) (r handled : Ref) : Store :=
  if r = handled then s
  else (s.cutLinkTo r handled).setContext r (some handled)

/-- The links that an exception has once it is raised. -/
def raising (s : Store) (r : Ref) : Option Ref → Store
  | none => s
  | some handled => s.recordContext r handled

/-- Adds an exception without links. -/
def newException (s : Store) (c : Class) (args : List Value) (attributes : Named) : Ref × Store :=
  s.insert ⟨c, attributes, .exception args none none⟩

/-- Adds the exception of a fault, with the links that it has once it is raised. -/
def exceptionOf (s : Store) (handled : Option Ref) : Fault → Ref × Store
  | .during first second asCause =>
    let (inner, s) := s.exceptionOf handled first
    let (r, s) := s.newException second.cls second.args []
    let s := if asCause then s.setCause r (some inner) else s
    (r, s.recordContext r inner)
  | f =>
    let (r, s) := s.newException f.cls f.args []
    (r, s.raising r handled)

/-! ## What survives raising -/

/-- A relation between a store and a later one in which setting the context of an exception leaves
things. -/
structure Survives (R : Store → Store → Prop) : Prop where
  refl : ∀ s, R s s
  trans : ∀ {s s' s''}, R s s' → R s' s'' → R s s''
  setContext : ∀ s r context, R s (s.setContext r context)

namespace Survives

/-- What is the same whatever the contexts of exceptions are. -/
theorem of_view {α : Type} (view : Store → α)
    (h : ∀ s r context, view (s.setContext r context) = view s) :
    Survives fun s s' => view s' = view s :=
  ⟨fun _ => rfl, fun hfirst hsecond => hsecond.trans hfirst, h⟩

variable {R : Store → Store → Prop} (h : Survives R)
include h

/-- Recording a context sets contexts and does nothing else. -/
theorem recordContext (s : Store) (r handled : Ref) : R s (s.recordContext r handled) := by
  unfold Store.recordContext cutLinkTo
  split
  · exact h.refl s
  · split
    · exact h.trans (h.setContext _ _ _) (h.setContext _ _ _)
    · exact h.setContext _ _ _

theorem raising (s : Store) (r : Ref) (handled : Option Ref) : R s (s.raising r handled) := by
  cases handled with
  | none => exact h.refl s
  | some handled => exact h.recordContext s r handled

/-- The exception of a fault is made, and has others for its cause and its context. -/
theorem exceptionOf (hinsert : ∀ s o, R s (s.insert o).2)
    (hcause : ∀ s r cause, R s (s.setCause r cause)) (s : Store) (handled : Option Ref)
    (f : Fault) : R s (s.exceptionOf handled f).2 := by
  induction f with
  | during first second asCause ih =>
    have hnew := hinsert (s.exceptionOf handled first).2
      ⟨second.cls, [], .exception second.args none none⟩
    refine h.trans (h.trans ih hnew) ?_
    dsimp only [Store.exceptionOf]
    split
    · exact h.trans (hcause _ _ _) (h.recordContext _ _ _)
    · exact h.recordContext _ _ _
  | _ => exact h.trans (hinsert _ _) (h.raising _ _ _)

end Survives

/-! ## What raising establishes -/

/-- An exception was raised under another one: it is that one, or its context leads to it. -/
inductive Under (s : Store) (handled : Ref) : Ref → Prop
  | here : Under s handled handled
  | step {r next : Ref} : s.contextOf r = some next → Under s handled next → Under s handled r

@[simp] theorem exception?_setLinks (s : Store) (r : Ref)
    (change : Option Ref × Option Ref → Option Ref × Option Ref) (v : Value) :
    (s.setLinks r change).exception? v = s.exception? v := by
  cases v with
  | object q =>
    by_cases h : r = q
    · subst h
      simp only [exception?, setLinks, get?_modify_self]
      rcases s.get? r with _ | ⟨c, attributes, body⟩
      · rfl
      · cases body <;> rfl
    · simp only [exception?, setLinks, get?_modify_ne s h]
  | _ => rfl

/-- The object of an exception. -/
theorem get?_of_exception? {s : Store} {r : Ref} (h : (s.exception? (.object r)).isSome) :
    ∃ c attributes args cause context,
      s.get? r = some ⟨c, attributes, .exception args cause context⟩ := by
  simp only [exception?] at h
  split at h
  · exact ⟨_, _, _, _, _, by assumption⟩
  · simp at h

theorem contextOf_setLinks_self {s : Store} {r : Ref} {c : Class} {attributes : Named}
    {args : List Value} {cause context : Option Ref}
    (h : s.get? r = some ⟨c, attributes, .exception args cause context⟩)
    (change : Option Ref × Option Ref → Option Ref × Option Ref) :
    (s.setLinks r change).contextOf r = (change (cause, context)).2 := by
  simp [contextOf, setLinks, get?_modify_self, h]

@[simp] theorem exception?_cutLinkTo (s : Store) (target r : Ref) (v : Value) :
    (s.cutLinkTo target r).exception? v = s.exception? v := by
  unfold cutLinkTo
  split <;> simp [setContext]

@[simp] theorem exception?_recordContext (s : Store) (r handled : Ref) (v : Value) :
    (s.recordContext r handled).exception? v = s.exception? v :=
  (Survives.of_view (·.exception? v) fun s r _ => s.exception?_setLinks r _ v).recordContext s r
    handled

/-- The exception being handled is the context of one that is raised, unless they are one. -/
theorem under_recordContext {s : Store} {r : Ref} (h : (s.exception? (.object r)).isSome)
    (handled : Ref) : (s.recordContext r handled).Under handled r := by
  unfold recordContext
  split
  next heq =>
    subst heq
    exact .here
  next =>
    obtain ⟨c, attributes, args, cause, context, hr⟩ :=
      get?_of_exception? (s := s.cutLinkTo r handled) (by simpa using h)
    exact .step (contextOf_setLinks_self hr _) .here

theorem exception?_newException (s : Store) (c : Class) (args : List Value) (attributes : Named) :
    ((s.newException c args attributes).2.exception?
      (.object (s.newException c args attributes).1)).isSome := by
  simp [newException, exception?, get?_insert]

/-! ## Links that are kept -/

theorem contextOf_insert {s : Store} {r next : Ref} (o : Object)
    (h : s.contextOf r = some next) : (s.insert o).2.contextOf r = some next := by
  unfold contextOf at h ⊢
  split at h
  next hr => rw [get?_insert_of_get? o hr]; exact h
  next => simp at h

theorem contextOf_setLinks_ne (s : Store) {r q : Ref} (h : r ≠ q)
    (change : Option Ref × Option Ref → Option Ref × Option Ref) :
    (s.setLinks r change).contextOf q = s.contextOf q := by
  simp only [contextOf, setLinks, get?_modify_ne s h]

@[simp] theorem contextOf_setCause (s : Store) (r q : Ref) (cause : Option Ref) :
    (s.setCause r cause).contextOf q = s.contextOf q := by
  by_cases h : r = q
  · subst h
    simp only [contextOf, setCause, setLinks, get?_modify_self]
    rcases s.get? r with _ | ⟨c, attributes, body⟩
    · rfl
    · cases body <;> rfl
  · exact contextOf_setLinks_ne s h _

/-- Where a chain of contexts has been followed to a target, the last link leads to it. -/
theorem contextOf_of_linkTo {s : Store} {target last : Ref} {steps : Nat} {r : Ref}
    (h : s.linkTo target steps r = some last) : s.contextOf last = some target := by
  induction steps generalizing r with
  | zero => simp [linkTo] at h
  | succ steps ih =>
    unfold linkTo at h
    split at h
    next => simp at h
    next next hnext =>
      split at h
      next heq =>
        cases h
        rw [hnext, heq]
      next => exact ih h

/-- Recording a context changes no link but those that lead to the exception or away from it. -/
theorem contextOf_recordContext {s : Store} {r handled q next : Ref} (hq : q ≠ r)
    (hnext : next ≠ r) (h : s.contextOf q = some next) :
    (s.recordContext r handled).contextOf q = some next := by
  unfold recordContext
  split
  · exact h
  · rw [setContext, contextOf_setLinks_ne _ (Ne.symm hq)]
    unfold cutLinkTo
    split
    next last hlast =>
      have hne : last ≠ q := by
        rintro rfl
        rw [contextOf_of_linkTo hlast] at h
        exact hnext (Option.some.inj h).symm
      rw [setContext, contextOf_setLinks_ne _ hne]
      exact h
    next => exact h

theorem Under.mono {s s' : Store} {handled r : Ref}
    (keeps : ∀ q next, s.contextOf q = some next → s'.contextOf q = some next)
    (h : s.Under handled r) : s'.Under handled r := by
  induction h with
  | here => exact .here
  | step hnext _ ih => exact .step (keeps _ _ hnext) ih

theorem Under.trans {s : Store} {handled q r : Ref} (hq : s.Under handled q) (hr : s.Under q r) :
    s.Under handled r := by
  induction hr with
  | here => exact hq
  | step hnext _ ih => exact .step hnext ih

/-- What an exception was raised under stays so when an exception that has no context yet gets one.
-/
theorem Under.recordContext {s : Store} {handled q r : Ref} (h : s.Under handled q)
    (hr : s.contextOf r = none) (hne : handled ≠ r) (other : Ref) :
    (s.recordContext r other).Under handled q := by
  induction h with
  | here => exact .here
  | @step q next hnext hunder ih =>
    refine .step (contextOf_recordContext ?_ ?_ hnext) ih
    · rintro rfl
      rw [hr] at hnext
      cases hnext
    · rintro rfl
      cases hunder with
      | here => exact hne rfl
      | step hstep _ =>
        rw [hr] at hstep
        cases hstep

/-! ## The exceptions of faults -/

theorem contextOf_newException (s : Store) (c : Class) (args : List Value) (attributes : Named) :
    (s.newException c args attributes).2.contextOf (s.newException c args attributes).1 = none := by
  simp [newException, contextOf, get?_insert]

/-- The exception of a fault is raised under the exception being handled. -/
theorem under_exceptionOf (s : Store) (handled : Ref) (f : Fault) :
    (s.exceptionOf (some handled) f).2.Under handled (s.exceptionOf (some handled) f).1 := by
  induction f with
  | during first second asCause ih =>
    simp only [exceptionOf]
    generalize s.exceptionOf (some handled) first = made at ih ⊢
    obtain ⟨inner, s⟩ := made
    have hnone := contextOf_newException s second.cls second.args []
    have hexc := exception?_newException s second.cls second.args []
    have hinner : (s.newException second.cls second.args []).2.Under handled inner :=
      ih.mono fun q next h => contextOf_insert _ h
    generalize s.newException second.cls second.args [] = made at hnone hexc hinner ⊢
    obtain ⟨r, s⟩ := made
    -- The cause plays no part: neither the contexts nor what is an exception depend on it.
    have key : ∀ s : Store, s.contextOf r = none → (s.exception? (.object r)).isSome →
        s.Under handled inner → (s.recordContext r inner).Under handled r := by
      intro s hnone hexc hinner
      by_cases hr : handled = r
      · subst hr
        exact .here
      · exact (hinner.recordContext hnone hr inner).trans (under_recordContext hexc inner)
    split
    · exact key _ (by simpa using hnone) (by simpa [setCause] using hexc)
        (hinner.mono fun q next h => by simpa using h)
    · exact key _ hnone hexc hinner
  | _ => exact under_recordContext (exception?_newException ..) handled

end FaultContext.Store
