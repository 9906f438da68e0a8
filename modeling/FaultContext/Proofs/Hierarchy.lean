/-
# FaultContext.Proofs.Hierarchy -- classes that are declared later.

A class is declared once and for all, and its bases are there before it.  So whatever is asked about
a class is answered without looking at any class that was declared after it, and declaring more
classes makes no difference to the answers for those that are there.

The order in which a registry looks along a class is found by going through its bases, and the
number of steps that this may take grows with the number of classes.  It is enough that there are
more steps than classes below: any number beyond that gives the same order (`orderWithin_of_has`).
-/
import FaultContext.Binding.Answer
import FaultContext.Proofs.Traversal

namespace FaultContext

theorem takeWhile_congr_of_mem {α : Type} {p q : α → Bool} {l : List α}
    (h : ∀ a ∈ l, p a = q a) : l.takeWhile p = l.takeWhile q := by
  induction l with
  | nil => rfl
  | cons a rest ih =>
    obtain ⟨ha, hrest⟩ := List.forall_mem_cons.mp h
    rw [List.takeWhile_cons, List.takeWhile_cons, ha, ih hrest]

/-- A class that is there once a number of classes have been declared. -/
def Class.Below (n : Nat) : Class → Prop
  | .standard _ => True
  | .declared k => k < n

instance (n : Nat) (c : Class) : Decidable (c.Below n) :=
  match c with
  | .standard _ => inferInstanceAs (Decidable True)
  | .declared k => inferInstanceAs (Decidable (k < n))

theorem Class.Below.mono {m n : Nat} {c : Class} (h : c.Below m) (hle : m ≤ n) : c.Below n := by
  cases c with
  | standard => trivial
  | declared k => exact Nat.lt_of_lt_of_le h hle

namespace Store

/-- A class that is there. -/
def Has (s : Store) (c : Class) : Prop := c.Below s.declarations.size

/-- Every class is declared after its bases. -/
def Founded (s : Store) : Prop :=
  ∀ (k : Nat) (h : k < s.declarations.size), ∀ b ∈ s.declarations[k].bases, b.Below k

instance (s : Store) : Decidable s.Founded :=
  inferInstanceAs (Decidable (∀ (k : Nat) (h : k < s.declarations.size),
    ∀ b ∈ s.declarations[k].bases, b.Below k))

/-- All classes are still there, and there may be more. -/
def Extends (s s' : Store) : Prop :=
  ∀ (k : Nat) d, s.declarations[k]? = some d → s'.declarations[k]? = some d

theorem Extends.has {s s' : Store} (h : s.Extends s') {c : Class} (hc : s.Has c) : s'.Has c := by
  cases c with
  | standard => trivial
  | declared k =>
    exact (Array.getElem?_eq_some_iff.mp (h k _ (Array.getElem?_eq_getElem hc))).1

theorem extends_declare (s : Store) (d : Declaration) (members : Named) :
    s.Extends (s.declare d members).2 := by
  intro k old hk
  obtain ⟨hlt, -⟩ := Array.getElem?_eq_some_iff.mp hk
  rw [declare, Array.getElem?_push_lt hlt]
  simpa only [Array.getElem?_eq_getElem hlt] using hk

/-- A class can be a key only if it is there. -/
theorem has_of_isHashableClass {s : Store} {c : Class} (h : s.isHashableClass c = true) :
    s.Has c := by
  cases c with
  | standard => trivial
  | declared k =>
    cases hk : s.declarations[k]? with
    | some d => exact (Array.getElem?_eq_some_iff.mp hk).1
    | none => simp [isHashableClass, hk] at h

/-- A new class whose bases are there is declared after them. -/
theorem Founded.declare {s : Store} (hs : s.Founded) {d : Declaration} (hd : ∀ b ∈ d.bases, s.Has b)
    (members : Named) : (s.declare d members).2.Founded := by
  intro k hk b hb
  simp only [Store.declare, Array.size_push] at hk
  simp only [Store.declare, Array.getElem_push] at hb
  split at hb
  next hold => exact hs k hold b hb
  next hnew => exact (hd b hb).mono (by omega)

/-- The bases of a class that is there were declared before it. -/
theorem Founded.bases {s : Store} (hs : s.Founded) {k : Nat} (hk : s.Has (.declared k)) (b : Class)
    (hb : b ∈ s.basesOf (.declared k)) : b.Below k := by
  rw [basesOf, Array.getElem?_eq_getElem hk] at hb
  exact hs k hk b hb

/-! ## Answers for classes that are there -/

section Extended

variable {s s' : Store} (h : s.Extends s') {c : Class} (hc : s.Has c)
include h hc

theorem Has.declaration? {k : Nat} (hk : c = .declared k) :
    s'.declarations[k]? = s.declarations[k]? := by
  subst hk
  have hlt : k < s.declarations.size := hc
  rw [Array.getElem?_eq_getElem hlt]
  exact h k _ (Array.getElem?_eq_getElem hlt)

theorem Has.order : s'.order c = s.order c := by
  cases c with
  | standard => rfl
  | declared k => rw [Store.order, Store.order, hc.declaration? h rfl]

theorem Has.isSubclass (ancestor : Class) : s'.isSubclass c ancestor = s.isSubclass c ancestor := by
  rw [Store.isSubclass, Store.isSubclass, hc.order h]

theorem Has.isHashableClass : s'.isHashableClass c = s.isHashableClass c := by
  cases c with
  | standard => rfl
  | declared k => rw [Store.isHashableClass, Store.isHashableClass, hc.declaration? h rfl]

theorem Has.hasContextMethod : s'.hasContextMethod c = s.hasContextMethod c := by
  cases c with
  | standard => rfl
  | declared k => rw [Store.hasContextMethod, Store.hasContextMethod, hc.declaration? h rfl]

theorem Has.implementsContext : s'.implementsContext c = s.implementsContext c := by
  rw [Store.implementsContext, Store.implementsContext, hc.isHashableClass h, hc.hasContextMethod h]

end Extended
end Store

namespace Registry

/-- Splitting the bases of a class gives bases of it. -/
theorem mem_of_mem_splitBases {s : Store} {bases : List Class} {b : Class}
    (h : b ∈ (splitBases s bases).1 ∨ b ∈ (splitBases s bases).2) : b ∈ bases := by
  rcases h with habstract | hother
  · exact List.mem_of_mem_take habstract
  · have hmem := (List.takeWhile_sublist _).mem (List.mem_reverse.mp hother)
    exact List.mem_reverse.mp hmem

variable {s s' : Store} (h : s.Extends s')
include h

theorem splitBases_of_has {bases : List Class} (hbases : ∀ b ∈ bases, s.Has b) :
    splitBases s' bases = splitBases s bases := by
  have hothers : bases.reverse.takeWhile (fun c => !s'.isSubclass c Standard.abstractBase) =
      bases.reverse.takeWhile (fun c => !s.isSubclass c Standard.abstractBase) := by
    refine takeWhile_congr_of_mem fun c hc => ?_
    rw [(hbases c (List.mem_reverse.mp hc)).isSubclass h]
  simp only [splitBases, hothers]

/-- The order of a class is the same with more classes and with more steps. -/
theorem orderWithin_of_has (hs : s.Founded) {depth depth' : Nat} {c : Class} (hc : s.Has c)
    (hdepth : c.Below depth) (hdepth' : c.Below depth') (pending : Bool) :
    orderWithin s' depth' pending c = orderWithin s depth pending c := by
  have himplements := hc.implementsContext h
  induction depth generalizing depth' c pending with
  | zero =>
    cases c with
    | standard => cases depth' <;> simp only [orderWithin, himplements] <;> rfl
    | declared k => exact absurd hdepth (Nat.not_lt_zero k)
  | succ depth ih =>
    cases c with
    | standard => cases depth' <;> simp only [orderWithin, himplements] <;> rfl
    | declared k =>
      obtain ⟨depth', rfl⟩ := Nat.exists_eq_add_one.mpr (Nat.zero_lt_of_lt hdepth')
      have hbelow := hs.bases hc
      have hhas : ∀ b ∈ s.basesOf (.declared k), s.Has b := fun b hb =>
        (hbelow b hb).mono (Nat.le_of_lt hc)
      -- Along a base there are fewer steps to go, and one less is left.
      have horder : ∀ pending, ∀ b ∈ s.basesOf (.declared k),
          orderWithin s' depth' pending b = orderWithin s depth pending b := fun pending b hb =>
        ih (hhas b hb) ((hbelow b hb).mono (Nat.le_of_lt_succ hdepth))
          ((hbelow b hb).mono (Nat.le_of_lt_succ hdepth')) pending
          ((hhas b hb).implementsContext h)
      have himplement : (s.basesOf (.declared k)).any s'.implementsContext =
          (s.basesOf (.declared k)).any s.implementsContext := by
        rw [Bool.eq_iff_iff, List.any_eq_true, List.any_eq_true]
        refine exists_congr fun b => and_congr_right fun hb => ?_
        rw [(hhas b hb).implementsContext h]
      have hsplit := splitBases_of_has h hhas
      have hfirst : ∀ pending, (splitBases s (s.basesOf (.declared k))).1.mapM
          (orderWithin s' depth' pending) = (splitBases s (s.basesOf (.declared k))).1.mapM
            (orderWithin s depth pending) := fun pending =>
        mapM_congr_of_mem fun b hb => horder pending b (mem_of_mem_splitBases (.inl hb))
      have hlast : ∀ pending, (splitBases s (s.basesOf (.declared k))).2.mapM
          (orderWithin s' depth' pending) = (splitBases s (s.basesOf (.declared k))).2.mapM
            (orderWithin s depth pending) := fun pending =>
        mapM_congr_of_mem fun b hb => horder pending b (mem_of_mem_splitBases (.inr hb))
      simp only [Store.basesOf] at himplement hsplit hfirst hlast
      have hinterface : ∀ introduced : Bool,
          (if introduced then [Class.standard .wrapErr] else []).map s'.order =
            (if introduced then [Class.standard .wrapErr] else []).map s.order := by
        intro introduced
        cases introduced <;> rfl
      simp only [orderWithin, hc.declaration? h rfl, himplements, himplement, hsplit, hfirst, hlast,
        hinterface]

theorem dispatch_of_has (hs : s.Founded) {c : Class} (hc : s.Has c) (registry : Registry) :
    registry.dispatch s' (.cls c) = registry.dispatch s (.cls c) := by
  have hmeta : s'.metaclass c = s.metaclass c := by
    simp only [Store.metaclass, hc.isHashableClass h, hc.isSubclass h]
  have horder : ∀ pending, orderWithin s' (s'.declarations.size + 1) pending c =
      orderWithin s (s.declarations.size + 1) pending c := fun pending =>
    orderWithin_of_has h hs hc (hc.mono (Nat.le_succ _)) ((h.has hc).mono (Nat.le_succ _)) pending
  simp only [dispatch, dispatchClass, dispatchOrder, hmeta, hc.isHashableClass h,
    hc.implementsContext h, hc.isSubclass h, horder]

end Registry

section Sets

variable {s s' : Store} (h : s.Extends s') (hs : s.Founded) {c : Class} (hc : s.Has c)
include h hs hc

theorem Rule.claim?_of_has (registry : Registry) :
    Rule.claim? registry s' (.cls c) = Rule.claim? registry s (.cls c) := by
  funext rule
  cases rule <;>
    simp only [claim?, Registry.found?, Registry.dispatch_of_has h hs hc,
      TypeHint.isSubclassSafe_wrapErr, hc.implementsContext h]

theorem Rule.refusal?_of_has (registry : Registry) :
    Rule.refusal? registry s' (.cls c) = Rule.refusal? registry s (.cls c) := by
  funext rule
  cases rule <;> simp only [refusal?, Registry.refusal?, Registry.dispatch_of_has h hs hc]

/-- What a set answers for a class does not depend on classes that are declared later. -/
theorem BindingSet.answer?_of_has (set : BindingSet) :
    set.answer? s' (.cls c) = set.answer? s (.cls c) := by
  simp only [answer?, verdict?, claims, refusal?, Rule.claim?_of_has h hs hc,
    Rule.refusal?_of_has h hs hc]

end Sets
end FaultContext
