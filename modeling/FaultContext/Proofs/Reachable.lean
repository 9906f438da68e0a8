/-
# FaultContext.Proofs.Reachable -- the worlds that sessions reach.

Whatever a session does, what is remembered anywhere stays true, and classes are declared after
their bases.  Computations keep both by construction.  Registering a binding changes what a set
answers, but the set forgets everything at that moment; a new set remembers nothing yet; and classes
that are declared later make no difference to those that can have been asked about.
-/
import FaultContext.Program.Declare
import FaultContext.Proofs.Hierarchy
import FaultContext.Proofs.Traversal

namespace FaultContext

open Eval

/-! ## Sessions -/

namespace Session

variable {α β : Type}

/-- The world after a session. -/
def after (m : Session α) (w : World) : World := (m w).2

theorem bind_apply (m : Session α) (f : α → Session β) (w : World) :
    (m >>= f) w = match m w with
      | (.ok a, w') => f a w'
      | (.error signal, w') => (.error signal, w') := by
  simp only [bind, ExceptT.bind, ExceptT.mk, StateT.bind, ExceptT.bindCont]
  rcases m w with ⟨signal | a, w'⟩ <;> rfl

/-- A session goes on in the world after its first step, unless it ends with that step. -/
theorem after_bind (m : Session α) (f : α → Session β) (w : World) :
    (m >>= f).after w = m.after w ∨ ∃ a, (m >>= f).after w = (f a).after (m.after w) := by
  rcases hm : m w with ⟨signal | a, w'⟩
  · exact .inl (by rw [after, bind_apply, after, hm])
  · exact .inr ⟨a, by rw [after, bind_apply, after, after, hm]⟩

end Session

/-! ## What is true of every world -/

/-- What is remembered anywhere is true, and every class is declared after its bases. -/
structure World.Sound (w : World) : Prop where
  truthful : w.Truthful
  founded : w.store.Founded

namespace World

/-- Nothing untrue is remembered where nothing is. -/
theorem truthful_of_entries {w : World} (h : ∀ id, (w.bindingSet id).cache.entries = []) :
    w.Truthful := by
  intro id _ thread c b hb
  rw [h] at hb
  cases hb

namespace Sound

variable {w w' : World}

theorem keeps (hw : w.Sound) (h : w.Keeps w') : w'.Sound where
  truthful := h.truthful hw.truthful
  founded := by
    rw [Store.Founded, h.store.classes]
    exact hw.founded

/-- Other sets may come or change, as long as they forget what they remembered. -/
theorem sets (hw : w.Sound) {sets : Array BindingSet}
    (h : ∀ id, (sets.getD id .standard).cache.entries = [] ∨
      sets.getD id .standard = w.bindingSet id) : World.Sound { w with sets } where
  truthful id hindependent thread c b hb := by
    rcases h id with hforgotten | hsame
    · exact absurd (hforgotten ▸ hb) List.not_mem_nil
    · have hset : World.bindingSet { w with sets } id = w.bindingSet id := hsame
      rw [hset] at hindependent hb ⊢
      exact hw.truthful id hindependent thread c b hb
  founded := hw.founded

/-- More classes may be declared after their bases. -/
theorem declare (hw : w.Sound) {d : Declaration} (hd : ∀ b ∈ d.bases, w.store.Has b)
    (members : Named) : World.Sound { w with store := (w.store.declare d members).2 } where
  truthful id hindependent thread c b hb := by
    obtain ⟨hhashable, hanswer⟩ := hw.truthful id hindependent thread c b hb
    -- What is remembered is about classes that can be keys, and these were there before.
    have hhas := Store.has_of_isHashableClass hhashable
    have hextends := w.store.extends_declare d members
    exact ⟨(hhas.isHashableClass hextends).trans hhashable,
      (BindingSet.answer?_of_has hextends hw.founded hhas _).trans hanswer⟩
  founded := hw.founded.declare hd members

end Sound
end World

/-- The declaration of the class with a number goes with the other classes: it has bases, its order is
made of theirs, and whether it merges contexts is decided by its first member of that name. -/
structure Declaration.Fits (d : Declaration) (s : Store) (k : Nat) (members : Named) : Prop where
  based : d.bases ≠ []
  order : Linearization.ofBases (.declared k) (d.bases.map s.order) d.bases = .ok d.order
  merges : d.merges = s.offersContextMethod members (d.order.drop 1)

theorem Store.eq_of_newOrder {s : Store} {k : Nat} {bases order : List Class}
    {closed : ClosedOrder order} (h : s.newOrder k bases = .ok ⟨order, closed⟩) :
    Linearization.ofBases (.declared k) (bases.map s.order) bases = .ok order := by
  unfold newOrder at h
  split at h
  next hmerged =>
    cases h
    exact hmerged
  next => split at h <;> cases h

/-- A class that is added is declared, with the given bases or with the most general class. -/
theorem Store.eq_of_newClass {s s' : Store} {name : String} {bases : List Class} {members : Named}
    {unhashable : Bool} {c : Class} (h : s.newClass name bases members unhashable = .ok (c, s')) :
    ∃ d : Declaration, (d.bases = bases ∨ d.bases = [.standard .object]) ∧
      d.Fits s s.declarations.size members ∧ s' = (s.declare d members).2 := by
  rw [newClass] at h
  generalize hbased : (if bases.isEmpty then [.standard .object] else bases) = based at h
  obtain ⟨_, -, h⟩ := except_bind_eq_ok.mp h
  obtain ⟨_, -, h⟩ := except_bind_eq_ok.mp h
  obtain ⟨_, -, h⟩ := except_bind_eq_ok.mp h
  obtain ⟨⟨order, closed⟩, horder, h⟩ := except_bind_eq_ok.mp h
  cases h
  have hgiven : based = bases ∧ bases ≠ [] ∨ based = [.standard .object] := by
    split at hbased
    next => exact .inr hbased.symm
    next hsome => exact .inl ⟨hbased.symm, fun hnone => hsome (List.isEmpty_iff.mpr hnone)⟩
  refine ⟨⟨name, based, order, _, _, closed⟩, hgiven.imp_left And.left,
    ⟨?_, eq_of_newOrder horder, rfl⟩, rfl⟩
  rcases hgiven with ⟨rfl, hsome⟩ | rfl
  · exact hsome
  · exact nofun

/-! ## Steps of a session -/

/-- A world in which a binding is registered for classes, and the set remembers nothing. -/
def World.registering (w : World) (id : Nat) (targets : List Class) (b : Binding) : World :=
  { w with sets := w.sets.modify id fun set => set.register targets b }

/-- No other set is concerned. -/
theorem World.bindingSet_registering (w : World) (id other : Nat) (targets : List Class)
    (b : Binding) :
    (w.registering id targets b).bindingSet other = w.bindingSet other ∨
      (w.registering id targets b).bindingSet other = (w.bindingSet other).register targets b := by
  by_cases hid : id = other
  · subst hid
    simp only [registering, bindingSet, Array.getD_eq_getD_getElem?, Array.getElem?_modify,
      if_true]
    cases w.sets[id]? with
    | none => exact .inl rfl
    | some set => exact .inr rfl
  · refine .inl ?_
    simp [registering, bindingSet, Array.getElem?_modify, hid]

namespace Session

variable {α β : Type}

/-- A session after which a world is still sound. -/
def Safe (m : Session α) : Prop := ∀ w : World, w.Sound → (m.after w).Sound

theorem Safe.bind {m : Session α} {f : α → Session β} (hm : m.Safe) (hf : ∀ a, (f a).Safe) :
    (m >>= f).Safe := by
  intro w hw
  rcases after_bind m f w with heq | ⟨a, heq⟩ <;> rw [heq]
  · exact hm w hw
  · exact hf a _ (hm w hw)

/-- A computation is safe, whatever it is. -/
theorem safe_eval (m : Eval α) : (eval m).Safe :=
  fun _ hw => hw.keeps (keeps_of_run rfl)

theorem safe_addSet {set : BindingSet} (hset : set.cache.entries = []) : (addSet set).Safe := by
  intro w hw
  refine hw.sets fun id => ?_
  by_cases hid : id = w.sets.size
  · exact .inl (by simp [hid, hset])
  · refine .inr ?_
    simp [World.bindingSet, Array.getElem?_push, hid]

theorem safe_register (id : Nat) (type : Value) (b : Binding) : (register id type b).Safe := by
  refine .bind (safe_eval _) fun _ => ?_
  split
  · exact safe_eval _
  next targets _ =>
    refine .bind (fun w hw => hw.sets fun other => ?_) fun _ => safe_eval _
    -- The set that is registered in forgets everything, and no other one is concerned.
    rcases w.bindingSet_registering id other targets b with heq | heq
    · exact .inr heq
    · exact .inl (congrArg (·.cache.entries) heq)

end Session

/-- What adding a class comes to: the class is declared behind the others, with the given bases or
with the most general class, or nothing is declared. -/
inductive World.WithClass (bases : List Class) (members : Named) (w w' : World) : Prop
  | declared {d : Declaration} : ((∀ b ∈ bases, w.store.Has b) → ∀ b ∈ d.bases, w.store.Has b) →
    d.Fits w.store w.store.declarations.size members →
    w' = { w with store := (w.store.declare d members).2 } → WithClass bases members w w'
  | refused : w.Keeps w' → WithClass bases members w w'

theorem withClass_after_addClass (name : String) (bases : List Class) (members : Named)
    (unhashable : Bool) (w : World) :
    w.WithClass bases members ((addClass name bases members unhashable).after w) := by
  have hget : (get : Session World) w = (.ok w, w) := rfl
  rw [addClass, Session.after, Session.bind_apply, hget]
  dsimp only
  cases hnew : w.store.newClass name bases members unhashable with
  | ok made =>
    obtain ⟨c, s⟩ := made
    obtain ⟨d, hd, hfits, rfl⟩ := Store.eq_of_newClass hnew
    refine .declared (fun hbases b hb => ?_) hfits rfl
    rcases hd with hd | hd <;> rw [hd] at hb
    · exact hbases b hb
    · obtain rfl := List.mem_singleton.mp hb
      trivial
  | error problem =>
    exact .refused (Eval.keeps (fault (.plain .typeError problem) : Eval Class) none w)

/-- A class whose bases are there can be added. -/
theorem sound_after_addClass {w : World} (hw : w.Sound) {bases : List Class}
    (hbases : ∀ b ∈ bases, w.store.Has b) (name : String) (members : Named) (unhashable : Bool) :
    ((addClass name bases members unhashable).after w).Sound := by
  cases withClass_after_addClass name bases members unhashable w with
  | declared hd _ heq => exact heq ▸ hw.declare (hd hbases) members
  | refused hkeeps => exact hw.keeps hkeeps

/-! ## Reachable worlds -/

namespace World

/-- The worlds that sessions reach from one in which nothing is remembered yet.  Computations may be
run to their end or up to any point, with or without an exception being handled, and the bases of a
class are classes that are there. -/
inductive Reachable : World → Prop
  | start {w : World} : (∀ id, (w.bindingSet id).cache.entries = []) → w.store.Founded →
    Reachable w
  | run {α : Type} {m : Eval α} {handled : Option Ref} {ended : Except Signal α} {w w' : World} :
    Reachable w → m.run handled w = (ended, w') → Reachable w'
  | addSet {w : World} {set : BindingSet} : Reachable w → set.cache.entries = [] →
    Reachable ((Session.addSet set).after w)
  | register {w : World} (id : Nat) (type : Value) (b : Binding) : Reachable w →
    Reachable ((Session.register id type b).after w)
  | addClass {w : World} {bases : List Class} (name : String) (members : Named)
    (unhashable : Bool) : Reachable w → (∀ b ∈ bases, w.store.Has b) →
    Reachable ((FaultContext.addClass name bases members unhashable).after w)
  /-- Threads, names and observations come and go. -/
  | besides {w w' : World} : Reachable w → w'.store = w.store → w'.sets = w.sets → Reachable w'

/-- **What is remembered in a reachable world is true.** -/
theorem Reachable.sound {w : World} (h : w.Reachable) : w.Sound := by
  induction h with
  | start hentries hfounded => exact ⟨truthful_of_entries hentries, hfounded⟩
  | run _ hrun ih => exact ih.keeps (keeps_of_run hrun)
  | addSet _ hset ih => exact Session.safe_addSet hset _ ih
  | register id type b _ ih => exact Session.safe_register id type b _ ih
  | addClass name members unhashable _ hbases ih =>
    exact sound_after_addClass ih hbases name members unhashable
  | besides _ hstore hsets ih =>
    exact ⟨ih.truthful.of_sets hsets (by rw [hstore]), hstore ▸ ih.founded⟩

end World
end FaultContext
