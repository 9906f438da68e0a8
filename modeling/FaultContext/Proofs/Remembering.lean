/-
# FaultContext.Proofs.Remembering -- what a set remembers makes no difference.

A set of bindings remembers an answer for each type, on each thread.  As long as its rules and its
fallback are pure, this cannot be told from the answers: whatever has been looked up and registered
before, in this set or in others and on whichever threads, looking up a type gives what resolving it
afresh gives, be that a binding or an exception.

What carries this is an invariant (`World.Faithful`): every answer that is remembered was found at
some time by resolving its type, by a set that went by the same as the set does now.  A lookup adds
only what it has just found, and a registration, after which the set goes by something else, makes
the set forget everything on all threads.

A key of a cache stands for all types that are equal to it.  The one type that is resolved unlike
the types that are equal to it is a union made by the operator: a registry refuses it, but an answer
that was found for an equal union made by name is an answer for it.
-/
import FaultContext.Proofs.PlainCalls
import FaultContext.Proofs.Registering

namespace FaultContext

open Eval

/-! ## What is remembered has been found -/

/-- A set that answers by the same rules has found an answer for a type, resolving it afresh in a
world that came before, with the same classes. -/
def BindingSet.HasFound (engine : Engine) (s₀ : Store) (set : BindingSet) (s : Store) (key : Value)
    (b : Binding) : Prop :=
  ∃ id handled w w', s₀.Keeps w.store ∧ s.declarations = w.store.declarations ∧
    (w.bindingSet id).Like set ∧
    (Resolution.compute engine id key).run handled w = (.ok (some b), w')

namespace World

/-- The objects of a store are kept, all sets are pure, and all that is remembered has been found at
some time. -/
structure Faithful (engine : Engine) (s₀ : Store) (w : World) : Prop where
  kept : s₀.Keeps w.store
  pure : ∀ id, (w.bindingSet id).IsPure engine s₀
  found : ∀ id thread key b, (thread, key, b) ∈ (w.bindingSet id).cache.entries →
    (w.bindingSet id).HasFound engine s₀ w.store key b

namespace Faithful

variable {engine : Engine} {s₀ : Store} {w w' : World}

theorem start (hpure : ∀ id, (w.bindingSet id).IsPure engine w.store)
    (hentries : ∀ id, (w.bindingSet id).cache.entries = []) : w.Faithful engine w.store where
  kept := .refl w.store
  pure := hpure
  found id thread key b hb := by
    rw [hentries] at hb
    cases hb

theorem of_sets (hw : w.Faithful engine s₀) (hsets : w'.sets = w.sets)
    (hstore : w.store.Keeps w'.store) : w'.Faithful engine s₀ := by
  have hset : ∀ id, w'.bindingSet id = w.bindingSet id := fun id => by
    rw [bindingSet, bindingSet, hsets]
  refine ⟨hw.kept.trans hstore, fun id => hset id ▸ hw.pure id, fun id thread key b hb => ?_⟩
  rw [hset] at hb ⊢
  obtain ⟨other, handled, v, v', hkept, hold, hlike, hrun⟩ := hw.found id thread key b hb
  exact ⟨other, handled, v, v', hkept, hstore.classes.trans hold, hlike, hrun⟩

/-- What has been found may be remembered. -/
theorem remember (hw : w.Faithful engine s₀) {id : Nat} {type : Value} {answer : Option Binding}
    (h : ∀ b, answer = some b → (w.bindingSet id).HasFound engine s₀ w.store type b) :
    (w.remember id type answer).2.Faithful engine s₀ := by
  refine ⟨hw.kept, fun other => ?_, fun other thread key b hb => ?_⟩
  · rcases w.bindingSet_remember id other type answer with heq | ⟨rfl, heq⟩ <;> rw [heq]
    · exact hw.pure other
    · exact (hw.pure other).of_like ⟨rfl, rfl, rfl, rfl⟩
  · rcases w.bindingSet_remember id other type answer with heq | ⟨rfl, heq⟩ <;> rw [heq] at hb ⊢
    · exact hw.found other thread key b hb
    · have hfound : (w.bindingSet other).HasFound engine s₀ w.store key b := by
        rcases (w.bindingSet other).cache.entries_remember w.store w.thread type answer with
          hsame | ⟨b', hanswer, hmore⟩
        · exact hw.found other thread key b (hsame ▸ hb)
        · rw [hmore, List.mem_append, List.mem_singleton] at hb
          rcases hb with hold | hnew
          · exact hw.found other thread key b hold
          · cases hnew
            exact h b hanswer
      obtain ⟨id, handled, v, v', hkept, hold, hlike, hrun⟩ := hfound
      exact ⟨id, handled, v, v', hkept, hold,
        ⟨hlike.rules, hlike.conventions, hlike.fallback, hlike.registry⟩, hrun⟩

end Faithful
end World

/-! ## Steps that leave the sets alone -/

namespace Eval

variable {α β : Type} {engine : Engine} {s₀ : Store}

/-- A computation after which the world is still faithful. -/
def KeepsFaith (engine : Engine) (s₀ : Store) (m : Eval α) : Prop :=
  ∀ handled (w : World), w.Faithful engine s₀ → (m.run handled w).2.Faithful engine s₀

theorem KeepsFaith.bind {m : Eval α} {f : α → Eval β} (hm : KeepsFaith engine s₀ m)
    (hf : ∀ a, KeepsFaith engine s₀ (f a)) : KeepsFaith engine s₀ (m >>= f) := by
  intro handled w hw
  have hfirst := hm handled w hw
  rw [run_bind]
  generalize m.run handled w = first at hfirst ⊢
  rcases first with ⟨signal | a, w'⟩
  · exact hfirst
  · exact hf a handled w' hfirst

theorem keepsFaith_pure (a : α) : KeepsFaith engine s₀ (pure a : Eval α) := fun _ _ hw => hw

theorem keepsFaith_reading (f : World → α) (h : World.Unaware f) :
    KeepsFaith engine s₀ (reading f h) :=
  fun _ _ hw => hw

section Parallel

variable {m : Eval α} {id : Nat} (h : Parallel engine s₀ id id m m) {handled : Option Ref}
  {w w' : World}
include h

/-- Such a computation touches no set. -/
theorem Parallel.sets (hkept : s₀.Keeps w.store) (hset : (w.bindingSet id).IsPure engine s₀) :
    (m.run handled w).2.sets = w.sets := by
  have hself := h handled w w (.refl hkept hset)
  generalize m.run handled w = ended at hself ⊢
  cases hself with
  | ok a hv => exact hv.sets
  | error signal hstore hsets => exact hsets

theorem Parallel.same {a : α} (hkept : s₀.Keeps w.store)
    (hset : (w.bindingSet id).IsPure engine s₀) (hrun : m.run handled w = (.ok a, w')) :
    w.Same w' := by
  have hself := h handled w w (.refl hkept hset)
  rw [hrun] at hself
  cases hself with
  | ok _ hv => exact hv

end Parallel

theorem keepsFaith_of_parallel (id : Nat) {m : Eval α} (h : Parallel engine s₀ id id m m) :
    KeepsFaith engine s₀ m :=
  fun handled w hw => hw.of_sets (h.sets hw.kept (hw.pure id)) (m.keeps handled w).store

end Eval

namespace Resolution

variable {engine : Engine} {s₀ : Store} {id : Nat} {type : Value}

theorem keepsFaith_recallIn (id : Nat) (type : Value) :
    KeepsFaith engine s₀ (recallIn id type) := by
  refine .bind (keepsFaith_reading _ _) fun set =>
    .bind (keepsFaith_of_parallel id (parallel_warnUnhashable type)) fun unhashable => ?_
  split
  · exact keepsFaith_pure _
  · exact .bind (keepsFaith_reading _ _) fun _ => .bind (keepsFaith_reading _ _) fun _ =>
      keepsFaith_pure _

/-- What is given to the cache has just been found. -/
theorem keepsFaith_computeIn : KeepsFaith engine s₀ (computeIn engine id type) := by
  intro handled w hw
  have hparallel : Parallel engine s₀ id id (computeNoted engine id type)
    (computeNoted engine id type) := parallel_computeNoted type
  have hnoted := keepsFaith_of_parallel id hparallel handled w hw
  rw [computeIn]
  dsimp only [thenChange]
  rcases hrun : (computeNoted engine id type).run handled w with ⟨signal | found, v⟩ <;>
    rw [hrun] at hnoted <;> dsimp only
  · exact hnoted
  · unfold remembering
    split
    · exact hnoted
    · refine hnoted.remember fun b hb => ?_
      have hkeeps := keeps_of_run hrun
      obtain ⟨answer, between, hcompute, hrest⟩ := run_bind_eq_ok.mp hrun
      obtain ⟨_, _, -, hrest⟩ := run_bind_eq_ok.mp hrest
      obtain ⟨unhashable, _, -, hlast⟩ := run_bind_eq_ok.mp hrest
      cases hlast
      cases hb
      exact ⟨id, handled, w, between, hw.kept, hkeeps.store.classes,
        .of_core (hkeeps.core_bindingSet id), hcompute⟩

theorem keepsFaith_lookup : KeepsFaith engine s₀ (lookup engine id type) := by
  refine .bind (keepsFaith_of_parallel id (parallel_note type _)) fun _ =>
    .bind (keepsFaith_recallIn id type) fun found => ?_
  split
  · exact .bind (keepsFaith_of_parallel id (parallel_note type _)) fun _ =>
      keepsFaith_pure _
  · exact keepsFaith_computeIn

end Resolution

/-! ## Looking up as if nothing were remembered -/

/-- A set confuses a type with an equal one, for which it remembers an answer: that one is a union
made by name, and the type is made by the operator. -/
def World.Confuses (w : World) (id : Nat) (type : Value) : Prop :=
  ∃ thread members members' b, type = .unionType members' ∧
    (thread, .union members, b) ∈ (w.bindingSet id).cache.entries ∧
    w.store.agree (.union members) type

namespace Resolution

variable {engine : Engine} {s₀ : Store} {id id' : Nat} {type : Value} {handled : Option Ref}
  {w w' : World}

/-- Resolving a type afresh tells truly whether the type can be a key. -/
theorem unhashable_of_computeNoted {found : Option Binding × Bool} (hkept : s₀.Keeps w.store)
    (hset : (w.bindingSet id).IsPure engine s₀)
    (h : (computeNoted engine id type).run handled w = (.ok found, w')) :
    found.2 = (w.store.unhashable? type).isSome := by
  obtain ⟨answer, v, hcompute, h⟩ := run_bind_eq_ok.mp h
  have hparallel : Parallel engine s₀ id id (compute engine id type) (compute engine id type) :=
    parallel_compute type
  have hv := hparallel.same hkept hset hcompute
  obtain ⟨_, u, hnote, h⟩ := run_bind_eq_ok.mp h
  have hu := hv.trans (same_of_run_note hnote)
  obtain ⟨unhashable, _, hwarn, hlast⟩ := run_bind_eq_ok.mp h
  cases hlast
  rw [(eq_of_run_warnUnhashable hwarn).1, hu.store]

/-- Two runs show the same: the same answer or the same exception, and the same objects. -/
def Shows {α : Type} (ended ended' : Except Signal α × World) : Prop :=
  ended.1 = ended'.1 ∧ ended.2.store = ended'.2.store

/-- Where nothing is remembered, worlds that are alike give the same answer or the same exception. -/
theorem computeIn_of_alike (hw : w.Alike engine s₀ id id' w') (hnone : w.recalled id type = none)
    (hnone' : w'.recalled id' type = none) :
    Shows ((computeIn engine id type).run handled w)
      ((computeIn engine id' type).run handled w') := by
  have hnoted : EndAlike w w' ((computeNoted engine id type).run handled w)
    ((computeNoted engine id' type).run handled w') := parallel_computeNoted type handled w w' hw
  simp only [computeIn, thenChange]
  rcases hrun : (computeNoted engine id type).run handled w with ⟨ended, v⟩
  rcases hrun' : (computeNoted engine id' type).run handled w' with ⟨ended', v'⟩
  rw [hrun, hrun'] at hnoted
  cases hnoted with
  | error signal hstore => exact ⟨rfl, hstore.symm⟩
  | ok found hv hv' =>
    have hkey := unhashable_of_computeNoted hw.kept hw.pure hrun
    have hstore : v'.store = v.store := by rw [hv'.store, hv.store, hw.store]
    rw [← hv.store] at hkey
    obtain ⟨hanswer, hsame⟩ := remembering_of_recalled ((hv.recalled id type).trans hnone) hkey
    rw [← hstore] at hkey
    obtain ⟨hanswer', hsame'⟩ := remembering_of_recalled ((hv'.recalled id' type).trans hnone') hkey
    have hobjects := (hsame.trans hstore.symm).trans hsame'.symm
    exact ⟨congrArg Except.ok (hanswer.trans hanswer'.symm), hobjects⟩

/-- Looking up a type for which neither set remembers anything shows the same in both. -/
theorem lookup_of_recalled (hw : w.Alike engine s₀ id id' w') (hnone : w.recalled id type = none)
    (hnone' : w'.recalled id' type = none) :
    Shows ((Resolution.lookup engine id type).run handled w)
      ((Resolution.lookup engine id' type).run handled w') := by
  rw [run_lookup, run_lookup, hnone, hnone']
  -- Up to where the type is resolved, the two runs go the same way in worlds that stay alike.
  have hstart : EndAlike w w' ((note type "start").run handled w)
    ((note type "start").run handled w') := parallel_note type "start" handled w w' hw
  rw [run_bind, run_bind]
  generalize (note type "start").run handled w = started,
    (note type "start").run handled w' = started' at hstart ⊢
  cases hstart with
  | error signal hstore => exact ⟨rfl, hstore.symm⟩
  | @ok _ v v' hv hv' =>
    have hwarn : EndAlike v v' ((warnUnhashable type).run handled v)
      ((warnUnhashable type).run handled v') :=
      parallel_warnUnhashable type handled v v' (hw.of_same hv hv')
    dsimp only
    rw [run_bind, run_bind]
    generalize (warnUnhashable type).run handled v = warned,
      (warnUnhashable type).run handled v' = warned' at hwarn ⊢
    cases hwarn with
    | error signal hstore => exact ⟨rfl, hstore.symm⟩
    | ok _ hu hu' =>
      have hforgotten := ((hv.trans hu).recalled id type).trans hnone
      have hforgotten' := ((hv'.trans hu').recalled id' type).trans hnone'
      exact computeIn_of_alike (hw.of_same (hv.trans hu) (hv'.trans hu')) hforgotten hforgotten'

/-- A text that is to be traced and cannot be made ends both lookups alike.  So it is enough to look at
types whose text can be made where it is traced. -/
theorem lookup_of_traced (hw : w.Alike engine s₀ id id' w')
    (h : (w.tracing → ∃ text, w.store.repr type = .ok text) →
      Shows ((lookup engine id type).run handled w) ((lookup engine id' type).run handled w')) :
    Shows ((lookup engine id type).run handled w) ((lookup engine id' type).run handled w') := by
  have hstart : EndAlike w w' ((note type "start").run handled w)
    ((note type "start").run handled w') := parallel_note type "start" handled w w' hw
  rcases hrun : (note type "start").run handled w with ⟨signal | _, v⟩
  · rcases hrun' : (note type "start").run handled w' with ⟨ended', v'⟩
    rw [hrun, hrun'] at hstart
    cases hstart with
    | error _ hstore =>
      rw [run_lookup, run_lookup, run_bind_of_error hrun, run_bind_of_error hrun']
      exact ⟨rfl, hstore.symm⟩
  · exact h (traced_of_run_note hrun)

/-- An answer that has been found for an equal type, and that is not confused with it, is found
afresh as well. -/
theorem lookup_of_hasFound {b : Binding} (hw : w.Faithful engine s₀)
    (halike : w.Alike engine s₀ id id' w') (htype : ∀ r, type ≠ .object r)
    (hconfused : ¬ w.Confuses id type) (hrecalled : w.recalled id type = some b)
    (hnone' : w'.recalled id' type = none) :
    Shows ((lookup engine id type).run handled w) ((lookup engine id' type).run handled w') := by
  obtain ⟨hhashable, thread, key, hentry, hagree⟩ := World.exists_of_recalled hrecalled
  refine lookup_of_traced halike fun htraced => ?_
  have htraced' : w'.tracing → ∃ text, w'.store.repr type = .ok text := by
    rw [halike.tracing, halike.store]
    exact htraced
  have hlegible := World.legible_of_key hhashable htraced
  have hlegible' := World.legible_of_key (halike.store ▸ hhashable) htraced'
  obtain ⟨v, hv, hrun⟩ := run_lookup_of_legible hlegible engine handled id
  obtain ⟨v', hv', hrun'⟩ := run_lookup_of_legible hlegible' engine handled id'
  rw [hrun, hrun', hrecalled, hnone']
  -- One of the two goes on with what is recalled, the other one resolves the type.
  obtain ⟨other, past, u, u', hkept, hclasses, hlike, hfound⟩ := hw.found id thread key b hentry
  have hstore : v'.store = w.store := hv'.store.trans halike.store
  have htypes : u.store.Matches key v'.store type := by
    rw [hstore]
    refine ⟨hclasses, hagree, hhashable, htype, ?_⟩
    rintro members members' rfl hunion
    exact hconfused ⟨thread, members, members', b, hunion, hentry, hagree⟩
  have htwin : u.Twin engine s₀ other id' key type v' := by
    refine ⟨hkept, hstore ▸ hw.kept, htypes, ?_, hv'.bindingSet id' ▸ hlike.trans halike.set,
      (hw.pure id).of_like hlike.symm⟩
    rw [hv'.store, hv'.tracing]
    exact htraced'
  have hfollows : Follows engine s₀ other id' key type (compute engine other key)
    (compute engine id' type) := follows_compute
  obtain ⟨-, u₁, hcompute, hu₁⟩ := hfollows past handled u v' (some b) u' htwin hfound
  obtain ⟨v₁, hanswer, hkept⟩ := run_computeIn_of_compute (hlegible'.of_same hv')
    ((hv'.recalled id' type).trans hnone') hcompute hu₁
  obtain ⟨v₂, hcached, hv₂⟩ := run_note (hlegible.of_same hv) handled "cached"
  have hresumed : (resumed engine id type (some b)).run handled v = (.ok (some b), v₂) :=
    (run_bind_of_ok hcached).trans (run_pure _)
  have hresumed' : (resumed engine id' type none).run handled v' = (.ok (some b), v₁) := hanswer
  rw [hresumed, hresumed']
  have hobjects : v₂.store = v₁.store := by rw [hv₂.store, hkept, hstore, hv.store]
  exact ⟨rfl, hobjects⟩

/-- **A faithful world answers a lookup as if it remembered nothing**, unless it confuses the type with
one that it remembers. -/
theorem lookup_of_faithful (hw : w.Faithful engine s₀) (halike : w.Alike engine s₀ id id' w')
    (htype : ∀ r, type ≠ .object r) (hconfused : ¬ w.Confuses id type)
    (hempty : (w'.bindingSet id').cache.entries = []) :
    Shows ((Resolution.lookup engine id type).run handled w)
      ((Resolution.lookup engine id' type).run handled w') := by
  have hnone' := World.recalled_of_entries hempty type
  cases hrecalled : w.recalled id type with
  | none => exact lookup_of_recalled halike hrecalled hnone'
  | some b => exact lookup_of_hasFound hw halike htype hconfused hrecalled hnone'

end Resolution

/-! ## Histories -/

/-- What is done to sets of bindings from outside. -/
inductive Request where
  | register (id : Nat) (type : Value) (b : Binding)
  | lookup (id : Nat) (type : Value)

namespace Request

/-- Runs an operation to its end, whether it succeeds or not. -/
def run (engine : Engine) : Request → Session Unit
  | .register id type b => Session.register id type b
  | .lookup id type => Session.eval (Resolution.lookup engine id type >>= fun _ => pure ())

/-- Whether a request is to register a binding in a set. -/
def registersIn (id : Nat) : Request → Bool
  | .register other _ _ => other = id
  | .lookup _ _ => false

end Request

/-- The world after requests on any threads, one after the other. -/
def World.afterAll (engine : Engine) (w : World) : List (Nat × Request) → World
  | [] => w
  | (thread, request) :: rest => ((request.run engine).after { w with thread }).afterAll engine rest

namespace Session

variable {α β : Type} {engine : Engine} {s₀ : Store}

/-- A session after which the world is still faithful. -/
def KeepsFaith (engine : Engine) (s₀ : Store) (m : Session α) : Prop :=
  ∀ w : World, w.Faithful engine s₀ → (m.after w).Faithful engine s₀

theorem KeepsFaith.bind {m : Session α} {f : α → Session β} (hm : KeepsFaith engine s₀ m)
    (hf : ∀ a, KeepsFaith engine s₀ (f a)) : KeepsFaith engine s₀ (m >>= f) := by
  intro w hw
  rcases after_bind m f w with heq | ⟨a, heq⟩ <;> rw [heq]
  · exact hm w hw
  · exact hf a _ (hm w hw)

theorem keepsFaith_eval {m : Eval α} (h : Eval.KeepsFaith engine s₀ m) :
    KeepsFaith engine s₀ (eval m) := h none

theorem parallel_checkRegistrable (id id' : Nat) (type : Value) :
    Eval.Parallel engine s₀ id id' (checkRegistrable id type) (checkRegistrable id' type) := by
  have hlast : ∀ {taken : Bool} {message : String → String},
      Eval.Parallel engine s₀ id id'
        (if taken then Eval.repr type >>= fun text => raiseNew .ambiguousBinding (message text)
        else pure ())
        (if taken then Eval.repr type >>= fun text => raiseNew .ambiguousBinding (message text)
        else pure ()) := by
    intro taken message
    split
    · exact .bind (.repr type) fun _ => .raiseNew _ _
    · exact .pure ()
  refine .store fun s => ?_
  dsimp only
  split
  · exact .fault_bind _
  · split
    · refine .reading fun w w' hw => ?_
      rw [hw.set.registry]
      split
      · exact .bind (.repr _) fun _ => .bind (.raiseNew _ _) fun _ => hlast
      · exact hlast
    · exact hlast

/-- A set that a binding is registered in remembers nothing. -/
theorem faithful_registering {w : World} (hw : w.Faithful engine s₀) (id : Nat)
    (targets : List Class) (b : Binding) : (w.registering id targets b).Faithful engine s₀ := by
  refine ⟨hw.kept, fun other => ?_, fun other thread key b' hb => ?_⟩
  · rcases w.bindingSet_registering id other targets b with heq | heq <;> rw [heq]
    · exact hw.pure other
    · exact ⟨(hw.pure other).rules, (hw.pure other).conventions, (hw.pure other).fallback⟩
  · rcases w.bindingSet_registering id other targets b with heq | heq <;> rw [heq] at hb ⊢
    · exact hw.found other thread key b' hb
    · cases hb

theorem keepsFaith_register (id : Nat) (type : Value) (b : Binding) :
    KeepsFaith engine s₀ (register id type b) := by
  refine .bind (keepsFaith_eval
    (keepsFaith_of_parallel id (parallel_checkRegistrable id id type))) fun _ => ?_
  split
  · exact keepsFaith_eval
      (keepsFaith_of_parallel id (.bind (.repr type) fun _ => .fault _))
  next targets _ =>
    refine .bind (fun w hw => faithful_registering hw id targets b) fun _ => ?_
    exact keepsFaith_eval (keepsFaith_of_parallel id
      (.trace (.bind (.repr type) fun _ => .store fun _ => .pure _)))

/-- No request makes a world remember what has not been found. -/
theorem keepsFaith_request (request : Request) : KeepsFaith engine s₀ (request.run engine) := by
  cases request with
  | register id type b => exact keepsFaith_register id type b
  | lookup id type =>
    exact keepsFaith_eval (.bind Resolution.keepsFaith_lookup fun _ => keepsFaith_pure _)

end Session

namespace World

variable {engine : Engine} {s₀ : Store}

/-- A history of requests leaves a faithful world faithful. -/
theorem Faithful.afterAll {w : World} (hw : w.Faithful engine s₀) (history : List (Nat × Request)) :
    (w.afterAll engine history).Faithful engine s₀ := by
  induction history generalizing w with
  | nil => exact hw
  | cons entry rest ih =>
    obtain ⟨thread, request⟩ := entry
    exact ih (Session.keepsFaith_request request _ (hw.of_sets rfl (.refl w.store)))

/-- Looking up and registering elsewhere make no difference to what a set answers by. -/
theorem Level.afterAll {id : Nat} {w w' : World} (h : w.Level id w')
    (history : List (Nat × Request)) :
    (w.afterAll engine history).Level id
      (w'.afterAll engine (history.filter fun entry => entry.2.registersIn id)) := by
  induction history generalizing w w' with
  | nil => exact h
  | cons entry rest ih =>
    obtain ⟨thread, request⟩ := entry
    have hthread : World.Level id { w with thread } w' := ⟨h.classes, h.core⟩
    cases request with
    | lookup other type =>
      have hkeeps : World.Keeps { w with thread } (((Request.lookup other type).run engine).after
          { w with thread }) := Eval.keeps _ none { w with thread }
      exact ih ((of_keeps hkeeps id).symm.trans hthread)
    | register other type b =>
      by_cases hid : other = id
      · subst hid
        have hthread' : World.Level other { w with thread } { w' with thread } :=
          ⟨h.classes, h.core⟩
        have hkept : (Request.register other type b).registersIn other = true :=
          decide_eq_true rfl
        rw [List.filter_cons_of_pos]
        · exact ih (hthread'.register type b)
        · exact hkept
      · have hdropped : ¬ (Request.register other type b).registersIn id = true := by
          simpa [Request.registersIn] using hid
        rw [List.filter_cons_of_neg]
        · exact ih ((register_other hid type b).symm.trans hthread)
        · exact hdropped

/-- A world with the same objects and one set, which goes by the same as a set of the other world
and remembers nothing. -/
def alone (w : World) (id : Nat) : World :=
  { w with sets := #[{ w.bindingSet id with cache := Cache.empty false }] }

theorem alone_spec (w : World) (id : Nat) :
    (w.alone id).store = w.store ∧ (w.alone id).tracing = w.tracing ∧
      (w.bindingSet id).Like ((w.alone id).bindingSet 0) ∧
      ((w.alone id).bindingSet 0).cache.entries = [] :=
  ⟨rfl, rfl, ⟨rfl, rfl, rfl, rfl⟩, rfl⟩

/-- Whether an answer is the convention that adds a layer can be decided. -/
instance (answer : Except Signal (Option Binding)) : Decidable (answer = .ok (some .chain)) :=
  match answer with
  | .ok (some .chain) => .isTrue rfl
  | .ok (some .note) | .ok (some .method) | .ok (some .unregistered) | .ok (some (.custom _))
  | .ok none | .error _ => .isFalse nofun

/-- **Looking up a type after any history of requests is resolving it afresh.**  A set goes by the
registrations that were made in it and by nothing else, and the answer to a lookup, on any thread,
is the one that a set which goes by the same and remembers nothing gives in any world with the same
objects.  So is the exception, where there is no answer. -/
theorem lookup_eq_afresh {engine : Engine} {w₀ : World}
    (hpure : ∀ id, (w₀.bindingSet id).IsPure engine w₀.store)
    (hempty : ∀ id, (w₀.bindingSet id).cache.entries = []) (history : List (Nat × Request))
    (id : Nat) :
    let w₁ := w₀.afterAll engine history
    (w₁.bindingSet id).core =
        ((w₀.afterAll engine (history.filter fun entry => entry.2.registersIn id)).bindingSet
          id).core ∧
      ∀ {type : Value}, (∀ r, type ≠ .object r) → ¬ w₁.Confuses id type →
        ∀ {w : World} {id' : Nat}, w.store = w₁.store → w.tracing = w₁.tracing →
          (w₁.bindingSet id).Like (w.bindingSet id') → (w.bindingSet id').cache.entries = [] →
          ∀ (thread : Nat) (handled : Option Ref),
            let looked := (Resolution.lookup engine id type).run handled { w₁ with thread }
            let afresh := (Resolution.lookup engine id' type).run handled w
            looked.1 = afresh.1 ∧ looked.2.store = afresh.2.store := by
  intro w₁
  refine ⟨(((Level.refl id w₀).afterAll history).core_bindingSet).symm, ?_⟩
  intro type htype hconfused w id' hstore htracing hlike hforgotten thread handled
  have hfaithful := (Faithful.start hpure hempty).afterAll history
  have halike : World.Alike engine w₀.store id id' { w₁ with thread } w :=
    ⟨hfaithful.kept, hstore, htracing, hlike, hfaithful.pure id⟩
  have hthread : World.Faithful engine w₀.store { w₁ with thread } :=
    hfaithful.of_sets rfl (.refl w₁.store)
  exact Resolution.lookup_of_faithful hthread halike htype hconfused hforgotten

/-- The answers of a rule that adds notes to errors about values. -/
def notingValues : Answers := fun _ type =>
  match type.kind with
  | .cls (.standard .valueError) => .ok (some .note)
  | _ => .ok none

/-- A function of the program that never has an answer is a pure rule. -/
theorem isPure_abstaining {s₀ : Store} {r : Ref} {f : Function}
    (hf : s₀.function? (.object r) = some f)
    (hparams : f.params = [⟨"typ", .standard, none⟩, ⟨"ctx", .standard, none⟩])
    (hcode : f.code = .body .direct (.value .none) 0 none) (depth : Nat) :
    (Rule.program (.object r)).IsPure (Engine.within (depth + 1)) s₀ := by
  refine @Rule.isPure_program _ _ _ (fun _ _ => .ok none) (fun _ _ _ _ _ _ h => h) ?_
  intro w hw id type handled
  refine ⟨w, .refl w, ?_⟩
  obtain ⟨attributes, hf⟩ := hw.objects.function? hf
  have hcall : ((Engine.within (depth + 1)).call (.object r) []
      [("typ", type), ("ctx", .bindings id)]).run handled w = (.ok .none, w) := by
    have hslots : f.params.enter [] [("typ", type), ("ctx", .bindings id)] =
        .ok [("typ", type), ("ctx", .bindings id)] := by
      rw [hparams]
      rfl
    have hform : f.code.form = .direct := by
      rw [hcode]
      rfl
    have hbody : (Engine.within depth).HasBody { f with attributes } _ :=
      (Engine.within depth).hasBody_of_code hcode
    rw [run_call_function hf, Engine.callFunction, hform]
    dsimp only
    rw [hbody, Function.enter, hslots]
    rfl
  exact run_bind_of_ok hcall

/-- A class is looked up on two threads, and then a binding is registered for a more general one.
On both threads it is this binding that is found from then on.  One rule of the set is a function of
the program, one is known by its answers, and the fallback raises an exception. -/
theorem registration_seen_on_other_thread :
    let set : BindingSet :=
      ⟨[.function "values" notingValues, .program (.object ⟨0⟩), .registered], [],
        .function fun _ _ => .error ⟨Standard.lookupError, []⟩, Cache.empty true, Registry.initial⟩
    let w₀ : World := { World.holding #[.taking [⟨"typ", .standard, none⟩, ⟨"ctx", .standard, none⟩]
        (.body .direct (.value .none) 0 none)] with sets := #[BindingSet.standard, set] }
    let engine := Engine.within 2
    let history : List (Nat × Request) :=
      [(1, .lookup 1 (.std .valueError)), (2, .lookup 1 (.std .unicodeDecodeError)),
        (0, .register 0 (.std .keyError) .note), (2, .register 1 (.std .lookupError) .chain),
        (2, .lookup 1 (.std .keyError))]
    let looked := (Resolution.lookup engine 1 (.std .keyError)).run none
      { w₀.afterAll engine history with thread := 1 }
    let afresh := (Resolution.lookup engine 0 (.std .keyError)).run none
      ((w₀.afterAll engine history).alone 1)
    looked.1 = afresh.1 ∧ looked.2.store = afresh.2.store ∧ afresh.1 = .ok (some .chain) := by
  intro set w₀ engine history
  have hpure : ∀ id, (w₀.bindingSet id).IsPure engine w₀.store := by
    have hstandard : BindingSet.standard.IsPure engine w₀.store := by
      constructor <;> simp [BindingSet.standard, Rule.IsPure, Fallback.IsPure]
    have hvalues : notingValues.Equable := Answers.equable_of_kind fun _ key type hkind => by
      rw [notingValues, notingValues, hkind]
    have hset : set.IsPure engine w₀.store := by
      refine ⟨?_, List.forall_mem_nil _, Fallback.isPure_function fun _ _ _ _ _ _ h => h⟩
      simp only [set, List.forall_mem_cons]
      exact ⟨Rule.isPure_function hvalues, isPure_abstaining rfl rfl rfl 1, trivial,
        List.forall_mem_nil _⟩
    intro id
    match id with
    | 0 => exact hstandard
    | 1 => exact hset
    | _ + 2 => exact hstandard
  have hempty : ∀ id, (w₀.bindingSet id).cache.entries = [] := by
    intro id
    match id with
    | 0 => rfl
    | 1 => rfl
    | _ + 2 => rfl
  obtain ⟨hstored, htraced, hlike, hforgotten⟩ := World.alone_spec (w₀.afterAll engine history) 1
  -- A class is not confused with anything: it is no union.
  have hconfused : ¬ (w₀.afterAll engine history).Confuses 1 (.std .keyError) := by
    rintro ⟨_, _, _, _, hunion, -⟩
    cases hunion
  have htype : ∀ r, Value.std .keyError ≠ .object r := by rintro r ⟨⟩
  have hafresh := (World.lookup_eq_afresh hpure hempty history 1).2 htype hconfused hstored htraced
    hlike hforgotten 1 none
  have hfound : ((Resolution.lookup engine 0 (.std .keyError)).run none
      ((w₀.afterAll engine history).alone 1)).1 = .ok (some .chain) := by decide +kernel
  generalize w₀.afterAll engine history = w at hafresh hfound ⊢
  exact ⟨hafresh.1, hafresh.2, hfound⟩

/-- A union made by name is looked up, and then the equal one made by the operator.  What is
remembered for the one answers for the other, which the registry, asked afresh, refuses. -/
theorem equal_union_answered :
    let engine := Engine.within 0
    let history := [(0, Request.lookup 0 (.union [.std .int, .std .str]))]
    let type := Value.unionType [.std .int, .std .str]
    let w := World.initial.afterAll engine history
    (∀ id, (World.initial.bindingSet id).IsPure engine World.initial.store ∧
      (World.initial.bindingSet id).cache.entries = []) ∧
    World.initial.store = w.store ∧ World.initial.tracing = w.tracing ∧
    (w.bindingSet 0).Like (World.initial.bindingSet 0) ∧
    ((Resolution.lookup engine 0 type).run none w).1 = .ok (some .chain) ∧
    ∃ problem w', (Resolution.lookup engine 0 type).run none World.initial =
        (.error (.raised problem), w') ∧
      (w'.store.get? problem).map Object.cls = some (.standard .typeError) := by
  refine ⟨fun id => ?_, rfl, rfl, ⟨rfl, rfl, rfl, rfl⟩, by decide +kernel, _, _, rfl, rfl⟩
  have hset : World.initial.bindingSet id = BindingSet.standard := by cases id <;> rfl
  rw [hset]
  refine ⟨?_, rfl⟩
  constructor <;> simp [BindingSet.standard, Rule.IsPure, Fallback.IsPure]

end World
end FaultContext
