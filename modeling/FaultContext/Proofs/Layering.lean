/-
# FaultContext.Proofs.Layering -- layers of context around a failure.

The convention of the standard set adds an exception whose source is the failure.  Nothing else
changes: every object that there was is as it was (`Store.Untouched`), and so the layers that lie
around a failure already stay what they are when one more is put around them.

The store may hold a link to a place at which there is no object yet.  Programs cannot make such
links, but nothing here depends on that: an object with such a link may lose it, and that is all.
-/
import FaultContext.Proofs.Chaining
import FaultContext.Proofs.FailureBranch
import FaultContext.Proofs.Stack

namespace FaultContext

open Eval

/-! ## Making a layer -/

/-- A new layer of context around a failure. -/
def Store.newLayer (s : Store) (context source : Value) : Object :=
  ⟨Standard.contextError, [("context", context), ("source", source)],
    .exception [context] (s.exception? source) none⟩

theorem Initial.along_exception (s : Store) (context : Value) (i : Initial) :
    Initial.along s Standard.contextError
      [.standard .exception, .standard .baseException, .standard .object] [context] [] i =
      .ok { i with args := [context] } := by
  rfl

theorem Initial.ofClass_contextError (s : Store) (context source : Value) :
    Initial.ofClass s Standard.contextError [context, source] [] =
      .ok ⟨[context], [("context", context), ("source", source)], s.exception? source⟩ := by
  have horder : s.order Standard.contextError =
    [.standard .contextError, .standard .exception, .standard .baseException, .standard .object] :=
      rfl
  have hslots : Initial.enter "ContextError"
      ((Store.initializer? Standard.contextError).getD []) [context, source] [] =
        .ok [("self", .none), ("context", context), ("source", source)] := rfl
  have hcontext : Named.slot [("self", .none), ("context", context), ("source", source)]
    "context" = context := rfl
  have hsource : Named.slot [("self", .none), ("context", context), ("source", source)]
    "source" = source := rfl
  -- The first class of the order keeps both values and hands the context on to the others.
  rw [Initial.ofClass, horder, Initial.along]
  dsimp only
  rw [hslots]
  simp only [bind, Except.bind, hcontext, hsource, Initial.along_exception]
  simp [Initial.set, pure, Except.pure, Named.set]

theorem run_contextError (context source : Value) (handled : Option Ref) (w : World) :
    (contextError context source).run handled w =
      (.ok (.object (w.store.insert (w.store.newLayer context source)).1),
        { w with store := (w.store.insert (w.store.newLayer context source)).2 }) := by
  have hplain : plainInstance? w.store Standard.contextError [context, source] [] = none := rfl
  have habstract : isAbstract w.store Standard.contextError = false := rfl
  have hexception : w.store.isExceptionClass Standard.contextError = true := rfl
  have hclass : exceptionClass Standard.contextError [context, source] =
    Standard.contextError := rfl
  simp only [contextError, construct, run_bind, run_store, hplain, habstract, hexception, hclass,
    List.isEmpty_nil, if_true, Bool.false_eq_true, if_false, Initial.ofClass_contextError,
    run_lift_ok]
  rfl

/-- A set puts layers around a failure: it chains, or it adds notes and the failure is no exception,
so that there is nothing to add them to. -/
inductive World.Covers (w : World) (id : Nat) (error : Value) : Prop
  | chained : w.Leaves id .chained → Covers w id error
  | noted : w.Leaves id .noted → w.store.exception? error = none → Covers w id error

theorem World.Covers.keeps {w w' : World} {id : Nat} {error : Value} (hw : w.Covers id error)
    (h : w.Keeps w') (he : w.store.Exists error) : w'.Covers id error := by
  cases hw with
  | chained hw => exact .chained (hw.keeps h)
  | noted hw hnone => exact .noted (hw.keeps h) ((h.store.objects.exception? he).trans hnone)

/-- A failure of a class that is left to the convention of such a set gets a layer around it, and
that is all. -/
theorem Resolution.run_wrap_of_covers (engine : Engine) {id : Nat} {error : Value} {w : World}
    (hw : w.Covers id error) (hc : w.store.Chained (w.store.classOf error)) (context : Value)
    (handled : Option Ref) :
    ∃ w', (wrap engine id error context).run handled w =
        (.ok (.object (w.store.insert (w.store.newLayer context error)).1), w') ∧
      w'.store = (w.store.insert (w.store.newLayer context error)).2 := by
  obtain ⟨b, u, hlookup, hstore, happly⟩ : ∃ b u,
      (lookup engine id (.cls (w.store.classOf error))).run handled w = (.ok b, u) ∧
      u.store = w.store ∧
      (apply engine b error context).run handled u = (contextError context error).run handled u := by
    cases hw with
    | chained hw =>
      obtain ⟨u, hlookup, hstore⟩ := hw.run_lookup engine hc rfl handled
      exact ⟨_, u, hlookup, hstore, rfl⟩
    | noted hw hnone =>
      obtain ⟨u, hlookup, hstore⟩ := hw.run_lookup engine hc rfl handled
      refine ⟨_, u, hlookup, hstore, run_bind_of_ok run_store |>.trans ?_⟩
      simp only [hstore, hnone]
  refine ⟨{ u with store := (w.store.insert (w.store.newLayer context error)).2 }, ?_, rfl⟩
  rw [wrap, run_bind_of_ok run_store, run_bind_of_ok hlookup, happly, run_contextError, hstore]

/-! ## Objects that stay as they are -/

namespace Store

/-- Every object of a store is as it was.  Only a context at which there was no object may be gone.
-/
def Untouched (s s' : Store) : Prop :=
  ∀ r o, s.get? r = some o → s'.get? r = some o ∨
    ∃ args cause next, o.body = .exception args cause (some next) ∧ s.get? next = none ∧
      s'.get? r = some { o with body := .exception args cause none }

namespace Untouched

variable {s s' s'' : Store}

theorem refl (s : Store) : s.Untouched s := fun _ _ h => .inl h

theorem isSome (h : s.Untouched s') {r : Ref} {o : Object} (hr : s.get? r = some o) :
    ∃ o', s'.get? r = some o' := by
  rcases h r o hr with hsame | ⟨_, _, _, -, -, hcut⟩
  · exact ⟨_, hsame⟩
  · exact ⟨_, hcut⟩

theorem trans (h : s.Untouched s') (h' : s'.Untouched s'') : s.Untouched s'' := by
  intro r o hr
  rcases h r o hr with hsame | ⟨args, cause, next, hbody, hnext, hcut⟩
  · rcases h' r o hsame with hsame' | ⟨args, cause, next, hbody, hnext, hcut⟩
    · exact .inl hsame'
    · refine .inr ⟨args, cause, next, hbody, ?_, hcut⟩
      cases hold : s.get? next with
      | none => rfl
      | some old =>
        obtain ⟨o', ho'⟩ := h.isSome hold
        rw [hnext] at ho'
        cases ho'
  · refine .inr ⟨args, cause, next, hbody, hnext, ?_⟩
    -- A link that is gone cannot be cut again.
    rcases h' r _ hcut with hsame' | ⟨_, _, _, hbody', -, -⟩
    · exact hsame'
    · cases hbody'

theorem persists (h : s.Untouched s') : s.Persists s' := by
  intro r core hr
  obtain ⟨o, ho, rfl⟩ := Option.map_eq_some_iff.mp hr
  rcases h r o ho with hsame | ⟨args, cause, next, hbody, -, hcut⟩
  · rw [hsame, Option.map_some]
  · rw [hcut, Option.map_some, Object.core, Object.core, hbody]
    rfl

/-- An object whose context is there is the same object. -/
theorem get? (h : s.Untouched s') {r : Ref} {o : Object} (hr : s.get? r = some o)
    (hcontext : ∀ next, s.contextOf r = some next → (s.get? next).isSome) :
    s'.get? r = some o := by
  rcases h r o hr with hsame | ⟨args, cause, next, hbody, hnext, -⟩
  · exact hsame
  · obtain ⟨c, attributes, body⟩ := o
    cases hbody
    have hsome := hcontext next (by simp only [contextOf, hr])
    rw [hnext] at hsome
    cases hsome

theorem insert (h : s.Untouched s') (o : Object) : s.Untouched (s'.insert o).2 :=
  h.trans fun _ _ hr => .inl (get?_insert_of_get? o hr)

section Fresh

variable (h : s.Untouched s') {r : Ref} (hr : s.get? r = none)
include h hr

/-- What happens to the links of a new object does not concern the others. -/
theorem setLinks (change : Option Ref × Option Ref → Option Ref × Option Ref) :
    s.Untouched (s'.setLinks r change) := by
  intro q o hq
  have hne : r ≠ q := by
    rintro rfl
    rw [hr] at hq
    cases hq
  simpa only [Store.setLinks, get?_modify_ne s' hne] using h q o hq

/-- A link to the place of a new object led nowhere before. -/
theorem cutLinkTo (q : Ref) : s.Untouched (s'.cutLinkTo r q) := by
  unfold Store.cutLinkTo
  split
  next last hlast =>
    -- The link that is cut leads to `r`, where there was no object.
    have hcontext := contextOf_of_linkTo hlast
    intro q' o hq'
    by_cases hne : last = q'
    · subst hne
      refine .inr ?_
      rcases h last o hq' with hsame | ⟨_, _, _, -, -, hcut⟩
      · obtain ⟨c, attributes, body⟩ := o
        simp only [contextOf, hsame] at hcontext
        cases body <;> cases hcontext
        next args cause =>
          refine ⟨args, cause, r, rfl, hr, ?_⟩
          simp only [setContext, Store.setLinks, get?_modify_self, hsame, Option.map_some]
      · simp only [contextOf, hcut] at hcontext
        cases hcontext
    · simpa only [setContext, Store.setLinks, get?_modify_ne s' hne] using h q' o hq'
  next => exact h

theorem recordContext (handled : Ref) : s.Untouched (s'.recordContext r handled) := by
  unfold Store.recordContext
  split
  · exact h
  · exact (h.cutLinkTo hr handled).setLinks hr _

end Fresh

theorem follow?_cause (h : s.Untouched s') {r : Ref} {v : Value}
    (hr : s.follow? r .cause = some v) : s'.follow? r .cause = some v := by
  obtain ⟨⟨c, attributes, body⟩, ho, hnext⟩ := get?_of_follow? hr
  rcases h r _ ho with hsame | ⟨args, cause, next, hbody, -, hcut⟩
  · rw [Store.follow?, hsame]
    exact hnext
  · cases hbody
    rw [Store.follow?, hcut]
    exact hnext

end Untouched

/-! ## Layers -/

theorem Untouched.label? {s s' : Store} (h : s.Untouched s') {r : Ref} {found : Class × Named}
    (hr : s.label? r = some found) : s'.label? r = some found := by
  obtain ⟨o, ho, rfl⟩ := Option.map_eq_some_iff.mp hr
  rcases h r o ho with hsame | ⟨_, _, _, -, -, hcut⟩
  · rw [Store.label?, hsame, Option.map_some]
  · rw [Store.label?, hcut, Option.map_some]

/-- An object is a layer of context around a value.  An exception that it is around is its cause. -/
structure Layer (s : Store) (r : Ref) (context source : Value) : Prop where
  label : ∃ attributes, s.label? r = some (.standard .contextError, attributes) ∧
    attributes.get? "context" = some context ∧ attributes.get? "source" = some source
  cause : ∀ x, s.exception? source = some x → s.follow? r .cause = some (.object x)
  source_exists : s.Exists source

theorem Untouched.layer {s s' : Store} (h : s.Untouched s') {r : Ref} {context source : Value}
    (hr : s.Layer r context source) : s'.Layer r context source where
  label := by
    obtain ⟨attributes, hlabel, hattributes⟩ := hr.label
    exact ⟨attributes, h.label? hlabel, hattributes⟩
  cause x hx := h.follow?_cause (hr.cause x ((h.persists.exception? hr.source_exists).symm.trans hx))
  source_exists q hq := by
    obtain ⟨o, ho⟩ := Option.isSome_iff_exists.mp (hr.source_exists q hq)
    exact Option.isSome_iff_exists.mpr (h.isSome ho)

/-- A new layer is a layer. -/
theorem layer_insert (s : Store) (context source : Value) (hsource : s.Exists source) :
    (s.insert (s.newLayer context source)).2.Layer (s.insert (s.newLayer context source)).1
      context source := by
  have hinsert := (Untouched.refl s).insert (s.newLayer context source)
  refine ⟨⟨_, by rw [label?, get?_insert]; rfl, rfl, rfl⟩, fun x hx => ?_, fun q hq => ?_⟩
  · rw [hinsert.persists.exception? hsource] at hx
    rw [follow?_insert_self]
    exact congrArg (Option.map Value.object) hx
  · obtain ⟨o, ho⟩ := Option.isSome_iff_exists.mp (hsource q hq)
    exact Option.isSome_iff_exists.mpr (hinsert.isSome ho)

/-- A layer around an exception is still one when it is raised from that exception. -/
theorem Layer.raiseFrom {s : Store} {r exc : Ref} {context : Value}
    (h : s.Layer r context (.object exc)) :
    ((s.setCause r (some exc)).recordContext r exc).Layer r context (.object exc) where
  label := by
    obtain ⟨attributes, hlabel, hattributes⟩ := h.label
    exact ⟨attributes, by rw [label?_recordContext, setCause, label?_setLinks, hlabel], hattributes⟩
  cause x hx := by
    rw [exception?_recordContext, setCause, exception?_setLinks] at hx
    obtain rfl := Value.object.inj (eq_object_of_exception? hx).symm
    rw [follow?_recordContext_of_ne _ _ _ _ (by decide)]
    obtain ⟨⟨c, attributes, body⟩, ho, hnext⟩ := get?_of_follow? (h.cause x hx)
    cases body with
    | exception args cause link =>
      simp only [follow?, setCause, setLinks, get?_modify_self, ho, Option.map_some,
        Option.bind_some, Object.follow?]
    | _ => cases hnext
  source_exists := by
    have hkeeps := (s.keeps_setCause r (some exc)).trans (keeps_recordContext _ r exc)
    exact hkeeps.objects.exists h.source_exists

theorem Layer.classOf {s : Store} {r : Ref} {context source : Value}
    (h : s.Layer r context source) : s.classOf (.object r) = Standard.contextError := by
  obtain ⟨attributes, hlabel, -⟩ := h.label
  exact classOf_of_label? (.refl s) hlabel

theorem Layer.isInstance {s : Store} {r : Ref} {context source : Value}
    (h : s.Layer r context source) (c : Standard) :
    s.isInstance (.object r) c = s.isSubclass Standard.contextError c := by
  rw [Store.isInstance, h.classOf]

/-- Layers of context that have been put around a value since some earlier store, the outermost
first. -/
inductive Layers (s earlier : Store) (p : Value) : List Value → Value → Prop
  | none : Layers s earlier p [] p
  | layer {r : Ref} {context source : Value} {contexts : List Value} : earlier.get? r = none →
    s.Layer r context source → Layers s earlier p contexts source →
    Layers s earlier p (context :: contexts) (.object r)

/-- All layers since some earlier store stay what they are. -/
def Spares (earlier s s' : Store) : Prop :=
  ∀ r context source, earlier.get? r = none → s.Layer r context source →
    s'.Layer r context source

theorem Untouched.spares {s s' : Store} (h : s.Untouched s') (earlier : Store) :
    earlier.Spares s s' :=
  fun _ _ _ _ hlayer => h.layer hlayer

theorem Layers.mono {earlier s s' : Store} (h : earlier.Spares s s') {p v : Value}
    {contexts : List Value} (hv : s.Layers earlier p contexts v) :
    s'.Layers earlier p contexts v := by
  induction hv with
  | none => exact .none
  | layer hnew hlayer _ ih => exact .layer hnew (h _ _ _ hnew hlayer) ih

end Store

end FaultContext
