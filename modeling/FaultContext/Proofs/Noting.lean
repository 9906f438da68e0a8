/-
# FaultContext.Proofs.Noting -- notes on an exception.

The convention of notes hands an exception back as the object that it is, with the text of the
context behind its other notes, and a guard raises the exception that it gets back as it is.  So
under any number of guards it is the same exception, with the same cause and context, and its notes
are the texts in the order in which they were added (`Store.Annotated`).

A note can be added as long as there is a list of notes or none at all.  Rendering runs code of the
program, which may put something else in that place, or change the exception in other ways;
`Notable` and the conditions in `Store.Annotated` are about this and nothing else.
-/
import FaultContext.Proofs.Merging
import FaultContext.Proofs.PlainCalls

namespace FaultContext

open Eval

/-! ## Notes -/

namespace Object

/-- The notes of an object: those in its list, or none if there is no list yet. -/
def notes? (o : Object) : Option (List Value) :=
  match o.attributes.get? "__notes__" with
  | none => some []
  | some (.list _ notes) => some notes
  | some _ => none

/-- An object with a list of notes. -/
def withNotes (o : Object) (notes : List Value) : Object :=
  { o with attributes := o.attributes.set "__notes__" (.list .fresh notes) }

/-- An object is the same but for notes that have been added.  The links of an exception are part of
its body. -/
structure Annotated (o o' : Object) (texts : List String) : Prop where
  cls : o'.cls = o.cls
  body : o'.body = o.body
  attributes : ∀ name, name ≠ "__notes__" → o'.attributes.get? name = o.attributes.get? name
  notes : ∀ notes, o.notes? = some notes →
    o'.notes? = some (notes ++ texts.map (Value.str .fresh))

theorem Annotated.refl (o : Object) : o.Annotated o [] :=
  ⟨rfl, rfl, fun _ _ => rfl, fun notes h => by rw [h, List.map_nil, List.append_nil]⟩

theorem Annotated.trans {o o' o'' : Object} {texts texts' : List String} (h : o.Annotated o' texts)
    (h' : o'.Annotated o'' texts') : o.Annotated o'' (texts ++ texts') where
  cls := h'.cls.trans h.cls
  body := h'.body.trans h.body
  attributes name hname := (h'.attributes name hname).trans (h.attributes name hname)
  notes notes hnotes := by
    rw [h'.notes _ (h.notes notes hnotes), List.map_append, List.append_assoc]

theorem annotated_withNotes {o : Object} {notes : List Value} (h : o.notes? = some notes)
    (text : String) : o.Annotated (o.withNotes (notes ++ [.str .fresh text])) [text] where
  cls := rfl
  body := rfl
  attributes name hname := by
    rw [withNotes, Named.get?_set, if_neg hname]
  notes notes' h' := by
    cases h.symm.trans h'
    rw [notes?, withNotes, Named.get?_set, if_pos rfl]
    rfl

end Object

namespace Store

/-- The notes of the object at a place. -/
def notes? (s : Store) (r : Ref) : Option (List Value) := (s.get? r).bind Object.notes?

variable {s s' s₁ s₂ : Store} {e : Ref}

/-- Texts have been added to the notes of an exception, and nothing else has been done to any
object; the last text comes first.  In between, the store has changed in ways that are not known.
-/
structure Annotated (s s' : Store) (e : Ref) (changes : List (Store × Store))
    (texts : List String) : Prop where
  keeps : s.Keeps s'
  self : (∀ change ∈ changes, ∀ o, change.1.get? e = some o → change.2.get? e = some o) →
    ∀ o, s.get? e = some o → ∃ o', s'.get? e = some o' ∧ o.Annotated o' texts.reverse
  others : ∀ r o, r ≠ e → s.get? r = some o →
    (∀ change ∈ changes, change.1.get? r = some o → change.2.get? r = some o) →
    s'.get? r = some o

theorem Annotated.refl (s : Store) (e : Ref) : s.Annotated s e [] [] where
  keeps := .refl s
  self _ o ho := ⟨o, ho, .refl o⟩
  others _ _ _ h _ := h

/-- Something unknown happens to the store, and then another text is added. -/
theorem Annotated.note {changes : List (Store × Store)} {texts : List String} {text : String}
    (h : s.Annotated s₁ e changes texts) (hchange : s₁.Keeps s₂)
    (hnoted : s₂.Annotated s' e [] [text]) :
    s.Annotated s' e ((s₁, s₂) :: changes) (text :: texts) where
  keeps := h.keeps.trans (hchange.trans hnoted.keeps)
  self hchanges o ho := by
    obtain ⟨hlast, hchanges⟩ := List.forall_mem_cons.mp hchanges
    obtain ⟨o₁, ho₁, hbelow⟩ := h.self hchanges o ho
    obtain ⟨o', ho', hlater⟩ := hnoted.self (by simp) o₁ (hlast o₁ ho₁)
    refine ⟨o', ho', ?_⟩
    rw [List.reverse_cons]
    exact hbelow.trans hlater
  others r o hr ho hchanges := by
    obtain ⟨hlast, hchanges⟩ := List.forall_mem_cons.mp hchanges
    exact hnoted.others r o hr (hlast (h.others r o hr ho hchanges)) (by simp)

theorem Annotated.isSome_notes? {texts : List String} (h : s.Annotated s' e [] texts)
    (hs : (s.notes? e).isSome) : (s'.notes? e).isSome := by
  obtain ⟨notes, hnotes⟩ := Option.isSome_iff_exists.mp hs
  obtain ⟨o, ho, hlist⟩ := Option.bind_eq_some_iff.mp hnotes
  obtain ⟨o', ho', hannotated⟩ := h.self (by simp) o ho
  rw [notes?, ho', Option.bind_some, hannotated.notes notes hlist, Option.isSome_some]

/-- A new object does not change that. -/
theorem Annotated.insert {changes : List (Store × Store)} {texts : List String}
    (h : s.Annotated s' e changes texts) (o : Object) :
    s.Annotated (s'.insert o).2 e changes texts where
  keeps := h.keeps.trans (s'.keeps_insert o)
  self hchanges o₀ ho₀ := by
    obtain ⟨o', ho', hannotated⟩ := h.self hchanges o₀ ho₀
    exact ⟨o', get?_insert_of_get? o ho', hannotated⟩
  others r o₀ hr ho₀ hchanges := get?_insert_of_get? o (h.others r o₀ hr ho₀ hchanges)

/-- Writing a longer list of notes into an exception is adding a note. -/
theorem annotated_modify {notes : List Value} (h : s.notes? e = some notes) (text : String) :
    s.Annotated (s.modify e (·.withNotes (notes ++ [.str .fresh text]))) e [] [text] where
  keeps := s.keeps_modify e fun _ => rfl
  self _ o ho := by
    rw [notes?, ho, Option.bind_some] at h
    refine ⟨_, ?_, Object.annotated_withNotes h text⟩
    rw [get?_modify_self, ho, Option.map_some]
  others r o hr ho _ := by rw [get?_modify_ne s (Ne.symm hr), ho]

end Store

/-- Adding a note to an exception. -/
theorem Eval.run_addNote {w : World} {e : Ref} {notes : List Value}
    (h : w.store.notes? e = some notes) (text : String) (handled : Option Ref) :
    (addNote e (.str .fresh text)).run handled w = (.ok (), { w with
      store := w.store.modify e (·.withNotes (notes ++ [.str .fresh text])) }) := by
  obtain ⟨o, ho, hnotes⟩ := Option.bind_eq_some_iff.mp h
  have hattribute : w.store.attribute? e "__notes__" = o.attributes.get? "__notes__" := by
    rw [Store.attribute?, ho, Option.bind_some]
  dsimp only [addNote]
  rw [run_bind_of_ok run_store, hattribute]
  -- Nothing but a list, or no attribute at all, counts as notes.
  rw [Object.notes?] at hnotes
  cases hget : o.attributes.get? "__notes__" with
  | none =>
    rw [hget] at hnotes
    cases hnotes
    rfl
  | some v =>
    rw [hget] at hnotes
    cases v <;> cases hnotes
    rfl

/-- A context can be noted on an exception: the context has a text, and there is a list of notes or
none at all. -/
def Store.Notable (s : Store) (e : Ref) (context : Value) (text : String) : Prop :=
  s.str context = .ok text ∧ (s.notes? e).isSome

/-- Merging a context into an exception whose class is left to the convention of notes gives the
same exception, with one more note. -/
theorem Resolution.run_wrap_of_notes (engine : Engine) {id : Nat} {e : Ref} {w : World}
    {context : Value} {text : String} (hw : w.Leaves id .noted)
    (he : w.store.exception? (.object e) = some e)
    (hc : w.store.Chained (w.store.classOf (.object e)))
    (hnotable : w.store.Notable e context text) (handled : Option Ref) :
    ∃ w', (wrap engine id (.object e) context).run handled w = (.ok (.object e), w') ∧
      w.store.Annotated w'.store e [] [text] := by
  obtain ⟨htext, hnotes⟩ := hnotable
  obtain ⟨notes, hnotes⟩ := Option.isSome_iff_exists.mp hnotes
  obtain ⟨u, hlookup, hstore⟩ := hw.run_lookup engine hc rfl handled
  rw [← hstore] at he htext hnotes ⊢
  refine ⟨{ u with store := u.store.modify e (·.withNotes (notes ++ [.str .fresh text])) }, ?_,
    Store.annotated_modify hnotes text⟩
  rw [wrap, run_bind_of_ok run_store, ← hstore, run_bind_of_ok (hstore ▸ hlookup)]
  refine (run_bind_of_ok run_store).trans ?_
  simp only [he]
  rw [run_bind_of_ok (run_str_of_ok htext), run_bind_of_ok (run_addNote hnotes text handled)]
  rfl

namespace Guard

/-! ## One guard -/

variable {g : Guard} {engine : Engine} {args : List Value} {named : Named} {context : Value}
  {text : String} {e : Ref}

/-- The world in which a context has been rendered is as good for noting as the one before. -/
theorem run_wrap_of_noted {handled : Option Ref} {w u : World} (hw : w.Leaves g.bindings .noted)
    (he : w.store.exception? (.object e) = some e)
    (hc : w.store.Chained (w.store.classOf (.object e)))
    (h : (g.rendering engine args named).run handled w = (.ok context, u))
    (hnotable : u.store.Notable e context text) :
    ∃ w', (Resolution.wrap engine g.bindings (.object e) context).run handled u =
        (.ok (.object e), w') ∧ u.store.Annotated w'.store e [] [text] ∧
      w'.store.exception? (.object e) = some e := by
  have hkeeps := keeps_of_run h
  have hexists := Store.exists_of_exception? he
  have he' := (hkeeps.store.objects.exception? hexists).trans he
  obtain ⟨w', hwrap, hannotated⟩ := Resolution.run_wrap_of_notes engine (hw.keeps hkeeps) he'
    (by rw [hkeeps.store.classOf hexists]; exact hc.congr hkeeps.store.classes) hnotable handled
  exact ⟨w', hwrap, hannotated,
    (hannotated.keeps.objects.exception? (hkeeps.store.objects.exists hexists)).trans he'⟩

/-- A guard adds a note to an exception that is raised or returned, and the call goes on failing in
the same way with the same exception. -/
theorem run_of_noted {call : Eval Value} {handled : Option Ref} {w u u' : World}
    {ended : Except Signal Value} {p : Failure}
    (haccepts : g.descriptor.callSignature.accepts args named)
    (hcall : call.run handled w = (ended, u)) (hp : Fails u.store ended p)
    (he : u.store.exception? p.value = some e) (hw : u.Leaves g.bindings .noted)
    (hc : u.store.Chained (u.store.classOf p.value))
    (h : (g.rendering engine args named).run (handledAfter handled ended) u = (.ok context, u'))
    (hnotable : u'.store.Notable e context text) :
    ∃ ended' w', (g.run engine args named call).run handled w = (ended', w') ∧
      Fails w'.store ended' p ∧ u'.store.Annotated w'.store e [] [text] := by
  have hvalue := Store.eq_object_of_exception? he
  rw [hvalue] at he hc
  obtain ⟨w', hwrap, hannotated, he'⟩ := run_wrap_of_noted hw he hc h hnotable
  have hkeeps := (keeps_of_run h).store.trans hannotated.keeps
  rw [run_of_context haccepts hcall hp.failureOf? h, merging, hvalue, run_bind_of_ok hwrap]
  cases hp with
  | @raised r hr =>
    obtain rfl := Value.object.inj hvalue
    -- The guard has got back the exception that it was given, and raises it as it is.
    refine ⟨.error (.raised r), w', ?_, .raised ?_, hannotated⟩
    · simp only [run_bind_of_ok run_store, he', if_true]
      rfl
    · rw [hkeeps.isInstance (Store.exists_of_isInstance hr)]
      exact hr
  | @returned result payload hresult hpayload =>
    obtain rfl : payload = .object e := hvalue
    refine ⟨_, _, rfl, .returned ?_ ?_, hannotated.insert ⟨Standard.err, [], .err (.object e)⟩⟩
    · simp only [payload?, Store.get?_insert]
    · exact (hkeeps.trans (w'.store.keeps_insert _)).objects.exists hpayload

end Guard

/-! ## Stacks of guards -/

/-- The contexts that are rendered for a stack can be noted on an exception: each has a text when it
has been rendered, and rendering puts nothing else in the place of the notes. -/
inductive Notable (e : Ref) : List Value → List (Store × Store) → List String → Prop
  | none : Notable e [] [] []
  | context {context : Value} {change : Store × Store} {text : String} {contexts : List Value}
    {changes : List (Store × Store)} {texts : List String} : change.2.str context = .ok text →
    ((change.1.notes? e).isSome → (change.2.notes? e).isSome) →
    Notable e contexts changes texts →
    Notable e (context :: contexts) (change :: changes) (text :: texts)

/-- A call fails with an exception to which texts have been added since an earlier store. -/
def FailsNoted (call : Eval Value) (handled : Option Ref) (w : World) (s : Store) (p : Failure)
    (e : Ref) (changes : List (Store × Store)) (texts : List String) : Prop :=
  ∃ ended u, call.run handled w = (ended, u) ∧ Fails u.store ended p ∧
    s.Annotated u.store e changes texts

/-- A stack of guards adds one note after the other to an exception. -/
theorem Stacked.run_complete_of_noted {asynchronous : Bool} {f v : Value} {guards : List Guard}
    {depth : Nat} {args : List Value} {named : Named} {handled : Option Ref} {w u : World}
    {ended : Except Signal Value} {p : Failure} {e : Ref} {contexts : List Value}
    {changes : List (Store × Store)} {texts : List String}
    (hv : Stacked w.store asynchronous f guards v)
    (hguards : ∀ g ∈ guards,
      w.Leaves g.bindings .noted ∧ g.descriptor.callSignature.accepts args named)
    (hcall : ((Engine.within depth).complete asynchronous f args named).run handled w = (ended, u))
    (hp : Fails u.store ended p) (he : u.store.exception? p.value = some e)
    (hnotes : (u.store.notes? e).isSome) (hc : u.store.Chained (u.store.classOf p.value))
    (hstop : asynchronous = true → ∀ r, p = .raised r →
      u.store.isInstance (.object r) Standard.stopIteration = false)
    (hrendered : Rendered depth asynchronous args named handled w guards contexts changes)
    (hnotable : Notable e contexts changes texts) :
    FailsNoted ((Engine.within (depth + guards.length)).complete asynchronous v args named) handled
      w u.store p e changes texts := by
  -- What there is in the place of the notes stays a list, so the next one can be added.
  suffices h : ∃ ended' u', ((Engine.within (depth + guards.length)).complete asynchronous v
      args named).run handled w = (ended', u') ∧ Fails u'.store ended' p ∧
      u.store.Annotated u'.store e changes texts ∧ (u'.store.notes? e).isSome by
    obtain ⟨ended', u', hrun, hfails, hannotated, -⟩ := h
    exact ⟨ended', u', hrun, hfails, hannotated⟩
  induction hv generalizing contexts changes texts with
  | bare =>
    cases hrendered
    cases hnotable
    exact ⟨ended, u, hcall, hp, .refl u.store e, hnotes⟩
  | @layer g guards v hv hasync _ ih =>
    subst hasync
    cases hrendered with
    | @layer _ _ contexts changes ended₁ u₁ u₂ context hrendered hinner hrendering =>
      cases hnotable with
      | @context _ _ text _ _ texts htext hspared hnotable =>
        obtain ⟨⟨hleaves, haccepts⟩, hguards⟩ := List.forall_mem_cons.mp hguards
        -- The guards below have added their notes, and what has failed is still the same.
        obtain ⟨ended', u', hrun, hp', hannotated, hlist⟩ := ih hguards hrendered hnotable
        cases hinner.symm.trans hrun
        have hkeeps := hannotated.keeps
        obtain ⟨ended'', w', hguard, hfails, hnoted⟩ := Guard.run_of_noted haccepts hrun hp'
          ((hkeeps.objects.exception? hp.exists).trans he) (hleaves.keeps (keeps_of_run hrun))
          (by rw [hkeeps.classOf hp.exists]; exact hc.congr hkeeps.classes) hrendering
          ⟨htext, hspared hlist⟩
        have hlater := hannotated.note (keeps_of_run hrendering).store hnoted
        refine ⟨ended'', w', ?_, hfails, hlater, hnoted.isSome_notes? (hspared hlist)⟩
        refine (complete_guard hv (depth + guards.length) args named handled).trans ?_
        refine (Guard.run_shell_of_endsNoIteration fun hasync r w'' hraised => ?_).trans hguard
        cases hguard.symm.trans hraised
        cases hfails
        rw [hlater.keeps.isInstance (v := .object r) hp.exists]
        exact hstop hasync r rfl

end FaultContext
