/-
# FaultContext.Proofs.Reach -- from one failure to another.

An exception leads on to others: to its cause, to its context, and, for the two exceptions of the
library that carry a failure in an attribute, to that failure.  A failure is not lost as long as it
can be reached along such links from what is raised in its place.

Adding an exception and giving it links breaks no path between failures that were there before.
The only links that raising an exception can cut lead to that very exception, and nothing that was
there before it can have passed through it.
-/
import FaultContext.World.Eval

namespace FaultContext

/-- The links along which failures are followed. -/
inductive Link where
  | cause
  | context
  /-- The failure whose context could not be rendered. -/
  | failure
  /-- What a layer of context is around. -/
  | source
  deriving DecidableEq

/-- Where a link of an object leads. -/
def Object.follow? (s : Store) (o : Object) : Link → Option Value
  | .cause =>
    match o.body with
    | .exception _ cause _ => cause.map .object
    | _ => none
  | .context =>
    match o.body with
    | .exception _ _ context => context.map .object
    | _ => none
  | .failure =>
    if s.isSubclass o.cls Standard.renderError then o.attributes.get? "failure" else none
  | .source =>
    if s.isSubclass o.cls Standard.contextError then o.attributes.get? "source" else none

theorem Object.follow?_congr {s s' : Store} (h : s'.declarations = s.declarations) (o : Object)
    (link : Link) : o.follow? s' link = o.follow? s link := by
  cases link <;> simp only [follow?, Store.isSubclass_congr h]

namespace Store

/-- Where a link of the object at a place leads. -/
def follow? (s : Store) (r : Ref) (link : Link) : Option Value :=
  (s.get? r).bind (·.follow? s link)

theorem follow?_context (s : Store) (r : Ref) :
    s.follow? r .context = (s.contextOf r).map .object := by
  rcases h : s.get? r with _ | ⟨c, attributes, body⟩
  · simp [follow?, contextOf, h]
  · cases body <;> simp [follow?, contextOf, Object.follow?, h]

/-- A value can be reached from another one along the given links. -/
inductive Reaches (s : Store) (links : List Link) (target : Value) : Value → Prop
  | here : Reaches s links target target
  | step {r : Ref} {link : Link} {next : Value} : link ∈ links → s.follow? r link = some next →
    Reaches s links target next → Reaches s links target (.object r)

variable {s s' : Store} {links : List Link}

theorem Reaches.trans {v target middle : Value} (h : s.Reaches links target middle)
    (h' : s.Reaches links middle v) : s.Reaches links target v := by
  induction h' with
  | here => exact h
  | step hlink hnext _ ih => exact .step hlink hnext ih

/-- What an exception was raised under can be reached from it. -/
theorem Under.reaches {r handled : Ref} (h : s.Under handled r) (hlinks : .context ∈ links) :
    s.Reaches links (.object handled) (.object r) := by
  induction h with
  | here => exact .here
  | step hnext _ ih => exact .step hlinks (by rw [follow?_context, hnext]; rfl) ih

/-! ## Paths that are kept -/

/-- A value that is no place without an object. -/
def Exists (s : Store) (v : Value) : Prop := ∀ r, v = .object r → (s.get? r).isSome

theorem get?_of_follow? {r : Ref} {link : Link} {v : Value} (h : s.follow? r link = some v) :
    ∃ o, s.get? r = some o ∧ o.follow? s link = some v :=
  Option.bind_eq_some_iff.mp h

/-- A path goes through objects that exist. -/
theorem Reaches.exists {v target : Value} (h : s.Reaches links target v) (ht : s.Exists target) :
    s.Exists v := by
  cases h with
  | here => exact ht
  | step _ hnext _ =>
    rintro r ⟨⟩
    obtain ⟨o, ho, -⟩ := get?_of_follow? hnext
    rw [ho]
    rfl

theorem follow?_insert (o : Object) {r : Ref} {link : Link} {next : Value}
    (h : s.follow? r link = some next) : (s.insert o).2.follow? r link = some next := by
  obtain ⟨old, hold, hnext⟩ := get?_of_follow? h
  rw [follow?, get?_insert_of_get? o hold, Option.bind_some]
  exact (old.follow?_congr rfl link).trans hnext

theorem follow?_insert_self (s : Store) (o : Object) (link : Link) :
    (s.insert o).2.follow? (s.insert o).1 link = o.follow? s link := by
  rw [follow?, get?_insert, Option.bind_some]
  exact o.follow?_congr rfl link

theorem follow?_setLinks_ne (s : Store) {r q : Ref} (hne : r ≠ q)
    (change : Option Ref × Option Ref → Option Ref × Option Ref) (link : Link) :
    (s.setLinks r change).follow? q link = s.follow? q link := by
  simp only [follow?, setLinks, get?_modify_ne s hne]
  exact congrArg _ (funext fun o => o.follow?_congr rfl link)

/-- A link that no object has otherwise after a change is the same everywhere. -/
theorem follow?_modify (s : Store) (r q : Ref) {change : Object → Object} {link : Link}
    (h : ∀ o, (change o).follow? s link = o.follow? s link) :
    (s.modify r change).follow? q link = s.follow? q link := by
  rw [follow?, get?_modify]
  split
  · rw [follow?, Option.bind_map]
    exact congrArg _ (funext fun o => ((change o).follow?_congr rfl link).trans (h o))
  · rw [follow?]
    exact congrArg _ (funext fun o => o.follow?_congr rfl link)

/-- Setting the context of an exception leaves the other links as they are. -/
theorem follow?_setContext (s : Store) (r q : Ref) (context : Option Ref) {link : Link}
    (hlink : link ≠ .context) : (s.setContext r context).follow? q link = s.follow? q link := by
  refine s.follow?_modify r q fun o => ?_
  obtain ⟨c, attributes, body⟩ := o
  cases body <;> cases link <;> first | rfl | exact absurd rfl hlink

/-- Setting the cause of an exception leaves the other links as they are. -/
theorem follow?_setCause (s : Store) (r q : Ref) (cause : Option Ref) {link : Link}
    (hlink : link ≠ .cause) : (s.setCause r cause).follow? q link = s.follow? q link := by
  refine s.follow?_modify r q fun o => ?_
  obtain ⟨c, attributes, body⟩ := o
  cases body <;> cases link <;> first | rfl | exact absurd rfl hlink

theorem follow?_recordContext_of_ne (s : Store) (r handled q : Ref) {link : Link}
    (hlink : link ≠ .context) :
    (s.recordContext r handled).follow? q link = s.follow? q link :=
  (Survives.of_view (·.follow? q link) fun s r context =>
    s.follow?_setContext r q context hlink).recordContext s r handled

theorem follow?_raising (s : Store) (r q : Ref) (handled : Option Ref) {link : Link}
    (hlink : link ≠ .context) : (s.raising r handled).follow? q link = s.follow? q link :=
  (Survives.of_view (·.follow? q link) fun s r context =>
    s.follow?_setContext r q context hlink).raising s r handled

/-- Recording a context changes no link but those that lead to the exception or are its own. -/
theorem follow?_recordContext {r handled q : Ref} {link : Link} {next : Value} (hq : q ≠ r)
    (hnext : next ≠ .object r) (h : s.follow? q link = some next) :
    (s.recordContext r handled).follow? q link = some next := by
  by_cases hlink : link = .context
  · subst hlink
    rw [follow?_context] at h ⊢
    obtain ⟨target, htarget, rfl⟩ := Option.map_eq_some_iff.mp h
    rw [contextOf_recordContext hq (fun heq => hnext (heq ▸ rfl)) htarget]
    rfl
  · rw [follow?_recordContext_of_ne _ _ _ _ hlink, h]

/-- A store in which all objects of another one are still there, and all links between them. -/
structure LinksKept (s s' : Store) : Prop where
  objects : ∀ r, (s.get? r).isSome → (s'.get? r).isSome
  links : ∀ r link next, s.Exists next → s.follow? r link = some next →
    s'.follow? r link = some next

theorem LinksKept.refl (s : Store) : s.LinksKept s := ⟨fun _ h => h, fun _ _ _ _ h => h⟩

theorem LinksKept.trans {s s' s'' : Store} (h : s.LinksKept s') (h' : s'.LinksKept s'') :
    s.LinksKept s'' where
  objects r hr := h'.objects r (h.objects r hr)
  links r link next hexists hnext :=
    h'.links r link next (fun q hq => h.objects q (hexists q hq))
      (h.links r link next hexists hnext)

/-- Where all links are kept, so are all paths. -/
theorem Reaches.mono {v target : Value} (h : s.Reaches links target v) (ht : s.Exists target)
    (keeps : s.LinksKept s') : s'.Reaches links target v := by
  induction h with
  | here => exact .here
  | step hlink hnext hrest ih => exact .step hlink (keeps.links _ _ _ (hrest.exists ht) hnext) ih

theorem linksKept_insert (s : Store) (o : Object) : s.LinksKept (s.insert o).2 where
  objects r hr := by
    obtain ⟨old, hold⟩ := Option.isSome_iff_exists.mp hr
    rw [get?_insert_of_get? o hold]
    rfl
  links _ _ _ _ hnext := follow?_insert o hnext

/-- The place of a new object is free before. -/
theorem get?_free (s : Store) : s.get? ⟨s.objects.size⟩ = none := by
  simp [get?]

section Fresh

variable {r : Ref} (h : s.LinksKept s') (hr : s.get? r = none)
include h hr

/-- What there was before an exception does not depend on its cause. -/
theorem LinksKept.setCause (cause : Option Ref) : s.LinksKept (s'.setCause r cause) where
  objects q hq := by
    rw [Store.setCause, setLinks, get?_modify]
    split <;> simpa using h.objects q hq
  links q link next hexists hnext := by
    obtain ⟨o, ho, -⟩ := get?_of_follow? hnext
    have hne : r ≠ q := by
      rintro rfl
      rw [hr] at ho
      cases ho
    rw [Store.setCause, s'.follow?_setLinks_ne hne]
    exact h.links q link next hexists hnext

/-- What there was before an exception does not depend on its context. -/
theorem LinksKept.recordContext (handled : Ref) : s.LinksKept (s'.recordContext r handled) where
  objects q hq := by
    have hkept := (s'.keeps_recordContext r handled).objects q
    obtain ⟨o, ho⟩ := Option.isSome_iff_exists.mp (h.objects q hq)
    obtain ⟨o', ho', -⟩ := Option.map_eq_some_iff.mp (hkept o.core (by rw [ho]; rfl))
    rw [ho']
    rfl
  links q link next hexists hnext := by
    -- The only link that can be cut leads to `r`, where there was nothing before.
    refine follow?_recordContext ?_ ?_ (h.links q link next hexists hnext)
    · rintro rfl
      obtain ⟨o, ho, -⟩ := get?_of_follow? hnext
      rw [hr] at ho
      cases ho
    · rintro rfl
      simpa [hr] using hexists r rfl

end Fresh

/-! ## What objects are called and where they are -/

/-- The class and the attributes of an object. -/
def label? (s : Store) (r : Ref) : Option (Class × Named) :=
  (s.get? r).map fun o => (o.cls, o.attributes)

theorem label?_setLinks (s : Store) (r q : Ref)
    (change : Option Ref × Option Ref → Option Ref × Option Ref) :
    (s.setLinks r change).label? q = s.label? q := by
  simp only [label?, setLinks, get?_modify]
  split
  · rcases s.get? q with _ | ⟨c, attributes, body⟩
    · rfl
    · cases body <;> rfl
  · rfl

theorem label?_recordContext (s : Store) (r handled q : Ref) :
    (s.recordContext r handled).label? q = s.label? q :=
  (Survives.of_view (·.label? q) fun s r _ => s.label?_setLinks r q _).recordContext s r handled

/-- An object stays an instance of its class. -/
theorem Persists.classOf {s s' : Store} (h : s.Persists s') {r : Ref} {o : Object}
    (hr : s.get? r = some o) : s'.classOf (.object r) = o.cls := by
  obtain ⟨o', ho', hcore⟩ := Option.map_eq_some_iff.mp (h r o.core (by rw [hr]; rfl))
  simp only [Store.classOf, ho', Option.elim_some]
  exact congrArg Prod.fst hcore

theorem classOf_of_label? {s s' : Store} (h : s.Persists s') {r : Ref} {c : Class}
    {attributes : Named} (hr : s.label? r = some (c, attributes)) :
    s'.classOf (.object r) = c := by
  obtain ⟨o, ho, heq⟩ := Option.map_eq_some_iff.mp hr
  exact (h.classOf ho).trans (congrArg Prod.fst heq)

/-- Only an object can be an instance of a class of exceptions. -/
theorem exists_of_isInstance {s : Store} {r : Ref}
    (h : s.isInstance (.object r) Standard.exception) : s.Exists (.object r) := by
  rintro q ⟨⟩
  cases hr : s.get? r with
  | some o => rfl
  | none =>
    simp only [isInstance, classOf, hr, Option.elim_none] at h
    cases h

theorem Persists.refl (s : Store) : s.Persists s := fun _ _ h => h

theorem Persists.trans {s s' s'' : Store} (h : s.Persists s') (h' : s'.Persists s'') :
    s.Persists s'' :=
  fun r core hr => h' r core (h r core hr)

/-- Whatever is computed, a value that is there stays an instance of its class. -/
theorem Keeps.classOf {s s' : Store} (h : s.Keeps s') {v : Value} (hv : s.Exists v) :
    s'.classOf v = s.classOf v := by
  cases v with
  | object r =>
    obtain ⟨o, ho⟩ := Option.isSome_iff_exists.mp (hv r rfl)
    exact (h.objects.classOf ho).trans ((Store.Persists.refl s).classOf ho).symm
  | cls c =>
    simp only [Store.classOf, Store.metaclass, Store.isHashableClass_congr h.classes,
      Store.isSubclass_congr h.classes]
  | bare form =>
    obtain _ | _ | _ | head := form
    · rfl
    · rfl
    · rfl
    · cases head <;> rfl
  | native f =>
    unfold Store.classOf
    split <;> first | contradiction | simp_all only
  | _ => rfl

theorem Keeps.isInstance {s s' : Store} (h : s.Keeps s') {v : Value} (hv : s.Exists v)
    (c : Standard) : s'.isInstance v c = s.isInstance v c := by
  rw [Store.isInstance, Store.isInstance, h.classOf hv, isSubclass_congr h.classes]

theorem exception?_eq_core (s : Store) (r : Ref) :
    s.exception? (.object r) =
      match (s.get? r).map Object.core with
      | some (_, .exception ..) => some r
      | _ => none := by
  rw [Store.exception?]
  rcases s.get? r with _ | ⟨c, attributes, body⟩
  · rfl
  · cases body <;> rfl

/-- What is an exception stays one, and nothing becomes one. -/
theorem Persists.exception? {s s' : Store} (h : s.Persists s') {v : Value} (hv : s.Exists v) :
    s'.exception? v = s.exception? v := by
  cases v with
  | object r =>
    obtain ⟨o, hr⟩ := Option.isSome_iff_exists.mp (hv r rfl)
    have hcore : (s.get? r).map Object.core = some o.core := by rw [hr, Option.map_some]
    rw [exception?_eq_core, exception?_eq_core, hcore, h r _ hcore]
  | _ => rfl

theorem eq_object_of_exception? {s : Store} {v : Value} {r : Ref} (h : s.exception? v = some r) :
    v = .object r := by
  cases v with
  | object q =>
    simp only [Store.exception?] at h
    split at h <;> cases h
    rfl
  | _ => cases h

theorem exists_of_exception? {s : Store} {v : Value} {r : Ref} (h : s.exception? v = some r) :
    s.Exists v := by
  obtain rfl := eq_object_of_exception? h
  rintro q ⟨⟩
  obtain ⟨c, attributes, args, cause, context, ho⟩ :=
    get?_of_exception? (Option.isSome_of_eq_some h)
  rw [ho]
  rfl

/-- A place that is still free was free before. -/
theorem Persists.get?_eq_none {s s' : Store} (h : s.Persists s') {r : Ref}
    (hr : s'.get? r = none) : s.get? r = none := by
  cases ho : s.get? r with
  | none => rfl
  | some o =>
    have hcore := h r o.core (by rw [ho]; rfl)
    rw [hr] at hcore
    cases hcore

/-- What there was is still there. -/
theorem Persists.exists {s s' : Store} (h : s.Persists s') {v : Value} (hv : s.Exists v) :
    s'.Exists v := by
  intro r hr
  obtain ⟨o, ho⟩ := Option.isSome_iff_exists.mp (hv r hr)
  obtain ⟨o', ho', -⟩ := Option.map_eq_some_iff.mp (h r o.core (by rw [ho]; rfl))
  rw [ho']
  rfl

end Store
end FaultContext
