/-
# FaultContext.Proofs.Isolation -- where new exceptions lead.

An exception that is made and raised has no way to an earlier failure of its own: its links lead to
other new exceptions and to the exception being handled.  So whatever can be reached from it among
earlier things can be reached from the exception being handled, and nothing can where none is being
handled.
-/
import FaultContext.Proofs.Reach

namespace FaultContext.Store

variable {s s' s'' : Store} {handled : Option Ref} {links : List Link}

/-- Links have been added to new objects only, and they lead to new objects or to the exception
being handled. -/
structure NewLinks (s s' : Store) (handled : Option Ref) : Prop where
  kept : s.LinksKept s'
  old : ∀ r link v, (s.get? r).isSome → s'.follow? r link = some v → s.follow? r link = some v
  new : ∀ r link v, s.get? r = none → s'.follow? r link = some v →
    (∃ q, v = .object q ∧ s.get? q = none) ∨ ∃ h, handled = some h ∧ v = .object h

/-- A place that is free stays free until an object is put there. -/
theorem LinksKept.get?_eq_none (h : s.LinksKept s') {r : Ref} (hr : s'.get? r = none) :
    s.get? r = none := by
  cases ho : s.get? r with
  | none => rfl
  | some o =>
    have hsome := h.objects r (by rw [ho]; rfl)
    rw [hr] at hsome
    cases hsome

theorem NewLinks.refl (s : Store) (handled : Option Ref) : s.NewLinks s handled where
  kept := .refl s
  old _ _ _ _ h := h
  new r link v hr h := by
    obtain ⟨o, ho, -⟩ := get?_of_follow? h
    rw [hr] at ho
    cases ho

theorem NewLinks.trans (h : s.NewLinks s' handled) (h' : s'.NewLinks s'' handled) :
    s.NewLinks s'' handled where
  kept := h.kept.trans h'.kept
  old r link v hr hv := h.old r link v hr (h'.old r link v (h.kept.objects r hr) hv)
  new r link v hr hv := by
    cases hr' : s'.get? r with
    | some o => exact h.new r link v hr (h'.old r link v (by rw [hr']; rfl) hv)
    | none =>
      rcases h'.new r link v hr' hv with ⟨q, rfl, hq⟩ | hhandled
      · exact .inl ⟨q, rfl, h.kept.get?_eq_none hq⟩
      · exact .inr hhandled

/-- An object without links is added. -/
theorem newLinks_insert (s : Store) (handled : Option Ref) {o : Object}
    (ho : ∀ s link, o.follow? s link = none) : s.NewLinks (s.insert o).2 handled where
  kept := s.linksKept_insert o
  old r link v hr hv := by
    obtain ⟨old, hold⟩ := Option.isSome_iff_exists.mp hr
    obtain ⟨found, hfound, hnext⟩ := get?_of_follow? hv
    rw [get?_insert_of_get? o hold] at hfound
    cases hfound
    rw [follow?, hold, Option.bind_some]
    exact (old.follow?_congr rfl link).symm.trans hnext
  new r link v hr hv := by
    by_cases hplace : r = (s.insert o).1
    · rw [hplace, follow?_insert_self, ho] at hv
      cases hv
    · obtain ⟨found, hfound, -⟩ := get?_of_follow? hv
      rw [get?_insert_ne hplace, hr] at hfound
      cases hfound

/-! ## Links of a new exception -/

theorem follow?_setContext_self {r : Ref} {context : Option Ref} {v : Value}
    (h : (s.setContext r context).follow? r .context = some v) :
    context.map Value.object = some v := by
  simp only [follow?, setContext, setLinks, get?_modify_self] at h
  rcases hr : s.get? r with _ | ⟨c, attributes, body⟩ <;> rw [hr] at h
  · cases h
  · cases body <;> first | exact h | cases h

theorem follow?_setCause_self {r : Ref} {cause : Option Ref} {v : Value}
    (h : (s.setCause r cause).follow? r .cause = some v) : cause.map Value.object = some v := by
  simp only [follow?, setCause, setLinks, get?_modify_self] at h
  rcases hr : s.get? r with _ | ⟨c, attributes, body⟩ <;> rw [hr] at h
  · cases h
  · cases body <;> first | exact h | cases h

/-- Recording a context adds no link but one from the exception to its context. -/
theorem follow?_of_recordContext {r context q : Ref} {link : Link} {v : Value}
    (h : (s.recordContext r context).follow? q link = some v) :
    s.follow? q link = some v ∨ q = r ∧ v = .object context := by
  by_cases hlink : link = .context
  · subst hlink
    unfold recordContext at h
    split at h
    · exact .inl h
    · by_cases hq : r = q
      · subst hq
        exact .inr ⟨rfl, (Option.some.inj (follow?_setContext_self h)).symm⟩
      · rw [setContext, follow?_setLinks_ne _ hq] at h
        unfold cutLinkTo at h
        split at h
        next last _ =>
          by_cases hlast : last = q
          · subst hlast
            cases follow?_setContext_self h
          · rw [setContext, follow?_setLinks_ne _ hlast] at h
            exact .inl h
        next => exact .inl h
  · rw [follow?_recordContext_of_ne _ _ _ _ hlink] at h
    exact .inl h

section Fresh

variable {r q : Ref} (h : s.NewLinks s' handled) (hr : s.get? r = none)
  (hq : s.get? q = none ∨ handled = some q)
include h hr hq

theorem NewLinks.recordContext : s.NewLinks (s'.recordContext r q) handled where
  kept := h.kept.recordContext hr q
  old p link v hp hv := by
    rcases follow?_of_recordContext hv with hv | ⟨rfl, -⟩
    · exact h.old p link v hp hv
    · rw [hr] at hp
      cases hp
  new p link v hp hv := by
    rcases follow?_of_recordContext hv with hv | ⟨-, rfl⟩
    · exact h.new p link v hp hv
    · rcases hq with hq | hq
      · exact .inl ⟨q, rfl, hq⟩
      · exact .inr ⟨q, hq, rfl⟩

theorem NewLinks.setCause : s.NewLinks (s'.setCause r (some q)) handled where
  kept := h.kept.setCause hr (some q)
  old p link v hp hv := by
    have hne : r ≠ p := by
      rintro rfl
      rw [hr] at hp
      cases hp
    rw [Store.setCause, follow?_setLinks_ne _ hne] at hv
    exact h.old p link v hp hv
  new p link v hp hv := by
    by_cases hlink : link = .cause ∧ r = p
    · obtain ⟨rfl, rfl⟩ := hlink
      cases follow?_setCause_self hv
      rcases hq with hq | hq
      · exact .inl ⟨q, rfl, hq⟩
      · exact .inr ⟨q, hq, rfl⟩
    · refine h.new p link v hp ?_
      by_cases hcause : link = .cause
      · rwa [Store.setCause, follow?_setLinks_ne _ (fun heq => hlink ⟨hcause, heq⟩)] at hv
      · rwa [follow?_setCause _ _ _ _ hcause] at hv

end Fresh

theorem NewLinks.raising {r : Ref} (h : s.NewLinks s' handled) (hr : s.get? r = none) :
    s.NewLinks (s'.raising r handled) handled := by
  cases handled with
  | none => exact h
  | some q => exact h.recordContext hr (.inr rfl)

theorem follow?_exception (c : Class) (args : List Value) (s : Store) (link : Link) :
    Object.follow? s ⟨c, [], .exception args none none⟩ link = none := by
  cases link <;> simp [Object.follow?, Named.get?]

/-- The exceptions of a fault lead to one another and to the exception being handled. -/
theorem newLinks_exceptionOf (s : Store) (handled : Option Ref) (f : Fault) :
    s.get? (s.exceptionOf handled f).1 = none ∧
      s.NewLinks (s.exceptionOf handled f).2 handled := by
  induction f with
  | during first second asCause ih =>
    simp only [exceptionOf]
    generalize s.exceptionOf handled first = made at ih ⊢
    obtain ⟨inner, s'⟩ := made
    obtain ⟨hinner, hlinks⟩ := ih
    -- The second exception is new, and all its links lead to the first one, which is new as well.
    have hfresh : s.get? (s'.newException second.cls second.args []).1 = none :=
      hlinks.kept.get?_eq_none s'.get?_free
    have hmade : s.NewLinks (s'.newException second.cls second.args []).2 handled :=
      hlinks.trans (s'.newLinks_insert handled (follow?_exception _ _))
    refine ⟨hfresh, ?_⟩
    split
    · exact (hmade.setCause hfresh (.inl hinner)).recordContext hfresh (.inl hinner)
    · exact hmade.recordContext hfresh (.inl hinner)
  | _ =>
    exact ⟨s.get?_free, (s.newLinks_insert handled (follow?_exception _ _)).raising s.get?_free⟩

/-! ## Paths -/

/-- Whatever there was before is reached from something new by way of the exception being handled,
and from everything else as before or likewise. -/
theorem NewLinks.reaches (h : s.NewLinks s' handled) {target v : Value} (ht : s.Exists target)
    (hv : s'.Reaches links target v) :
    (s.Exists v ∧ s.Reaches links target v) ∨
      ∃ q, handled = some q ∧ s.Reaches links target (.object q) := by
  induction hv with
  | here => exact .inl ⟨ht, .here⟩
  | @step r link next hlink hnext hpath ih =>
    rcases ih with ⟨hexists, hreaches⟩ | hhandled
    · cases hr : s.get? r with
      | some o =>
        refine .inl ⟨?_, .step hlink (h.old r link next (by rw [hr]; rfl) hnext) hreaches⟩
        rintro q ⟨⟩
        rw [hr]
        rfl
      | none =>
        -- A new object cannot lead to an old one unless that is the exception being handled.
        rcases h.new r link next hr hnext with ⟨q, rfl, hq⟩ | ⟨q, hhandled, rfl⟩
        · have hsome := hexists q rfl
          rw [hq] at hsome
          cases hsome
        · exact .inr ⟨q, hhandled, hreaches⟩
    · exact .inr hhandled

/-- What was there before is reached from a new exception exactly if it is reached from the one
being handled. -/
theorem NewLinks.reaches_new_iff (h : s.NewLinks s' handled) {target : Value}
    (ht : s.Exists target) {x : Ref} (hx : s.get? x = none)
    (hunder : ∀ q, handled = some q → s'.Reaches links (.object q) (.object x)) :
    s'.Reaches links target (.object x) ↔
      ∃ q, handled = some q ∧ s.Reaches links target (.object q) := by
  constructor
  · intro hpath
    rcases h.reaches ht hpath with ⟨hexists, -⟩ | hhandled
    · have hsome := hexists x rfl
      rw [hx] at hsome
      cases hsome
    · exact hhandled
  · rintro ⟨q, hhandled, hpath⟩
    exact (hpath.mono ht h.kept).trans (hunder q hhandled)

end FaultContext.Store
