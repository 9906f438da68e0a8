/-
# FaultContext.Proofs.Recalling -- how a lookup goes.

Looking up a type begins with what is remembered for it, or for a type that is equal to it.  A type
that cannot be a key has nothing remembered for it and is resolved afresh every time.  Where nothing
is remembered, the answer that is found counts, and no object is touched on the way.

A lookup may have to write the text of its type into a trace or a warning.  Whether it can
(`World.Legible`) decides whether it gets as far as an answer.
-/
import FaultContext.Binding.Resolution

namespace FaultContext

open Eval

/-! ## Equal values -/

/-- What the registry goes by in a type. -/
inductive Value.Kind where
  | cls (c : Class)
  | applied (c : Class)
  | union
  | unordered
  | object
  | other

namespace Value

/-- What the registry goes by in a type. -/
def kind : Value → Kind
  | .cls c => .cls c
  | .classAlias c _ => .applied c
  | .union _ | .unionType _ => .union
  | .generic .. | .typing .. | .typeVar _ | .forward _ | .bare _ | .native _ | .bindings _
  | .bound .. | .coroutine .. => .unordered
  | .object _ => .object
  | _ => .other

theorem kind_of_same {a b : Value} (h : a.same b) : a.kind = b.kind := by
  rw [same.eq_def] at h
  split at h <;> simp_all [kind]

theorem kind_of_number {a : Value} {n : Numeric} (h : a.number? = some n) : a.kind = .other := by
  cases a with
  | bool b => rfl
  | int identity n => rfl
  | float identity x => rfl
  | _ => cases h

end Value

theorem Store.kind_of_equalWith {objects : Ref → Ref → Bool} {a b : Value}
    (h : equalWith objects a b) : a.kind = b.kind := by
  rw [equalWith.eq_def] at h
  split at h
  -- Types with the same constructor go by the class that both of them were made of.
  all_goals first
    | rfl
    | (simp only [Bool.and_eq_true, beq_iff_eq] at h; simp [Value.kind, h])
    | skip
  all_goals split at h
  next n hn => exact (Value.kind_of_number hn).symm
  next => cases h
  next n hn => exact Value.kind_of_number hn
  next => cases h
  next x y hx hy => exact (Value.kind_of_number hx).trans (Value.kind_of_number hy).symm
  next => cases h

/-- Equal values are of one kind.  A union made by name and one made by the operator may be equal. -/
theorem Store.kind_of_agree {s : Store} {a b : Value} (h : s.agree a b) : a.kind = b.kind := by
  rw [agree, Bool.or_eq_true] at h
  rcases h with h | h
  · exact Value.kind_of_same h
  · exact kind_of_equalWith h

theorem Value.eq_cls_of_kind {a : Value} {c : Class} (h : a.kind = .cls c) : a = .cls c := by
  cases a with
  | cls d =>
    injection h with h
    rw [h]
  | _ => cases h

theorem Value.eq_classAlias_of_kind {a : Value} {c : Class} (h : a.kind = .applied c) :
    ∃ args, a = .classAlias c args := by
  cases a with
  | classAlias d args =>
    injection h with h
    exact ⟨args, by rw [h]⟩
  | _ => cases h

theorem Value.eq_union_of_kind {a : Value} (h : a.kind = .union) :
    (∃ members, a = .union members) ∨ ∃ members, a = .unionType members := by
  cases a with
  | union members => exact .inl ⟨members, rfl⟩
  | unionType members => exact .inr ⟨members, rfl⟩
  | _ => cases h

theorem Value.eq_object_of_kind {a : Value} (h : a.kind = .object) : ∃ r, a = .object r := by
  cases a with
  | object r => exact ⟨r, rfl⟩
  | _ => cases h

/-! ## Texts of types -/

/-- The texts of a type that looking it up writes can be made: the one in the trace, if decisions are
traced, and the one in the warning, if the type cannot be a key. -/
structure World.Legible (w : World) (type : Value) : Prop where
  traced : w.tracing → ∃ text, w.store.repr type = .ok text
  warned : ∀ name, w.store.unhashable? type = some name → ∃ text, w.store.str type = .ok text

namespace World

theorem legible_cls (w : World) (c : Class) : w.Legible (.cls c) :=
  ⟨fun _ => ⟨_, rfl⟩, fun _ _ => ⟨_, rfl⟩⟩

/-- No text is needed for a type that can be a key, as long as nothing is traced. -/
theorem legible_of_key {w : World} {type : Value} (hkey : w.store.unhashable? type = none)
    (htraced : w.tracing → ∃ text, w.store.repr type = .ok text) : w.Legible type :=
  ⟨htraced, fun _ hname => absurd (hkey.symm.trans hname) nofun⟩

theorem Legible.of_same {w w' : World} {type : Value} (h : w.Legible type) (hsame : w.Same w') :
    w'.Legible type := by
  refine ⟨?_, ?_⟩
  · rw [hsame.store, hsame.tracing]
    exact h.traced
  · rw [hsame.store]
    exact h.warned

end World

namespace Eval

variable {v : Value} {text : String} {handled : Option Ref} {w : World}

theorem run_str_of_ok (h : w.store.str v = .ok text) : (str v).run handled w = (.ok text, w) := by
  rw [str, run_bind, run_store]
  dsimp only
  rw [h, run_lift_ok]

/-- What is raised about a value is no success. -/
theorem run_repr_raiseNew_ne_ok {α : Type} {c : Standard} {message : String → String} {a : α}
    {w' : World} :
    (repr v >>= fun text => raiseNew c (message text)).run handled w ≠ (.ok a, w') := by
  intro h
  obtain ⟨text, between, -, hraise⟩ := run_bind_eq_ok.mp h
  exact run_raiseNew_ne_ok _ _ hraise

theorem run_repr_of_ok (h : w.store.repr v = .ok text) : (repr v).run handled w = (.ok text, w) := by
  rw [repr, run_bind, run_store]
  dsimp only
  rw [h, run_lift_ok]

end Eval

namespace Resolution

variable {type : Value} {w : World}

theorem run_note (h : w.Legible type) (handled : Option Ref) (what : String) :
    ∃ w', (note type what).run handled w = (.ok (), w') ∧ w.Same w' := by
  by_cases htracing : w.tracing
  · obtain ⟨text, htext⟩ := h.traced htracing
    let message := "lookup(" ++ text ++ "): " ++ what
    refine ⟨{ w with observed := { w.observed with trace := w.observed.trace ++ [message] } }, ?_,
      ⟨rfl, rfl, rfl, rfl⟩⟩
    rw [note, trace, run_bind, run_reading]
    dsimp only
    rw [if_pos htracing]
    exact run_bind_of_ok (run_bind_of_ok (run_repr_of_ok htext))
  · refine ⟨w, ?_, .refl w⟩
    rw [note, trace, run_bind, run_reading]
    dsimp only
    rw [if_neg htracing, run_pure]

/-- Where decisions are traced, a note has made the text of its type. -/
theorem traced_of_run_note {handled : Option Ref} {what : String} {w' : World}
    (h : (note type what).run handled w = (.ok (), w')) (htracing : w.tracing) :
    ∃ text, w.store.repr type = .ok text := by
  rw [note, trace, run_bind, run_reading] at h
  dsimp only at h
  rw [if_pos htracing] at h
  obtain ⟨message, v, hmessage, -⟩ := run_bind_eq_ok.mp h
  obtain ⟨text, u, htext, -⟩ := run_bind_eq_ok.mp hmessage
  rw [Eval.repr, run_bind, run_store] at htext
  dsimp only at htext
  cases hrepr : w.store.repr type with
  | ok made => exact ⟨made, rfl⟩
  | error problem =>
    rw [hrepr] at htext
    cases htext

/-- Nothing but the trace is different after a note. -/
theorem same_of_run_note {handled : Option Ref} {what : String} {w' : World}
    (h : (note type what).run handled w = (.ok (), w')) : w.Same w' := by
  rw [note, trace, run_bind, run_reading] at h
  dsimp only at h
  split at h
  · obtain ⟨message, v, hmessage, hadd⟩ := run_bind_eq_ok.mp h
    obtain ⟨text, u, htext, hlast⟩ := run_bind_eq_ok.mp hmessage
    obtain rfl := (looks_repr _).eq_of_run htext
    cases hlast
    cases hadd
    exact ⟨rfl, rfl, rfl, rfl⟩
  · cases h
    exact .refl w

end Resolution

/-! ## What is recalled -/

namespace World

/-- What a set remembers for a type on the running thread; nothing for a type that cannot be a key.
-/
def recalled (w : World) (id : Nat) (type : Value) : Option Binding :=
  if (w.store.unhashable? type).isSome then none
  else (w.bindingSet id).cache.get? w.store w.thread type

theorem Same.recalled {w w' : World} (h : w.Same w') (id : Nat) (type : Value) :
    w'.recalled id type = w.recalled id type := by
  rw [World.recalled, World.recalled, h.store, h.thread, h.bindingSet]

theorem recalled_of_entries {w : World} {id : Nat} (h : (w.bindingSet id).cache.entries = [])
    (type : Value) : w.recalled id type = none := by
  rw [recalled, Cache.get?, h]
  split <;> rfl

/-- What is recalled was remembered for an equal type. -/
theorem exists_of_recalled {w : World} {id : Nat} {type : Value} {b : Binding}
    (h : w.recalled id type = some b) :
    w.store.unhashable? type = none ∧ ∃ thread key,
      (thread, key, b) ∈ (w.bindingSet id).cache.entries ∧ w.store.agree key type := by
  rw [recalled] at h
  split at h
  next => cases h
  next hkey =>
    rw [Bool.not_eq_true, Option.isSome_eq_false_iff, Option.isNone_iff_eq_none] at hkey
    obtain ⟨⟨thread, key, b'⟩, hfound, rfl⟩ := Option.map_eq_some_iff.mp h
    have hagree := List.find?_some hfound
    simp only [Bool.and_eq_true] at hagree
    exact ⟨hkey, thread, key, List.mem_of_find?_eq_some hfound, hagree.2⟩

end World

namespace Resolution

variable {engine : Engine} {id : Nat} {type : Value} {handled : Option Ref} {w : World}

theorem run_warnUnhashable (h : w.Legible type) (handled : Option Ref) :
    ∃ w', (warnUnhashable type).run handled w =
      (.ok (w.store.unhashable? type).isSome, w') ∧ w.Same w' := by
  cases hkey : w.store.unhashable? type with
  | none =>
    refine ⟨w, ?_, .refl w⟩
    rw [warnUnhashable, run_bind, run_store]
    dsimp only
    rw [hkey]
    rfl
  | some name =>
    obtain ⟨text, htext⟩ := h.warned name hkey
    let warning := ("UnhashableType",
      "Type " ++ text ++ " is unhashable; its WrapErr binding can't be cached")
    refine ⟨{ w with observed :=
      { w.observed with warnings := w.observed.warnings ++ [warning] } }, ?_, ⟨rfl, rfl, rfl, rfl⟩⟩
    rw [warnUnhashable, run_bind, run_store]
    dsimp only
    rw [hkey]
    exact run_bind_of_ok (run_str_of_ok htext)

/-- Whether there is reason for a warning is what the store says, and nothing else is different
after it. -/
theorem eq_of_run_warnUnhashable {unhashable : Bool} {w' : World}
    (h : (warnUnhashable type).run handled w = (.ok unhashable, w')) :
    unhashable = (w.store.unhashable? type).isSome ∧ w.Same w' := by
  rw [warnUnhashable, run_bind, run_store] at h
  dsimp only at h
  split at h
  next hkey =>
    cases h
    rw [hkey]
    exact ⟨rfl, .refl w⟩
  next name hkey =>
    obtain ⟨text, v, htext, hwarn⟩ := run_bind_eq_ok.mp h
    obtain rfl := (looks_str _).eq_of_run htext
    obtain ⟨_, u, hwarned, hlast⟩ := run_bind_eq_ok.mp hwarn
    cases hwarned
    cases hlast
    rw [hkey]
    exact ⟨rfl, rfl, rfl, rfl, rfl⟩

/-- Asking what is remembered may warn, and then tells what is recalled. -/
theorem run_recallIn (id : Nat) (type : Value) (handled : Option Ref) (w : World) :
    (recallIn id type).run handled w =
      (warnUnhashable type >>= fun _ => pure (w.recalled id type)).run handled w := by
  have hrecall : (recallIn id type).run handled w =
      (remembered (w.bindingSet id).cache type).run handled w := rfl
  rw [hrecall, remembered, run_bind, run_bind]
  rcases hwarn : (warnUnhashable type).run handled w with ⟨signal | unhashable, v⟩
  · rfl
  · obtain ⟨rfl, hsame⟩ := eq_of_run_warnUnhashable hwarn
    dsimp only
    rw [run_pure, World.recalled]
    split
    · rfl
    · rw [← hsame.store, ← hsame.thread]
      rfl

/-- How a lookup goes on once it knows what is remembered. -/
def resumed (engine : Engine) (id : Nat) (type : Value) : Option Binding → Eval (Option Binding)
  | some b => do
    note type "cached"
    return some b
  | none => computeIn engine id type

/-- Looking up a type begins with what is remembered for it. -/
theorem run_lookup (engine : Engine) (id : Nat) (type : Value) (handled : Option Ref) (w : World) :
    (lookup engine id type).run handled w =
      (note type "start" >>= fun _ => warnUnhashable type >>= fun _ =>
        resumed engine id type (w.recalled id type)).run handled w := by
  have hlookup : (lookup engine id type).run handled w =
      (note type "start" >>= fun _ => recallIn id type >>= resumed engine id type).run handled w :=
    rfl
  rw [hlookup, run_bind, run_bind]
  rcases hnote : (note type "start").run handled w with ⟨signal | _, v⟩
  · rfl
  · dsimp only
    rw [run_bind, run_bind, run_recallIn, (same_of_run_note hnote).recalled, run_bind]
    rcases (warnUnhashable type).run handled v with ⟨signal | unhashable, u⟩ <;> rfl

/-- If the texts of the type can be made, nothing stops a lookup before that. -/
theorem run_lookup_of_legible (h : w.Legible type) (engine : Engine) (handled : Option Ref)
    (id : Nat) :
    ∃ w', w.Same w' ∧ (lookup engine id type).run handled w =
      (resumed engine id type (w.recalled id type)).run handled w' := by
  obtain ⟨w₁, hstart, hw₁⟩ := run_note h handled "start"
  obtain ⟨w₂, hwarn, hw₂⟩ := run_warnUnhashable (h.of_same hw₁) handled
  rw [run_lookup]
  exact ⟨w₂, hw₁.trans hw₂, (run_bind_of_ok hstart).trans (run_bind_of_ok hwarn)⟩

/-- An answer counts where nothing is remembered. -/
theorem remembering_of_recalled {found : Option Binding × Bool}
    (hnone : w.recalled id type = none) (hunhashable : found.2 = (w.store.unhashable? type).isSome) :
    (remembering id type found w).1 = found.1 ∧
      (remembering id type found w).2.store = w.store := by
  rw [remembering]
  split
  · exact ⟨rfl, rfl⟩
  next hkey =>
    rw [World.recalled, ← hunhashable, if_neg hkey] at hnone
    refine ⟨?_, rfl⟩
    simp only [World.remember, Cache.remember, hnone]

/-- An answer that is found where nothing is remembered is the answer. -/
theorem run_computeIn_of_compute {found : Option Binding} {v : World} (hlegible : w.Legible type)
    (hnone : w.recalled id type = none)
    (h : (compute engine id type).run handled w = (.ok found, v)) (hv : w.Same v) :
    ∃ v', (computeIn engine id type).run handled w = (.ok found, v') ∧ v'.store = w.store := by
  obtain ⟨u, hnote, hu⟩ := run_note (hlegible.of_same hv) handled "computed"
  have hwu := hv.trans hu
  obtain ⟨u', hwarn, hu'⟩ := run_warnUnhashable (hlegible.of_same hwu) handled
  have hwu' := hwu.trans hu'
  have hnoted : (computeNoted engine id type).run handled w =
      (.ok (found, (u.store.unhashable? type).isSome), u') := by
    rw [computeNoted, run_bind_of_ok h, run_bind_of_ok hnote, run_bind_of_ok hwarn, run_pure]
  have hkey : (found, (u.store.unhashable? type).isSome).2 = (u'.store.unhashable? type).isSome := by
    rw [hu'.store]
  obtain ⟨hanswer, hstore⟩ := remembering_of_recalled ((hwu'.recalled id type).trans hnone) hkey
  refine ⟨_, ?_, hstore.trans hwu'.store⟩
  simp only [computeIn, thenChange, hnoted, hanswer]

end Resolution
end FaultContext
