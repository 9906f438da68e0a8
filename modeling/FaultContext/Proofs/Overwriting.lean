/-
# FaultContext.Proofs.Overwriting -- what becomes of a registered binding.

A class that has a binding of its own keeps it.  To register another one is refused as ambiguous,
and nothing changes; looking types up, and registering for other classes or in other sets, leaves
the entry of the class alone.

Two kinds of registrations get past this.  The most general class has an entry from the start, so
it is exempt from the check and can be registered again and again.  And the check asks for the type
that is registered and not for the classes that it stands for, so a union puts its binding in the
place of that of each of its members.  Whatever stands where another binding was registered before
has come in one of these two ways.
-/
import FaultContext.Proofs.Remembering

namespace FaultContext

open Eval

/-! ## Entries of a registry -/

namespace Registry

variable (r : Registry) (c d : Class) (b : Binding)

/-- Registering for a class changes the entry of that class and no other one. -/
theorem get?_insert : (r.insert c b).get? d = if d = c then some b else r.get? d := by
  obtain ⟨entries⟩ := r
  rw [insert]
  split
  next hold =>
    -- The class has an entry, which gets another binding in its place.
    simp only [get?] at hold ⊢
    induction entries with
    | nil => cases hold
    | cons entry rest ih =>
      obtain ⟨k, old⟩ := entry
      by_cases hdk : d = k
      · subst hdk
        by_cases hdc : d = c <;> simp [hdc]
      · have hd : (d == k) = false := beq_eq_false_iff_ne.mpr hdk
        by_cases hkc : k = c
        · subst hkc
          -- The entries behind that of the class are those of other classes.
          have hrest : ∀ rest : List (Class × Binding),
              (rest.map fun e => if e.1 = k then (e.1, b) else e).lookup d = rest.lookup d := by
            intro rest
            induction rest with
            | nil => rfl
            | cons e rest ih =>
              obtain ⟨k', old'⟩ := e
              by_cases hk : k' = k
              · subst hk
                simp [List.lookup_cons, hd, ih]
              · cases hdk' : d == k' <;> simp [List.lookup_cons, hk, hdk', ih]
          simpa [List.lookup_cons, hd, hdk] using hrest rest
        · have hc : (c == k) = false := beq_eq_false_iff_ne.mpr (Ne.symm hkc)
          simp only [List.lookup_cons, hc] at hold
          simpa [List.lookup_cons, hd, hkc] using ih hold
  next hnone =>
    simp only [get?, Option.not_isSome_iff_eq_none] at hnone ⊢
    by_cases hd : d = c
    · subst hd
      simp [List.lookup_append, hnone]
    · simp [List.lookup_append, List.lookup_cons, beq_eq_false_iff_ne.mpr hd, hd]

/-- Registering for several classes changes their entries and no other one. -/
theorem get?_foldl_insert (targets : List Class) :
    (targets.foldl (fun r c => r.insert c b) r).get? d =
      if d ∈ targets then some b else r.get? d := by
  induction targets generalizing r with
  | nil => simp
  | cons c rest ih =>
    rw [List.foldl_cons, ih, get?_insert]
    by_cases hd : d = c <;> by_cases hrest : d ∈ rest <;> simp [hd, hrest]

end Registry

/-! ## Registering once -/

namespace World

variable {id : Nat} {w w' : World} {type : Value} {targets : List Class} {b : Binding}

/-- A set that is there stays there. -/
theorem Level.size_iff (h : w.Level id w') : id < w'.sets.size ↔ id < w.sets.size := by
  have hcore := congrArg Option.isSome h.core
  rw [Option.isSome_map, Option.isSome_map] at hcore
  simpa using Bool.eq_iff_iff.mp hcore

theorem Level.registry (h : w.Level id w') :
    (w'.bindingSet id).registry = (w.bindingSet id).registry :=
  (BindingSet.Like.of_core h.core_bindingSet).registry

/-- A set that is there gets the bindings that are registered in it. -/
theorem get?_registering (hset : id < w.sets.size) (targets : List Class) (b : Binding)
    (c : Class) :
    ((w.registering id targets b).bindingSet id).registry.get? c =
      if c ∈ targets then some b else (w.bindingSet id).registry.get? c := by
  have hafter :
      (w.registering id targets b).bindingSet id = (w.bindingSet id).register targets b := by
    simp [registering, bindingSet, Array.getElem_modify, hset]
  rw [hafter]
  exact Registry.get?_foldl_insert _ c b targets

/-- A binding that a set admits for a type is found for each class that the type stands for, and
the entries of all other classes stay what they are. -/
theorem get?_after_register (hset : id < w.sets.size)
    (htargets : Registry.targets? type = some targets)
    (hadmits : (w.bindingSet id).Admits w.store type) (b : Binding) (c : Class) :
    (((Session.register id type b).after w).bindingSet id).registry.get? c =
      if c ∈ targets then some b else (w.bindingSet id).registry.get? c := by
  have hlevel := Level.of_keeps (Session.keeps_register_of_admits (b := b) htargets hadmits) id
  rw [hlevel.registry, get?_registering hset]

theorem size_iff_after_register (id : Nat) (type : Value) (b : Binding) :
    id < ((Session.register id type b).after w).sets.size ↔ id < w.sets.size := by
  cases Session.registration id type b w with
  | admitted _ _ hkeeps => rw [(Level.of_keeps hkeeps id).size_iff, registering, Array.size_modify]
  | refused _ hkeeps => exact (Level.of_keeps hkeeps id).size_iff

end World

namespace Session

variable {id : Nat} {c : Class} {b : Binding} {w w' : World}

/-- A binding that has been registered for a type was admitted. -/
theorem admits_of_register {type : Value} (h : register id type b w = (.ok (), w')) :
    ∃ targets, Registry.targets? type = some targets ∧
      (w.bindingSet id).Admits w.store type := by
  rw [register, bind_apply, liftM_apply] at h
  rcases hcheck : (checkRegistrable id type).run none w with ⟨signal | checked, v⟩ <;>
    rw [hcheck] at h
  · cases h
  · obtain ⟨hadmits, rfl⟩ := run_checkRegistrable_eq_ok.mp hcheck
    cases htargets : Registry.targets? type with
    | some targets => exact ⟨targets, rfl, hadmits⟩
    | none =>
      rw [htargets] at h
      obtain ⟨_, _, -, hfault⟩ := run_bind_eq_ok.mp h
      exact absurd hfault (run_fault_ne_ok _)

/-- A class that has a binding of its own is refused another one, and nothing has changed but that
there is an exception that says so. -/
theorem register_of_taken (hkey : w.store.unhashable? (.cls c) = none)
    (htaken : ((w.bindingSet id).registry.get? c).isSome) (hc : c ≠ Standard.object) (b : Binding) :
    ∃ text, w.store.repr (.cls c) = .ok text ∧
      let made := w.store.newException Standard.ambiguousBinding
        [.str .fresh ("A WrapErr binding for " ++ text ++ " is already registered")] []
      register id (.cls c) b w = (.error (.raised made.1), { w with store := made.2 }) := by
  obtain ⟨text, htext⟩ : ∃ text, w.store.repr (.cls c) = .ok text := ⟨_, rfl⟩
  refine ⟨text, htext, ?_⟩
  have hcheck : (checkRegistrable id (.cls c)).run none w =
      (raiseNew .ambiguousBinding ("A WrapErr binding for " ++ text ++
        " is already registered") : Eval Unit).run none w := by
    rw [checkRegistrable, run_bind, run_store]
    dsimp only
    rw [hkey]
    dsimp only
    rw [run_bind, Resolution.bindingSet, run_reading]
    dsimp only
    rw [if_pos (by simp [htaken, hc]), run_bind_of_ok (run_repr_of_ok htext), run_raiseNew]
    exact run_bind_of_error (run_raiseNew _ _)
  rw [register, bind_apply, liftM_apply, hcheck, run_raiseNew]
  rfl

end Session

/-! ## Histories -/

/-- A request that can put a binding in the place of the one that a class has: it registers for the
class by way of a union, or the class is the most general one. -/
def Request.Overwrites (id : Nat) (c : Class) (b : Binding) : Request → Prop
  | .register other type new => other = id ∧ new = b ∧
      ∃ targets, Registry.targets? type = some targets ∧ c ∈ targets ∧
        (type = .cls c → c = Standard.object)
  | .lookup _ _ => False

namespace World

variable {engine : Engine} {id : Nat} {c : Class} {b : Binding} {w w' : World}

/-- A set that is there, the classes, and a binding of a class that can be a key. -/
structure Holds (w : World) (id : Nat) (c : Class) (b : Binding) (classes : Array Declaration) :
    Prop where
  set : id < w.sets.size
  classes : w.store.declarations = classes
  entry : (w.bindingSet id).registry.get? c = some b

namespace Holds

variable {classes : Array Declaration}

theorem level (hw : w.Holds id c b classes) (h : w.Level id w') : w'.Holds id c b classes where
  set := h.size_iff.mpr hw.set
  classes := h.classes.trans hw.classes
  entry := h.registry ▸ hw.entry

/-- After one request the class has the binding that it had, unless the request overwrites it. -/
theorem request (hw : w.Holds id c b classes) (request : Request) :
    ∃ b', ((request.run engine).after w).Holds id c b' classes ∧
      (b' = b ∨ request.Overwrites id c b') := by
  cases request with
  | lookup other type => exact ⟨b, hw.level (.of_keeps (Eval.keeps _ none w) id), .inl rfl⟩
  | register other type new =>
    by_cases hid : other = id
    · subst hid
      cases Session.registration other type new w with
      | @admitted targets htargets hadmits hkeeps =>
        have hentry := get?_after_register hw.set htargets hadmits new c
        refine ⟨if c ∈ targets then new else b, ⟨?_, ?_, ?_⟩, ?_⟩
        · exact (size_iff_after_register other type new).mpr hw.set
        · exact hkeeps.store.classes.trans hw.classes
        · refine hentry.trans ?_
          rw [hw.entry]
          split <;> rfl
        · -- A class that has a binding can only be reached through a union, unless it is exempt.
          split
          next hc =>
            refine .inr ⟨rfl, rfl, targets, htargets, hc, fun htype => ?_⟩
            exact hadmits.free c htype (by rw [hw.entry]; rfl)
          next => exact .inl rfl
      | refused _ hkeeps => exact ⟨b, hw.level (.of_keeps hkeeps other), .inl rfl⟩
    · exact ⟨b, hw.level (.register_other hid type new), .inl rfl⟩

/-- After any history the class has the binding that it had or one that a request put in its place.
-/
theorem afterAll (hw : w.Holds id c b classes) (history : List (Nat × Request)) :
    ∃ b', (w.afterAll engine history).Holds id c b' classes ∧
      (b' = b ∨ ∃ entry ∈ history, entry.2.Overwrites id c b') := by
  induction history generalizing w b with
  | nil => exact ⟨b, hw, .inl rfl⟩
  | cons entry rest ih =>
    obtain ⟨thread, request⟩ := entry
    have hthread : World.Holds { w with thread } id c b classes := ⟨hw.set, hw.classes, hw.entry⟩
    obtain ⟨between, hbetween, hfirst⟩ := hthread.request request
    obtain ⟨b', hb', hrest⟩ := ih hbetween
    refine ⟨b', hb', ?_⟩
    rcases hrest with rfl | ⟨later, hlater, hoverwrites⟩
    · exact hfirst.imp_right fun hoverwrites => ⟨_, List.mem_cons_self, hoverwrites⟩
    · exact .inr ⟨later, List.mem_cons_of_mem _ hlater, hoverwrites⟩

end Holds

/-- **A class keeps the binding that has been registered for it, unless a union is registered that
it is a member of.**  Whatever is registered and looked up afterwards, in this set or in others and
on any threads: the class has that binding, or one that was registered by way of a union, or it is
the most general class and the binding was registered for it again.  To register the class itself
again is refused as ambiguous and changes nothing; but every union that can be a key puts its
binding in the place of that of its members, and so does registering again for the most general
class. -/
theorem entry_after_history {w₀ w₁ : World} (hset : id < w₀.sets.size)
    (h : Session.register id (.cls c) b w₀ = (.ok (), w₁)) (history : List (Nat × Request))
    (thread : Nat) :
    let w := { w₁.afterAll engine history with thread }
    (∃ b', (w.bindingSet id).registry.get? c = some b' ∧
      (b' = b ∨ ∃ entry ∈ history, entry.2.Overwrites id c b')) ∧
    (c ≠ Standard.object → ∀ b', ∃ text, w.store.repr (.cls c) = .ok text ∧
      let made := w.store.newException Standard.ambiguousBinding
        [.str .fresh ("A WrapErr binding for " ++ text ++ " is already registered")] []
      Session.register id (.cls c) b' w = (.error (.raised made.1), { w with store := made.2 })) ∧
    ∀ type b', (Request.register id type b').Overwrites id c b' →
      w.store.unhashable? type = none →
      (((Session.register id type b').after w).bindingSet id).registry.get? c = some b' := by
  obtain ⟨targets, htargets, hadmits⟩ := Session.admits_of_register h
  cases htargets
  have hkeeps := Session.keeps_register_of_admits (b := b) rfl hadmits
  have hregistered : ((Session.register id (.cls c) b).after w₀).Holds id c b
      w₀.store.declarations := by
    refine ⟨(size_iff_after_register id _ b).mpr hset, hkeeps.store.classes, ?_⟩
    rw [get?_after_register hset rfl hadmits, if_pos List.mem_cons_self]
  rw [Session.after, h] at hregistered
  obtain ⟨b', hb', horigin⟩ := hregistered.afterAll history
  intro w
  have hw : w.Holds id c b' w₀.store.declarations := ⟨hb'.set, hb'.classes, hb'.entry⟩
  clear_value w
  refine ⟨⟨b', hw.entry, horigin⟩, fun hc other => ?_, fun type other hoverwrites hkey => ?_⟩
  · have hkey : w.store.unhashable? (.cls c) = none :=
      (Registry.unhashable?_congr hw.classes rfl).trans hadmits.hashable
    exact Session.register_of_taken hkey (by rw [hw.entry]; rfl) hc other
  · obtain ⟨-, -, targets, htargets, hmember, hexempt⟩ := hoverwrites
    have hcls : ∀ d, type = .cls d → d = c := by
      rintro d rfl
      cases htargets
      exact (List.mem_singleton.mp hmember).symm
    have hplain : TypeHint.isSubclassSafe w.store type [.std .wrapErr] = false := by
      cases type with
      | cls d =>
        obtain rfl := hcls d rfl
        exact (TypeHint.isSubclassSafe_congr hw.classes _ _).trans hadmits.plain
      | _ => rfl
    have hagain : (w.bindingSet id).Admits w.store type := by
      refine ⟨hkey, fun d htype _ => ?_, hplain⟩
      obtain rfl := hcls d htype
      exact hexempt htype
    rw [get?_after_register hw.set htargets hagain, if_pos hmember]

/-- A binding is registered for a class, and then another one for a union with that class. -/
theorem member_overwritten :
    let c : Class := Standard.int
    let type := Value.union [.std .int, .std .str]
    let w₁ := (Session.register 0 (.cls c) .chain).after World.initial
    let w := w₁.afterAll (Engine.within 0) [(0, .register 0 type .note)]
    0 < World.initial.sets.size ∧
    Session.register 0 (.cls c) .chain World.initial = (.ok (), w₁) ∧
    (w₁.bindingSet 0).registry.get? c = some .chain ∧
    (w.bindingSet 0).registry.get? c = some .note := by
  intro c type w₁ w
  have hset : 0 < World.initial.sets.size := by decide
  have hfirst : Session.register 0 (.cls c) .chain World.initial = (.ok (), w₁) := rfl
  have hoverwrites : (Request.register 0 type .note).Overwrites 0 c .note :=
    ⟨rfl, rfl, [Standard.int, Standard.str], rfl, List.mem_cons_self, nofun⟩
  obtain ⟨⟨b', hb', hb⟩, -, hoverwritten⟩ :=
    @entry_after_history (Engine.within 0) 0 c .chain _ _ hset hfirst [] 0
  refine ⟨hset, hfirst, ?_, hoverwritten type .note hoverwrites rfl⟩
  rcases hb with rfl | ⟨_, hnone, -⟩
  · exact hb'
  · cases hnone

end World
end FaultContext
