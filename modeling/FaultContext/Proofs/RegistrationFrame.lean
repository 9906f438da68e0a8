/-
# FaultContext.Proofs.RegistrationFrame -- what a registration leaves alone.

Registering a binding for a class can move what is found for the classes derived from it, and for no
other ones: all others are looked up to the same end as before, whatever their order is and whatever
has been registered before.  A registration that is refused moves nothing at all.

For the classes derived from it the new binding is found where nothing is registered nearer.  What
is nearer is told by the order that the registry goes along (`Registry.dispatchOrder`).  For an
unmixed class that is the order of the class itself; for others it may be a different one, or there
may be none, and then the lookup ends with an exception although the registration went through.

A set is meant here that has been made of the standard rules and any conventions that answer on
their own (`BindingSet.IsStandard`), at any point of its history (`World.Arisen`).

Not here: conventions that ask the set for other types, since a registration moves what these find,
and the placeholder as a binding that is registered, which no lookup finds.
-/
import FaultContext.Proofs.Entering
import FaultContext.Proofs.SameAnswer
import FaultContext.Proofs.StandardResolution

namespace FaultContext

open Eval

/-! ## The order of a registry -/

/-- A class counts as derived from another one if that stands in its order, or if it merges contexts
and the interface is derived from that one. -/
def Store.Derives (s : Store) (c ancestor : Class) : Prop :=
  s.isSubclass c ancestor = true ∨
    s.implementsContext c = true ∧ s.isSubclass Standard.wrapErr ancestor = true

namespace Registry

variable {s : Store}

/-- What a registry may go along for a class: the order of the class, and what the interface is
derived from if that is still to get a place. -/
def Along (s : Store) (pending : Bool) (c d : Class) : Prop :=
  d ∈ s.order c ∨ pending = true ∧ d ∈ s.order Standard.wrapErr

theorem along_of_orderWithin_standard {c : Standard} {depth : Nat} {pending : Bool}
    {order : List Class} (h : orderWithin s depth pending (.standard c) = .ok order) {d : Class}
    (hd : d ∈ order) : Along s pending (.standard c) d := by
  have hplain : orderWithin s depth pending (.standard c) =
      if pending && s.implementsContext (.standard c) && !c.isSubclass .wrapErr then
        Linearization.ofBases (.standard c)
          [s.order Standard.wrapErr, c.ancestors.map .standard] [Standard.wrapErr]
      else .ok (s.order (.standard c)) := by cases depth <;> rfl
  rw [hplain] at h
  split at h
  next hintroduced =>
    simp only [Bool.and_eq_true] at hintroduced
    rcases Linearization.mem_of_mem_ofBases h hd with rfl | ⟨l, hl, hdl⟩ | hbase
    · exact .inl List.mem_cons_self
    · rcases List.mem_cons.mp hl with rfl | hl
      · exact .inr ⟨hintroduced.1.1, hdl⟩
      · cases List.mem_singleton.mp hl
        exact .inl (List.mem_cons_of_mem _ hdl)
    · rw [List.mem_singleton.mp hbase]
      exact .inr ⟨hintroduced.1.1, List.mem_cons_self⟩
  · cases h
    exact .inl hd

/-- What a registry goes along for the bases of a class it may go along for the class. -/
theorem along_of_mapM (hs : s.Ordered) {k : Nat} {declared : Declaration}
    (hk : s.declarations[k]? = some declared) {depth : Nat} {pending pending' : Bool}
    (hpending : pending' = true → pending = true) {bases : List Class}
    (hbases : ∀ b ∈ bases, b ∈ declared.bases)
    (ih : ∀ b ∈ declared.bases, ∀ pending order,
      orderWithin s depth pending b = .ok order → ∀ d ∈ order, Along s pending b d)
    {orders : List (List Class)} (h : bases.mapM (orderWithin s depth pending') = .ok orders)
    {l : List Class} (hl : l ∈ orders) {d : Class} (hd : d ∈ l) :
    Along s pending (.declared k) d := by
  obtain ⟨b, hb, hl⟩ := exists_of_mem_mapM h hl
  rcases ih b (hbases b hb) _ l hl d hd with hd | ⟨htrue, hd⟩
  · exact .inl (hs.mem_order_of_mem_order hk (hbases b hb) hd)
  · exact .inr ⟨hpending htrue, hd⟩

/-- What comes in with the interface is the interface and what it is derived from. -/
theorem mem_order_of_mem_interface {introduced : Bool} {l : List Class} {d : Class}
    (hl : l ∈ (if introduced then [Class.standard .wrapErr] else []).map s.order ∨
      l = if introduced then [Class.standard .wrapErr] else []) (hd : d ∈ l) :
    introduced = true ∧ d ∈ s.order Standard.wrapErr := by
  cases introduced with
  | false =>
    rcases hl with hl | rfl
    · cases hl
    · cases hd
  | true =>
    refine ⟨rfl, ?_⟩
    rcases hl with hl | rfl
    · cases List.mem_singleton.mp hl
      exact hd
    · rw [List.mem_singleton.mp hd]
      exact List.mem_cons_self

/-- **One declared class**: a registry goes along what it goes along for the bases. -/
theorem along_of_orderWithin_declared (hs : s.Ordered) {k : Nat} {declared : Declaration}
    (hk : s.declarations[k]? = some declared) {depth : Nat}
    (ih : ∀ b ∈ declared.bases, ∀ pending order,
      orderWithin s depth pending b = .ok order → ∀ d ∈ order, Along s pending b d)
    {pending : Bool} {order : List Class}
    (h : orderWithin s (depth + 1) pending (.declared k) = .ok order) {d : Class}
    (hd : d ∈ order) : Along s pending (.declared k) d := by
  unfold orderWithin at h
  simp only [hk, Option.map_some, Option.getD_some] at h
  generalize hintroduced : (pending && s.implementsContext (.declared k) &&
    !declared.bases.any s.implementsContext) = introduced at h
  obtain ⟨first, hfirst, h⟩ := except_bind_eq_ok.mp h
  obtain ⟨last, hlast, h⟩ := except_bind_eq_ok.mp h
  obtain ⟨merged, hmerge, h⟩ := except_bind_eq_ok.mp h
  cases h
  have hpending : (pending && !introduced) = true → pending = true := by
    intro h
    rw [Bool.and_eq_true] at h
    exact h.1
  have hinterface : introduced = true ∧ d ∈ s.order Standard.wrapErr →
      Along s pending (.declared k) d := by
    rintro ⟨rfl, hd⟩
    simp only [Bool.and_eq_true] at hintroduced
    exact .inr ⟨hintroduced.1.1, hd⟩
  have hparts : ∀ b, b ∈ (splitBases s declared.bases).1 ∨ b ∈ (splitBases s declared.bases).2 →
      b ∈ declared.bases := fun _ => mem_of_mem_splitBases
  rcases List.mem_cons.mp hd with rfl | hd
  · have hhas : s.Has (.declared k) := (Array.getElem?_eq_some_iff.mp hk).1
    obtain ⟨rest, hrest⟩ := hs.order_eq_cons hhas
    exact .inl (hrest ▸ List.mem_cons_self)
  · -- The class stands in one of the orders that are merged, or it is a base itself.
    obtain ⟨l, hl, hdl⟩ := Linearization.mem_of_mem_mergeWithin hmerge hd
    simp only [List.mem_append, List.mem_cons, List.not_mem_nil, or_false] at hl
    rcases hl with ((hl | hl) | hl) | rfl | rfl | rfl
    · exact along_of_mapM hs hk hpending (fun b hb => hparts b (.inl hb)) ih hfirst hl hdl
    · exact hinterface (mem_order_of_mem_interface (.inl hl) hdl)
    · exact along_of_mapM hs hk hpending (fun b hb => hparts b (.inr hb)) ih hlast hl hdl
    · exact .inl (hs.mem_order_of_mem_bases hk (hparts d (.inl hdl)))
    · exact hinterface (mem_order_of_mem_interface (.inr rfl) hdl)
    · exact .inl (hs.mem_order_of_mem_bases hk (hparts d (.inr hdl)))

/-- **All classes**: a registry goes along no classes but those in the order of the class, and what
the interface is derived from if that is still to get a place. -/
theorem along_of_orderWithin (hs : s.Ordered) {c : Class} (hc : s.Has c) {depth : Nat}
    {pending : Bool} {order : List Class} (h : orderWithin s depth pending c = .ok order)
    {d : Class} (hd : d ∈ order) : Along s pending c d := by
  refine hs.induction
    (motive := fun c => ∀ depth pending order, orderWithin s depth pending c = .ok order →
      ∀ d ∈ order, Along s pending c d)
    (fun c depth pending order h d hd => along_of_orderWithin_standard h hd)
    (fun k declared hk _ ih depth pending order h d hd => ?_)
    hc depth pending order h d hd
  cases depth with
  | zero =>
    cases h
    exact .inl hd
  | succ depth =>
    exact along_of_orderWithin_declared hs hk (fun b hb => ih b hb depth) h hd

/-! ## Dispatching after a registration -/

section

variable {r : Registry} {c target : Class} {b : Binding}

/-- Only a registration for the interface changes the order that a registry goes along. -/
theorem dispatchOrder_insert (htarget : target ≠ Standard.wrapErr) (b : Binding) (c : Class) :
    (r.insert target b).dispatchOrder s c = r.dispatchOrder s c := by
  unfold dispatchOrder
  rw [get?_insert, if_neg htarget.symm]

theorem dispatch_cls (r : Registry) (s : Store) (c : Class) :
    r.dispatch s (.cls c) =
      if s.isHashableClass c then r.dispatchClass s c
      else .error (.unhashable (s.metaclass c).name) := rfl

/-- **A registration changes nothing for a class that is not derived from its target.** -/
theorem dispatch_insert_of_not_derives (hs : s.Ordered) (htarget : target ≠ Standard.wrapErr)
    (h : ¬s.Derives c target) (b : Binding) :
    (r.insert target b).dispatch s (.cls c) = r.dispatch s (.cls c) := by
  rw [dispatch_cls, dispatch_cls]
  split
  next hhashable =>
    have hhas := Store.has_of_isHashableClass hhashable
    have hentry : ∀ d, d ∈ s.order c ∨ s.implementsContext c = true ∧
        d ∈ s.order Standard.wrapErr → (r.insert target b).get? d = r.get? d := by
      intro d hd
      rw [get?_insert, if_neg]
      rintro rfl
      refine h (hd.imp ?_ (And.imp_right ?_)) <;> exact List.contains_iff_mem.mpr
    obtain ⟨rest, hrest⟩ := hs.order_eq_cons hhas
    have hself : c ∈ s.order c := by
      rw [hrest]
      exact List.mem_cons_self
    unfold dispatchClass
    rw [hentry c (.inl hself), dispatchOrder_insert htarget]
    cases r.get? c with
    | some own => rfl
    | none =>
      cases horder : r.dispatchOrder s c with
      | error heads => rfl
      | ok order =>
        -- No class that the registry goes along is the target.
        have hfirst : (r.insert target b).firstOf order = r.firstOf order := by
          refine findSome?_congr_of_mem fun d hd => hentry d ?_
          refine (along_of_orderWithin hs hhas horder hd).imp_right (And.imp_left ?_)
          intro hpending
          simp only [Bool.and_eq_true] at hpending
          exact hpending.1.2
        dsimp only
        rw [hfirst]
  next => rfl

/-- A class with a binding of its own is dispatched to it. -/
theorem dispatch_insert_self (hhashable : s.isHashableClass target = true) :
    (r.insert target b).dispatch s (.cls target) = .ok (some b) := by
  rw [dispatch_cls, if_pos hhashable, dispatchClass, get?_insert, if_pos rfl]

section

variable (hhashable : s.isHashableClass c = true) (htarget : target ≠ Standard.wrapErr)
  (hself : c ≠ target) (hnone : r.get? c = none)
include hhashable htarget hself hnone

/-- A class without a binding of its own is dispatched along the order that it had before. -/
theorem dispatch_insert_of_ordered {order : List Class} (horder : r.dispatchOrder s c = .ok order) :
    (r.insert target b).dispatch s (.cls c) = .ok ((r.insert target b).firstOf order) := by
  rw [dispatch_cls, if_pos hhashable, dispatchClass, get?_insert, if_neg hself, hnone,
    dispatchOrder_insert htarget, horder]

/-- A class that the registry finds no order for is dispatched to nothing. -/
theorem dispatch_insert_of_unordered {heads : List Class}
    (horder : r.dispatchOrder s c = .error heads) :
    (r.insert target b).dispatch s (.cls c) = .error .contradiction := by
  rw [dispatch_cls, if_pos hhashable, dispatchClass, get?_insert, if_neg hself, hnone,
    dispatchOrder_insert htarget, horder]

end

/-- The target is the first class with an entry along an order if nothing is registered for the
classes before it. -/
theorem firstOf_insert {before : List Class} (after : List Class)
    (hbefore : ∀ d ∈ before, r.get? d = none) :
    (r.insert target b).firstOf (before ++ target :: after) = some b := by
  rw [firstOf, List.findSome?_append, List.findSome?_cons, get?_insert, if_pos rfl]
  cases hfound : before.findSome? (r.insert target b).get? with
  | none => rfl
  | some found =>
    obtain ⟨d, hd, hentry⟩ := List.exists_of_findSome?_eq_some hfound
    rw [get?_insert] at hentry
    split at hentry
    · exact congrArg _ (Option.some.inj hentry).symm
    · rw [hbefore d hd] at hentry
      cases hentry

end

/-- For an unmixed class that does not merge contexts a registry goes along the order of the class.
-/
theorem dispatchOrder_eq_order (hs : s.Ordered) {r : Registry} {c : Class} (hc : s.Has c)
    (hplain : s.implementsContext c = false) (h : s.Unmixed c) :
    r.dispatchOrder s c = .ok (s.order c) := by
  rw [dispatchOrder, hplain, Bool.and_false, Bool.false_and]
  exact orderWithin_eq_order hs hc h (hc.mono (Nat.le_succ _))

end Registry

/-! ## Registrations that go through -/

namespace Store

variable (s : Store) (texts : ObjectTexts)

theorem argumentTexts_of_classes {members : List Value} (h : ∀ v ∈ members, ∃ c, v = .cls c) :
    ∃ parts, s.argumentTexts texts members = .ok parts := by
  induction members with
  | nil => exact ⟨_, rfl⟩
  | cons v rest ih =>
    obtain ⟨⟨c, rfl⟩, hrest⟩ := List.forall_mem_cons.mp h
    obtain ⟨parts, hparts⟩ := ih hrest
    rw [argumentTexts, hparts]
    exact ⟨_, rfl⟩

theorem memberTexts_of_classes (ofUnion : Bool) {members : List Value}
    (h : ∀ v ∈ members, ∃ c, v = .cls c) :
    ∃ parts, s.memberTexts texts ofUnion members = .ok parts := by
  induction members with
  | nil => exact ⟨_, rfl⟩
  | cons v rest ih =>
    obtain ⟨⟨c, rfl⟩, hrest⟩ := List.forall_mem_cons.mp h
    obtain ⟨parts, hparts⟩ := ih hrest
    rw [memberTexts, hparts]
    exact ⟨_, rfl⟩

/-- What stands for classes has a text. -/
theorem repr_of_targets {type : Value} {targets : List Class}
    (h : Registry.targets? type = some targets) : ∃ text, s.repr type = .ok text := by
  cases type with
  | cls c => exact ⟨_, rfl⟩
  | union members =>
    obtain ⟨parts, hparts⟩ := s.argumentTexts_of_classes (s.texts (s.objects.size + 1))
      (Registry.forall_cls_of_targets h)
    rw [repr, reprWith, hparts]
    dsimp only [bind, Except.bind]
    split <;> exact ⟨_, rfl⟩
  | unionType members =>
    obtain ⟨parts, hparts⟩ := s.memberTexts_of_classes (s.texts (s.objects.size + 1)) true
      (Registry.forall_cls_of_targets h)
    rw [repr, reprWith, hparts]
    exact ⟨_, rfl⟩
  | _ => cases h

end Store

namespace Session

variable {id : Nat} {type : Value} {b : Binding} {w : World}

/-- A binding that is admitted for classes is registered: nothing that is said about it afterwards
can fail. -/
theorem run_register_of_admits {targets : List Class}
    (htargets : Registry.targets? type = some targets)
    (hadmits : (w.bindingSet id).Admits w.store type) :
    ∃ w', register id type b w = (.ok (), w') := by
  have hcheck : (checkRegistrable id type).run none w = (.ok (), w) :=
    run_checkRegistrable_eq_ok.mpr ⟨hadmits, rfl⟩
  obtain ⟨text, htext⟩ := (w.registering id targets b).store.repr_of_targets htargets
  rw [register, bind_apply, liftM_apply, hcheck, htargets]
  show ∃ w', (trace _).run none (w.registering id targets b) = (.ok (), w')
  rw [trace, run_bind, run_reading]
  dsimp only
  split
  · rw [run_bind, run_bind, run_repr_of_ok htext]
    exact ⟨_, rfl⟩
  · exact ⟨_, run_pure _⟩

/-- What goes wrong in a registration goes wrong before anything is registered. -/
theorem refused_of_error {signal : Signal} {w' : World}
    (h : register id type b w = (.error signal, w')) :
    ∀ targets, Registry.targets? type = some targets →
      ¬(w.bindingSet id).Admits w.store type := by
  intro targets htargets hadmits
  obtain ⟨w'', hok⟩ := run_register_of_admits (b := b) htargets hadmits
  rw [hok] at h
  cases h

/-- Registering declares no class. -/
theorem classes_after_register (id : Nat) (type : Value) (b : Binding) (w : World) :
    ((register id type b).after w).store.declarations = w.store.declarations := by
  cases registration id type b w with
  | admitted _ _ hkeeps => exact hkeeps.store.classes
  | refused _ hkeeps => exact hkeeps.store.classes

end Session

/-! ## Standard sets -/

namespace BindingSet

/-- A set goes by the standard rules, and its conventions and its fallback do not go by what is
registered. -/
structure IsStandard (set : BindingSet) : Prop where
  rules : set.rules = [.contextMethod, .registered]
  conventions : ∀ rule ∈ set.conventions, rule.IsFixed
  fallback : set.fallback.IsFixed

variable {set set' : BindingSet}

theorem IsStandard.isFixed (h : set.IsStandard) : set.IsFixed where
  rules := by simp [h.rules, Rule.IsFixed]
  conventions := h.conventions
  fallback := h.fallback

theorem IsStandard.of_like (h : set.IsStandard) (hlike : set.Like set') : set'.IsStandard where
  rules := hlike.rules.trans h.rules
  conventions := hlike.conventions ▸ h.conventions
  fallback := hlike.fallback ▸ h.fallback

theorem IsStandard.of_core (h : set.IsStandard) (hcore : set'.core = set.core) :
    set'.IsStandard :=
  h.of_like (.of_core hcore)

/-- What the registry finds is found, unless the class merges contexts itself. -/
theorem IsStandard.outcome_of_dispatch (h : set.IsStandard) {s : Store} {c : Class} {b : Binding}
    (hplain : s.implementsContext c = false) (hb : b ≠ .unregistered)
    (hdispatch : set.registry.dispatch s (.cls c) = .ok (some b)) :
    set.outcome s c = .ok (some b) := by
  have hfound : set.registry.found? s (.cls c) = some b := by
    rw [Registry.found?, hdispatch]
    cases b <;> first | rfl | exact absurd rfl hb
  have haccepts : set.registry.refusal? s (.cls c) = none := by
    rw [Registry.refusal?, hdispatch]
  have hrules : set.tier s c set.rules = .ok (some b) := by
    simp [tier, h.rules, refusal?, List.findSome?_cons, Rule.refusal?, haccepts, claims, Rule.claim?, hfound,
      TypeHint.isSubclassSafe_wrapErr, hplain]
  rw [outcome, hrules]
  rfl

theorem IsStandard.outcome_of_unordered (h : set.IsStandard) {s : Store} {c : Class}
    (hdispatch : set.registry.dispatch s (.cls c) = .error .contradiction) :
    set.outcome s c = .error Standard.runtimeError := by
  have hrefuses : set.registry.refusal? s (.cls c) = some (.standard .runtimeError) := by
    rw [Registry.refusal?, hdispatch]
    rfl
  have hrules : set.tier s c set.rules = .error Standard.runtimeError := by
    simp [tier, h.rules, refusal?, List.findSome?_cons, Rule.refusal?, hrefuses]
  rw [outcome, hrules]
  rfl

end BindingSet

namespace World

variable {id : Nat} {w w' : World}

/-- A world with a standard set. -/
structure HasStandard (id : Nat) (w : World) : Prop where
  sound : w.Sound
  ordered : w.store.Ordered
  size : id < w.sets.size
  standard : (w.bindingSet id).IsStandard

/-- A set has been made of the standard rules, and anything has happened since: bindings may have
been registered in it for any types, or refused, and types may have been looked up. -/
inductive Arisen (id : Nat) : World → Prop
  | start {w : World} : w.HasStandard id → (w.bindingSet id).registry = .initial → Arisen id w
  | later {w w' : World} : Arisen id w → w.Later id w' → Arisen id w'
  | register {w : World} (type : Value) (b : Binding) : Arisen id w →
    Arisen id ((Session.register id type b).after w)

/-- A class that is added gets a place behind the others. -/
theorem ordered_after_addClass {bases : List Class} (hw : w.store.Ordered)
    (hbases : ∀ b ∈ bases, w.store.Has b) (name : String) (members : Named) (unhashable : Bool) :
    ((addClass name bases members unhashable).after w).store.Ordered := by
  cases withClass_after_addClass name bases members unhashable w with
  | declared hd hfits heq => exact heq ▸ hw.declare (hd hbases) hfits.order members
  | refused hkeeps => exact hw.of_classes hkeeps.store.classes

theorem Later.ordered (h : w.Later id w') (hw : w.store.Ordered) : w'.store.Ordered := by
  induction h with
  | refl => exact hw
  | run _ hrun ih => exact ih.of_classes (keeps_of_run hrun).store.classes
  | addSet _ _ ih => exact ih
  | register type b _ _ ih => exact ih.of_classes (Session.classes_after_register _ type b _)
  | addClass name members unhashable _ hbases ih =>
    exact ordered_after_addClass ih hbases name members unhashable
  | besides _ hstore _ ih => exact hstore ▸ ih

/-- A registration leaves the rules and the conventions of the set as they are. -/
theorem isStandard_after_register (hid : id < w.sets.size) (hset : (w.bindingSet id).IsStandard)
    (type : Value) (b : Binding) :
    (((Session.register id type b).after w).bindingSet id).IsStandard := by
  cases Session.registration id type b w with
  | @admitted targets _ _ hkeeps =>
    have hregistering : (w.registering id targets b).bindingSet id =
        (w.bindingSet id).register targets b := by
      simp [registering, bindingSet, Array.getElem_modify, hid]
    refine BindingSet.IsStandard.of_core ?_ (hkeeps.core_bindingSet id)
    rw [hregistering]
    exact ⟨hset.rules, hset.conventions, hset.fallback⟩
  | refused _ hkeeps => exact hset.of_core (hkeeps.core_bindingSet id)

/-- **Whatever happens to it, a standard set stays one**, and what it remembers is true. -/
theorem Arisen.invariant (h : Arisen id w) : w.HasStandard id := by
  induction h with
  | start hw => exact hw
  | later _ hlater ih =>
    have hretains := hlater.retains ih.size
    constructor
    · exact hlater.sound ih.sound
    · exact hlater.ordered ih.ordered
    · exact hretains.size ih.size
    · exact ih.standard.of_core hretains.core_bindingSet
  | register type b _ ih =>
    constructor
    · exact Session.safe_register id type b _ ih.sound
    · exact ih.ordered.of_classes (Session.classes_after_register id type b _)
    · exact (size_iff_after_register id type b).mpr ih.size
    · exact isStandard_after_register ih.size ih.standard type b

/-- A binding has been registered for a class in a set, and nothing else is different. -/
structure Registering (id : Nat) (target : Class) (b : Binding) (w w' : World) : Prop where
  classes : w'.store.declarations = w.store.declarations
  core : (w'.bindingSet id).core = ((w.bindingSet id).register [target] b).core
  plain : target ≠ Standard.wrapErr

section

variable {target c : Class} {b : Binding}

theorem registering_of_register (hid : id < w.sets.size)
    (h : Session.register id (.cls target) b w = (.ok (), w')) : Registering id target b w w' := by
  obtain ⟨targets, htargets, hadmits⟩ := Session.admits_of_register h
  cases htargets
  have hkeeps := Session.keeps_register_of_admits (b := b) rfl hadmits
  rw [Session.after, h] at hkeeps
  constructor
  · exact hkeeps.store.classes
  · rw [hkeeps.core_bindingSet id]
    simp [World.registering, bindingSet, Array.getElem_modify, hid]
  · -- The interface merges contexts, so nothing can be registered for it.
    rintro rfl
    have hplain := hadmits.plain
    rw [TypeHint.isSubclassSafe_wrapErr] at hplain
    cases hplain

theorem Registering.dispatch (h : Registering id target b w w') (c : Class) :
    (w'.bindingSet id).registry.dispatch w'.store (.cls c) =
      ((w.bindingSet id).registry.insert target b).dispatch w.store (.cls c) := by
  rw [Registry.dispatch_congr h.classes, (BindingSet.Like.of_core h.core).registry]
  rfl

/-- **A class that is not derived from the target is looked up to the same end as before.** -/
theorem Registering.looksUpLike (h : Registering id target b w w') (hw : w.HasStandard id)
    (hw' : w'.Truthful) (hderives : ¬w.store.Derives c target) : w.LooksUpLike id c w' := by
  have hlike := BindingSet.Like.of_core h.core
  refine Resolution.looksUpLike hw.sound.truthful hw' ⟨h.classes, hlike.rules, hlike.conventions,
    hlike.fallback, ?_, hw.standard.isFixed⟩
  rw [h.dispatch, Registry.dispatch_insert_of_not_derives hw.ordered h.plain hderives]

end

/-- No computation changes what a class is looked up to. -/
theorem looksUpLike_of_keeps (h : w.Keeps w') (hw : w.HasStandard id) (hw' : w'.Truthful)
    (c : Class) : w.LooksUpLike id c w' := by
  have hlike := BindingSet.Like.of_core (h.core_bindingSet id)
  refine Resolution.looksUpLike hw.sound.truthful hw' ⟨h.store.classes, hlike.rules,
    hlike.conventions, hlike.fallback, ?_, hw.standard.isFixed⟩
  rw [Registry.dispatch_congr h.store.classes, hlike.registry]

/-! ## What a registration moves -/

/-- **A registration moves what is found for the classes derived from its target, and nothing
else.**  If it is refused it moves nothing, and no class is looked up to another end than before.

Derived classes that do not merge contexts themselves, and have no binding of their own, find the
first binding along the order of the registry: the new one if that order comes to the target before
any other class with an entry.  Where there is no such order their lookup raises an exception.  The
order of the registry is that of the class if the class is unmixed. -/
theorem registration_frame (h : Arisen id w) (type : Value) (b : Binding) :
    let w' := (Session.register id type b).after w
    match (Session.register id type b w).1 with
    | .error _ => ∀ c, w.LooksUpLike id c w'
    | .ok () => ∀ target, type = .cls target →
      (∀ c, ¬w.store.Derives c target → w.LooksUpLike id c w') ∧
      (b ≠ .unregistered → ∀ c, w.store.isHashableClass c = true →
        w.store.implementsContext c = false → ∀ engine handled,
        let registry := (w.bindingSet id).registry
        let ended := (Resolution.lookup engine id (.cls c)).run handled w'
        (c = target → w'.Finds b ended) ∧
        (c ≠ target → registry.get? c = none →
          match registry.dispatchOrder w.store c with
          | .ok order =>
            (∀ before after, order = before ++ target :: after →
              (∀ d ∈ before, registry.get? d = none) → w'.Finds b ended) ∧
            ∀ found, (registry.insert target b).firstOf order = some found →
              found ≠ .unregistered → w'.Finds found ended
          | .error _ => Raises w' .runtimeError ended) ∧
        (w.store.Unmixed c → registry.dispatchOrder w.store c = .ok (w.store.order c))) := by
  intro w'
  have hw := h.invariant
  have hw' := (Arisen.register type b h).invariant
  rcases hrun : Session.register id type b w with ⟨signal | ⟨⟩, u⟩
  · exact looksUpLike_of_keeps (Session.keeps_register_of_refused (Session.refused_of_error hrun))
      hw hw'.sound.truthful
  rintro target rfl
  obtain rfl : u = w' := (congrArg Prod.snd hrun).symm
  have hregistering := registering_of_register hw.size hrun
  refine ⟨fun c hc => hregistering.looksUpLike hw hw'.sound.truthful hc, ?_⟩
  intro hb c hhashable hplain engine handled registry ended
  have hhashable' : w'.store.isHashableClass c = true := by
    rw [Store.isHashableClass_congr hregistering.classes, hhashable]
  have hplain' : w'.store.implementsContext c = false := by
    rw [Store.implementsContext_congr hregistering.classes, hplain]
  -- What the registry dispatches the class to is what is found.
  have hfinds : ∀ found, (registry.insert target b).dispatch w.store (.cls c) = .ok (some found) →
      found ≠ .unregistered → w'.Finds found ended := by
    intro found hdispatch hfound
    have houtcome := hw'.standard.outcome_of_dispatch hplain' hfound
      ((hregistering.dispatch c).trans hdispatch)
    exact Resolution.run_lookup_of_outcome hw'.sound.truthful hw'.standard.isFixed.isIndependent
      hhashable' houtcome handled
  refine ⟨?_, ?_, ?_⟩
  · rintro rfl
    exact hfinds b (Registry.dispatch_insert_self hhashable) hb
  · intro hself hnone
    cases horder : registry.dispatchOrder w.store c with
    | ok order =>
      have hordered := Registry.dispatch_insert_of_ordered (b := b) hhashable hregistering.plain
        hself hnone horder
      refine ⟨?_, fun found hfirst => hfinds found (hfirst ▸ hordered)⟩
      rintro before after rfl hbefore
      exact hfinds b (Registry.firstOf_insert after hbefore ▸ hordered) hb
    | error heads =>
      have houtcome := hw'.standard.outcome_of_unordered ((hregistering.dispatch c).trans
        (Registry.dispatch_insert_of_unordered hhashable hregistering.plain hself hnone horder))
      exact Resolution.raises_lookup hw'.sound.truthful hw'.standard.isFixed.isIndependent hhashable'
        houtcome handled
  · intro hunmixed
    exact Registry.dispatchOrder_eq_order hw.ordered (Store.has_of_isHashableClass hhashable)
      hplain hunmixed

/-- A class is derived from `A`, from `B`, which is an abstract one, and from `X`, the base of `A`.
In its order `B` stands before `X`, and nothing is registered for the classes before `B`.  The
registry comes to `X` first, so what is registered for `B` is not found where something has been
registered for `X`.  For `A`, which is not derived from `B`, nothing changes. -/
theorem registered_base_passed_over :
    ∃ w : World, Arisen 0 w ∧ w.store.isHashableClass (.declared 3) = true ∧
      w.store.implementsContext (.declared 3) = false ∧
      (w.store.order (.declared 3)).take 3 = [.declared 3, .declared 2, .declared 1] ∧
      (w.bindingSet 0).registry.get? (.declared 3) = none ∧
      (w.bindingSet 0).registry.get? (.declared 2) = none ∧
      ¬w.store.Derives (.declared 2) (.declared 1) ∧
      (Session.register 0 (.cls (.declared 1)) .note w).1 = .ok () ∧
      let w' := (Session.register 0 (.cls (.declared 1)) .note).after w
      w'.Finds .chain ((Resolution.lookup (Engine.within 0) 0 (.cls (.declared 3))).run none w') ∧
      w.LooksUpLike 0 (.declared 2) w' := by
  obtain ⟨w₁, w₂, w₃, w₄, w, along, hw₁, hw₂, hw₃, hw₄, hw, hsize₂, hsize₃, hhashable,
    hplain, horder, hself, hbase, hbelow, hmerges, hregister, halong, hfirst⟩ :
      ∃ (w₁ w₂ w₃ w₄ w : World) (along : List Class),
      w₁ = (addClass "X" [Standard.exception] [] false).after noting ∧
      w₂ = (addClass "B" [Standard.exception, Standard.wrapErr] [("wrap_err", .none)] false).after
        w₁ ∧
      w₃ = (addClass "A" [.declared 0] [] false).after w₂ ∧
      w₄ = (addClass "U" [.declared 2, .declared 1, .declared 0] [] false).after w₃ ∧
      w = (Session.register 0 (.cls (.declared 0)) .chain).after w₄ ∧
      w₂.store.declarations.size = 2 ∧ w₃.store.declarations.size = 3 ∧
      w.store.isHashableClass (.declared 3) = true ∧
      w.store.implementsContext (.declared 3) = false ∧
      (w.store.order (.declared 3)).take 3 = [.declared 3, .declared 2, .declared 1] ∧
      (w.bindingSet 0).registry.get? (.declared 3) = none ∧
      (w.bindingSet 0).registry.get? (.declared 2) = none ∧
      w.store.isSubclass (.declared 2) (.declared 1) = false ∧
      w.store.implementsContext (.declared 2) = false ∧
      (Session.register 0 (.cls (.declared 1)) .note w).1 = .ok () ∧
      (w.bindingSet 0).registry.dispatchOrder w.store (.declared 3) = .ok along ∧
      ((w.bindingSet 0).registry.insert (.declared 1) .note).firstOf along = some .chain :=
    ⟨_, _, _, _, _, _, rfl, rfl, rfl, rfl, rfl, rfl, rfl, rfl, rfl, rfl, rfl, rfl, rfl, rfl, rfl,
      rfl, rfl⟩
  -- The set is made first, and then the classes are declared.
  have hstandard : noting.HasStandard 0 := by
    constructor
    · refine ⟨truthful_of_entries fun id => ?_, fun k hk => absurd hk (Nat.not_lt_zero k)⟩
      cases id <;> rfl
    · refine ⟨fun k hk => absurd hk (Nat.not_lt_zero k), fun k d hk => ?_⟩
      cases hk
    · decide
    · exact ⟨rfl, by simp [noting, bindingSet, BindingSet.standardWith, Convention.rules,
        Rule.IsFixed], trivial⟩
  have hlater : noting.Later 0 w₄ := by
    have hX : noting.Later 0 w₁ :=
      hw₁ ▸ .addClass "X" [] false .refl (by simp [Store.Has, Class.Below])
    have hB : noting.Later 0 w₂ :=
      hw₂ ▸ .addClass "B" _ false hX (by simp [Store.Has, Class.Below])
    have hA : noting.Later 0 w₃ :=
      hw₃ ▸ .addClass "A" [] false hB (by simp [Store.Has, Class.Below, hsize₂])
    exact hw₄ ▸ .addClass "U" [] false hA (by simp [Store.Has, Class.Below, hsize₃])
  have harisen : Arisen 0 w := hw ▸ .register _ .chain (.later (.start hstandard rfl) hlater)
  have hderives : ¬w.store.Derives (.declared 2) (.declared 1) := by
    simp [Store.Derives, hbelow, hmerges]
  have hframe := registration_frame harisen (.cls (.declared 1)) .note
  dsimp only at hframe
  rw [hregister] at hframe
  obtain ⟨hothers, hderived⟩ := hframe (.declared 1) rfl
  obtain ⟨-, halongside, -⟩ := hderived (by simp) (.declared 3) hhashable hplain (Engine.within 0) none
  have hmoved := halongside (by decide) hself
  rw [halong] at hmoved
  refine ⟨w, harisen, hhashable, hplain, horder, hself, hbase, hderives, hregister, ?_, ?_⟩
  · exact hmoved.2 .chain hfirst (by simp)
  · exact hothers (.declared 2) hderives

end World
end FaultContext
