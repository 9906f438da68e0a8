/-
# FaultContext.Proofs.Descent -- hierarchies of declared classes.

Classes are declared one after the other, and each gets an order that is merged from those of its
bases.  Along every such order the most general class stands at the end and nowhere else.  Whether a
class merges contexts is found out once, when it is declared; it can be read off the order at any
later time: the first class that has a member of that name decides
(`Store.Lineal.hasContextMethod`).

This takes that nobody gives a class other members later on, and that the members that are declared
are there.
-/
import FaultContext.Proofs.Reach
import FaultContext.Proofs.Reachable

namespace FaultContext

/-! ## What stands last -/

namespace Linearization

variable {α : Type}

/-- Something stands at the end of a list and nowhere else. -/
def Ends (top : α) (l : List α) : Prop := ∃ before, l = before ++ [top] ∧ top ∉ before

theorem Ends.cons {top a : α} {l : List α} (h : Ends top l) (ha : a ≠ top) : Ends top (a :: l) := by
  obtain ⟨before, rfl, hbefore⟩ := h
  refine ⟨a :: before, rfl, ?_⟩
  simp only [List.mem_cons, not_or]
  exact ⟨ha.symm, hbefore⟩

theorem Ends.mem {top : α} {l : List α} (h : Ends top l) : top ∈ l := by
  obtain ⟨before, rfl, -⟩ := h
  simp

/-- Whatever stands before the end has the end in the tail. -/
theorem Ends.mem_tail {top a : α} {l : List α} (h : Ends top l) (ha : a ∈ l) (hne : a ≠ top) :
    top ∈ l.tail := by
  obtain ⟨before, rfl, -⟩ := h
  cases before with
  | nil =>
    rw [List.nil_append, List.mem_singleton] at ha
    exact absurd ha hne
  | cons b before => simp

/-- Taking something else off a list leaves its end. -/
theorem Ends.tail {top a : α} {l : List α} (h : Ends top (a :: l)) (ha : a ≠ top) : Ends top l := by
  obtain ⟨before, hl, hbefore⟩ := h
  cases before with
  | nil =>
    cases hl
    exact absurd rfl ha
  | cons b before =>
    cases hl
    exact ⟨before, rfl, fun hmem => hbefore (List.mem_cons_of_mem _ hmem)⟩

theorem Ends.map {β : Type} {top : α} {l : List α} (h : Ends top l) {f : α → β}
    (hf : ∀ a b, f a = f b → a = b) : Ends (f top) (l.map f) := by
  obtain ⟨before, rfl, hbefore⟩ := h
  refine ⟨before.map f, List.map_append, fun hmem => ?_⟩
  obtain ⟨a, ha, heq⟩ := List.mem_map.mp hmem
  exact hbefore (hf a top heq ▸ ha)

variable [DecidableEq α]

/-- Whatever stands in one of the lists stands in one with the given end. -/
def Topped (top : α) (lists : List (List α)) : Prop :=
  ∀ l ∈ lists, ∀ a ∈ l, ∃ l' ∈ lists, a ∈ l' ∧ Ends top l'

/-- What stands in no tail is gone once it has been taken off. -/
theorem ne_of_mem_advance {a b : α} {lists : List (List α)} (ha : inTail lists a = false)
    {l : List α} (hl : l ∈ advance a lists) (hb : b ∈ l) : b ≠ a ∧ ∃ l' ∈ lists, b ∈ l' := by
  obtain ⟨l', hl', rfl⟩ := List.mem_map.mp hl
  have htail : a ∉ l'.tail := by
    intro hmem
    have hin : inTail lists a = true :=
      List.any_eq_true.mpr ⟨l', hl', List.contains_iff_mem.mpr hmem⟩
    rw [ha] at hin
    cases hin
  cases l' with
  | nil => cases hb
  | cons d rest =>
    dsimp only at hb
    split at hb
    next hd =>
      refine ⟨?_, _, hl', List.mem_cons_of_mem _ hb⟩
      rintro rfl
      exact htail hb
    next hd =>
      refine ⟨?_, _, hl', hb⟩
      rintro rfl
      rcases List.mem_cons.mp hb with rfl | hrest
      · exact hd rfl
      · exact htail hrest

theorem inTail_of_nextHead {lists : List (List α)} {a : α} (h : nextHead lists = some a) :
    inTail lists a = false := by
  obtain ⟨l, -, hhead⟩ := List.exists_of_findSome?_eq_some h
  cases l with
  | nil => cases hhead
  | cons b rest =>
    dsimp only at hhead
    split at hhead
    · cases hhead
    next hb =>
      cases hhead
      simpa using hb

/-- What is left after one step still stands under the end. -/
theorem Topped.advance {top a : α} {lists : List (List α)} (h : Topped top lists)
    (ha : nextHead lists = some a) : Topped top (advance a lists) := by
  intro l hl b hb
  obtain ⟨hne, l₁, hl₁, hb₁⟩ := ne_of_mem_advance (inTail_of_nextHead ha) hl hb
  obtain ⟨l', hl', hb', hends⟩ := h l₁ hl₁ b hb₁
  refine ⟨_, List.mem_map_of_mem hl', ?_⟩
  cases l' with
  | nil => cases hb'
  | cons d rest =>
    dsimp only
    split
    next hd =>
      subst hd
      have hrest := (List.mem_cons.mp hb').resolve_left hne
      refine ⟨hrest, hends.tail ?_⟩
      -- The end cannot be taken off while something else is left before it.
      rintro rfl
      have htail := hends.mem_tail hb' hne
      have hin : inTail lists d = true :=
        List.any_eq_true.mpr ⟨_, hl', List.contains_iff_mem.mpr htail⟩
      rw [inTail_of_nextHead ha] at hin
      cases hin
    next => exact ⟨hb', hends⟩

/-- Once the end is taken off, nothing is left. -/
theorem Topped.eq_nil {top : α} {lists : List (List α)} (h : Topped top lists)
    (htop : nextHead lists = some top) : ∀ l ∈ Linearization.advance top lists, l = [] := by
  intro l hl
  refine List.eq_nil_iff_forall_not_mem.mpr fun b hb => ?_
  obtain ⟨hne, l₁, hl₁, hb₁⟩ := ne_of_mem_advance (inTail_of_nextHead htop) hl hb
  obtain ⟨l', hl', hb', hends⟩ := h l₁ hl₁ b hb₁
  have hin : inTail lists top = true :=
    List.any_eq_true.mpr ⟨l', hl', List.contains_iff_mem.mpr (hends.mem_tail hb' hne)⟩
  rw [inTail_of_nextHead htop] at hin
  cases hin

theorem nextHead_of_nil {lists : List (List α)} (h : ∀ l ∈ lists, l = []) :
    nextHead lists = none := by
  refine List.findSome?_eq_none_iff.mpr fun l hl => ?_
  rw [h l hl]

/-- **Lists that are merged under an end give a list with that end.** -/
theorem Topped.mergeWithin {top : α} {lists : List (List α)} (h : Topped top lists) {steps : Nat}
    {merged : List α} (hmerged : mergeWithin lists steps = .ok merged)
    (hsteps : lists.flatten.length < steps) {l : List α} {a : α} (hl : l ∈ lists) (ha : a ∈ l) :
    Ends top merged := by
  induction steps generalizing lists merged l a with
  | zero => cases hsteps
  | succ steps ih =>
    unfold Linearization.mergeWithin at hmerged
    split at hmerged
    next b hb =>
      cases hrest : Linearization.mergeWithin (Linearization.advance b lists) steps with
      | error heads => rw [hrest] at hmerged; cases hmerged
      | ok others =>
        rw [hrest] at hmerged
        cases hmerged
        obtain ⟨rest, hhead⟩ := mem_of_nextHead hb
        by_cases htop : b = top
        · -- The end is the last that is taken.
          subst htop
          have hempty := h.eq_nil hb
          have hnone := nextHead_of_nil hempty
          have hall : (Linearization.advance b lists).all List.isEmpty = true :=
            List.all_eq_true.mpr fun l hl => List.isEmpty_iff.mpr (hempty l hl)
          have hothers : others = [] := by
            cases steps with
            | zero => cases hrest; rfl
            | succ steps =>
              rw [Linearization.mergeWithin, hnone, hall] at hrest
              cases hrest
              rfl
          rw [hothers]
          exact ⟨[], rfl, List.not_mem_nil⟩
        · obtain ⟨l', hl', hb', hends⟩ := h _ hhead b List.mem_cons_self
          obtain ⟨l'', hl'', htop'⟩ := mem_advance hl' hends.mem (Ne.symm htop)
          have hshorter := length_advance_lt hhead
          exact (ih (h.advance hb) hrest (by omega) hl'' htop').cons htop
    next hnone =>
      split at hmerged
      next hall =>
        have := List.isEmpty_iff.mp (List.all_eq_true.mp hall l hl)
        subst this
        cases ha
      next => cases hmerged

/-- A class that is derived from classes under an end is under it itself. -/
theorem Ends.ofBases {top self : α} {orders : List (List α)} {bases order : List α}
    (h : ofBases self orders bases = .ok order) (hself : self ≠ top) (hsome : orders ≠ [])
    (horders : ∀ l ∈ orders, Ends top l) (hbases : ∀ b ∈ bases, ∃ l ∈ orders, b ∈ l) :
    Ends top order := by
  obtain ⟨merged, hmerge, rfl⟩ := eq_cons_of_ofBases h
  have htopped : Topped top (orders ++ [bases]) := by
    intro l hl a ha
    rcases List.mem_append.mp hl with hl | hl
    · exact ⟨l, List.mem_append_left _ hl, ha, horders l hl⟩
    · obtain rfl := List.mem_singleton.mp hl
      obtain ⟨l', hl', ha'⟩ := hbases a ha
      exact ⟨l', List.mem_append_left _ hl', ha', horders l' hl'⟩
  obtain ⟨l, hl⟩ := List.exists_mem_of_ne_nil orders hsome
  exact (htopped.mergeWithin hmerge (Nat.lt_succ_self _) (List.mem_append_left _ hl)
    (horders l hl).mem).cons hself

end Linearization

/-- The order of a class that is there from the start ends with the most general class. -/
theorem Standard.ends_order (c : Standard) : Linearization.Ends .object c.order := by
  refine ⟨c.order.dropLast, ?_, ?_⟩
  · cases c <;> rfl
  · cases c <;> decide

/-! ## Declaring classes -/

namespace Store

/-- The classes have been declared one after the other, each after its bases and with a method that
is there if it has one.  Whatever happens in between, nobody gives a class other members. -/
inductive Declared : Store → Prop
  | start {s : Store} : s.declarations = #[] → s.members = #[] → Declared s
  | keeps {s s' : Store} : Declared s → s.Keeps s' → s'.members = s.members → Declared s'
  | newClass {s s' : Store} {name : String} {bases : List Class} {members : Named}
    {unhashable : Bool} {c : Class} : Declared s → (∀ b ∈ bases, s.Has b) →
    (∀ v, members.get? contextMethodName = some v → s.Exists v) →
    s.newClass name bases members unhashable = .ok (c, s') → Declared s'

/-- Every class is declared after its bases and has the order that is merged from theirs. -/
structure Ordered (s : Store) : Prop where
  founded : s.Founded
  merged : ∀ (k : Nat) d, s.declarations[k]? = some d →
    Linearization.ofBases (.declared k) (d.bases.map s.order) d.bases = .ok d.order

namespace Ordered

variable {s : Store} (hs : s.Ordered)
include hs

/-- Every declared class has its bases before it, so what holds of a class if it holds of its bases
holds of all classes. -/
theorem induction {motive : Class → Prop} (standard : ∀ c, motive (.standard c))
    (declared : ∀ (k : Nat) d, s.declarations[k]? = some d → (∀ b ∈ d.bases, b.Below k) →
      (∀ b ∈ d.bases, motive b) → motive (.declared k)) {c : Class} (hc : s.Has c) : motive c := by
  cases c with
  | standard c => exact standard c
  | declared k =>
    have hk : k < s.declarations.size := hc
    induction k using Nat.strongRecOn with
    | ind k ih =>
      have hbelow := hs.founded k hk
      refine declared k _ (Array.getElem?_eq_getElem hk) hbelow fun b hb => ?_
      cases b with
      | standard b => exact standard b
      | declared j =>
        have hj : j < k := hbelow _ hb
        exact ih j hj (Nat.lt_trans hj hk) (Nat.lt_trans hj hk)

/-- The order of a class goes through classes that were declared no later. -/
theorem below_of_mem_order {n : Nat} {c d : Class} (hc : s.Has c) (hn : c.Below n)
    (hd : d ∈ s.order c) : d.Below n := by
  refine hs.induction (motive := fun c => ∀ n, c.Below n → ∀ d ∈ s.order c, d.Below n)
    (fun c n _ d hd => ?_) (fun k declared hk hbelow ih n hn d hd => ?_)
    hc n hn d hd
  · obtain ⟨a, -, rfl⟩ := List.mem_map.mp hd
    trivial
  · rw [order, hk] at hd
    rcases Linearization.mem_of_mem_ofBases (hs.merged k _ hk) hd with rfl | ⟨l, hl, hdl⟩ | hbase
    · exact hn
    · obtain ⟨b, hb, rfl⟩ := List.mem_map.mp hl
      exact ih b hb n ((hbelow b hb).mono (Nat.le_of_lt hn)) d hdl
    · exact (hbelow d hbase).mono (Nat.le_of_lt hn)

theorem has_of_mem_order {c d : Class} (hc : s.Has c) (hd : d ∈ s.order c) : s.Has d :=
  hs.below_of_mem_order hc hc hd

/-- The order of a class begins with the class. -/
theorem order_eq_cons {c : Class} (hc : s.Has c) : ∃ rest, s.order c = c :: rest := by
  cases c with
  | standard c => exact ⟨_, rfl⟩
  | declared k =>
    have hk := Array.getElem?_eq_getElem hc
    obtain ⟨rest, -, hrest⟩ := Linearization.eq_cons_of_ofBases (hs.merged k _ hk)
    exact ⟨rest, by rw [order, hk]; exact hrest⟩

theorem has_of_mem_bases {k : Nat} {d : Declaration} (hk : s.declarations[k]? = some d) {b : Class}
    (hb : b ∈ d.bases) : s.Has b := by
  obtain ⟨hlt, rfl⟩ := Array.getElem?_eq_some_iff.mp hk
  exact (hs.founded k hlt b hb).mono (Nat.le_of_lt hlt)

/-- Whatever stands in the order of a base stands in the order of the class. -/
theorem mem_order_of_mem_order {k : Nat} {declared : Declaration}
    (hk : s.declarations[k]? = some declared) {b : Class} (hb : b ∈ declared.bases) {d : Class}
    (hd : d ∈ s.order b) : d ∈ s.order (.declared k) := by
  rw [order, hk]
  exact Linearization.mem_ofBases (hs.merged k declared hk) (List.mem_map_of_mem hb) hd

theorem mem_order_of_mem_bases {k : Nat} {declared : Declaration}
    (hk : s.declarations[k]? = some declared) {b : Class} (hb : b ∈ declared.bases) :
    b ∈ s.order (.declared k) := by
  obtain ⟨rest, hrest⟩ := hs.order_eq_cons (hs.has_of_mem_bases hk hb)
  exact hs.mem_order_of_mem_order hk hb (hrest ▸ List.mem_cons_self)

/-- What becomes of the members of a class and of the objects does not matter. -/
theorem of_classes {s' : Store} (hclasses : s'.declarations = s.declarations) : s'.Ordered where
  founded := by
    rw [Founded, hclasses]
    exact hs.founded
  merged k d hk := by
    rw [hclasses] at hk
    rw [order_congr hclasses]
    exact hs.merged k d hk

/-- One more class has a place behind the others. -/
theorem declare {d : Declaration} (hbases : ∀ b ∈ d.bases, s.Has b) (hmerged : Linearization.ofBases
      (.declared s.declarations.size) (d.bases.map s.order) d.bases = .ok d.order)
    (members : Named) : (s.declare d members).2.Ordered where
  founded := hs.founded.declare hbases members
  merged k d' hk := by
    have horder : ∀ b, s.Has b → (s.declare d members).2.order b = s.order b := fun b hb =>
      hb.order (s.extends_declare d members)
    rw [Store.declare, Array.getElem?_push] at hk
    split at hk
    next heq =>
      cases hk
      rw [heq, List.map_congr_left fun b hb => horder b (hbases b hb)]
      exact hmerged
    next =>
      rw [List.map_congr_left fun b hb => horder b (hs.has_of_mem_bases hk hb)]
      exact hs.merged k d' hk

end Ordered

/-- Every declaration still goes with the other classes. -/
structure Lineal (s : Store) : Prop where
  founded : s.Founded
  size : s.members.size = s.declarations.size
  written : ∀ (k : Nat) v, s.ownMember? (.declared k) contextMethodName = some v → s.Exists v
  fits : ∀ (k : Nat) d members, s.declarations[k]? = some d → s.members[k]? = some members →
    d.Fits s k members

namespace Lineal

variable {s s' : Store} (hs : s.Lineal)
include hs

theorem exists_fits {k : Nat} {d : Declaration} (hk : s.declarations[k]? = some d) :
    ∃ members, s.members[k]? = some members ∧ d.Fits s k members := by
  obtain ⟨hlt, -⟩ := Array.getElem?_eq_some_iff.mp hk
  have hmembers := Array.getElem?_eq_getElem (hs.size ▸ hlt)
  exact ⟨_, hmembers, hs.fits k d _ hk hmembers⟩

theorem ordered : s.Ordered where
  founded := hs.founded
  merged k d hk := by
    obtain ⟨members, -, hfits⟩ := hs.exists_fits hk
    exact hfits.order

/-- What holds of a class if it holds of its bases holds of all classes. -/
theorem induction {motive : Class → Prop} (standard : ∀ c, motive (.standard c))
    (declared : ∀ (k : Nat) d members, s.declarations[k]? = some d →
      s.members[k]? = some members → d.Fits s k members → (∀ b ∈ d.bases, b.Below k) →
      (∀ b ∈ d.bases, motive b) → motive (.declared k)) {c : Class} (hc : s.Has c) : motive c := by
  refine hs.ordered.induction standard (fun k d hk hbelow ih => ?_) hc
  obtain ⟨members, hmembers, hfits⟩ := hs.exists_fits hk
  exact declared k d members hk hmembers hfits hbelow ih

/-- The order of a class ends with the most general class, which stands nowhere else in it. -/
theorem ends {c : Class} (hc : s.Has c) :
    Linearization.Ends (.standard .object) (s.order c) := by
  refine hs.induction (motive := fun c => Linearization.Ends (.standard .object) (s.order c))
    (fun c => ?_) (fun k d members hk _ hfits _ ih => ?_) hc
  · exact c.ends_order.map fun _ _ h => Class.standard.inj h
  · rw [order, hk]
    have hself : Class.declared k ≠ .standard .object := by simp
    refine .ofBases hfits.order hself (fun hnone => hfits.based (List.map_eq_nil_iff.mp hnone))
      (fun l hl => ?_) fun b hb => ?_
    · obtain ⟨b, hb, rfl⟩ := List.mem_map.mp hl
      exact ih b hb
    · obtain ⟨rest, hrest⟩ := hs.ordered.order_eq_cons (hs.ordered.has_of_mem_bases hk hb)
      exact ⟨s.order b, List.mem_map_of_mem hb, hrest ▸ List.mem_cons_self⟩

end Lineal

/-! ## Members that merge contexts -/

/-- What can be called stays so. -/
theorem Persists.isCallable {s s' : Store} (h : s.Persists s') {v : Value} (hv : s.Exists v) :
    s'.isCallable v = s.isCallable v := by
  cases v with
  | object r =>
    obtain ⟨o, ho⟩ := Option.isSome_iff_exists.mp (hv r rfl)
    obtain ⟨o', ho', hcore⟩ := Option.map_eq_some_iff.mp (h r o.core (by rw [ho]; rfl))
    have hbody : o'.body.core = o.body.core := congrArg Prod.snd hcore
    simp only [Store.isCallable, ho, ho']
    cases hold : o.body <;> cases hnew : o'.body <;> rw [hold, hnew] at hbody <;>
      first | rfl | cases hbody
  | _ => rfl

theorem ownMember?_standard (s s' : Store) (c : Standard) (name : String) :
    s'.ownMember? (.standard c) name = s.ownMember? (.standard c) name := by
  cases c <;> rfl

/-- Two of the classes that are there from the start have the method themselves. -/
theorem ownMember?_contextMethodName (s : Store) (c : Standard) :
    s.ownMember? (.standard c) contextMethodName =
      if c = .errorWithContext then some (.native .contextMethod)
      else if c = .wrapErr then some (.native .abstractMethod)
      else none := by
  cases c <;> rfl

/-- The members that classes have from the start are no objects. -/
theorem exists_ownMember_standard {s : Store} {c : Standard} {name : String} {v : Value}
    (h : s.ownMember? (.standard c) name = some v) : s.Exists v := by
  rintro r rfl
  unfold ownMember? at h
  split at h
  · split at h
    · cases h
    · split at h <;> cases h
  · split at h <;> cases h
  · split at h <;> cases h
  · rename_i heq
    cases heq

theorem offersContextMethod_eq (s : Store) (members : Named) (ancestors : List Class) :
    s.offersContextMethod members ancestors =
      ((members.get? contextMethodName).or
        (ancestors.findSome? fun c => s.ownMember? c contextMethodName)).any s.isCallable := by
  dsimp only [offersContextMethod]
  cases (members.get? contextMethodName).or
    (ancestors.findSome? fun c => s.ownMember? c contextMethodName) <;> rfl

end Store

theorem findSome?_congr_of_mem {α β : Type} {f g : α → Option β} {l : List α}
    (h : ∀ a ∈ l, f a = g a) : l.findSome? f = l.findSome? g := by
  induction l with
  | nil => rfl
  | cons a rest ih =>
    obtain ⟨ha, hrest⟩ := List.forall_mem_cons.mp h
    rw [List.findSome?_cons, List.findSome?_cons, ha, ih hrest]

/-- A declaration goes with other classes as well if they are the same as far as it looks at them.
-/
theorem Declaration.Fits.congr {s s' : Store} {d : Declaration} {k : Nat} {members : Named}
    (h : d.Fits s k members) (horder : ∀ b ∈ d.bases, s'.order b = s.order b)
    (hmember : ∀ c ∈ d.order.drop 1, s'.ownMember? c Store.contextMethodName =
      s.ownMember? c Store.contextMethodName)
    (hobjects : s.Persists s')
    (hown : ∀ v, members.get? Store.contextMethodName = some v → s.Exists v)
    (hinherited : ∀ c v, s.ownMember? c Store.contextMethodName = some v → s.Exists v) :
    d.Fits s' k members where
  based := h.based
  order := by
    rw [List.map_congr_left horder]
    exact h.order
  merges := by
    rw [h.merges, Store.offersContextMethod_eq, Store.offersContextMethod_eq,
      findSome?_congr_of_mem hmember]
    cases hfound : (members.get? Store.contextMethodName).or
        ((d.order.drop 1).findSome? fun c => s.ownMember? c Store.contextMethodName) with
    | none => rfl
    | some v =>
      -- What has been found is there, so it can be called later on if it could before.
      have hv : s.Exists v := by
        rcases Option.or_eq_some_iff.mp hfound with hv | ⟨-, hv⟩
        · exact hown v hv
        · obtain ⟨c, -, hv⟩ := List.exists_of_findSome?_eq_some hv
          exact hinherited c v hv
      exact (hobjects.isCallable hv).symm

namespace Store

namespace Lineal

variable {s s' : Store}

theorem exists_ownMember (hs : s.Lineal) (c : Class) (v : Value)
    (h : s.ownMember? c contextMethodName = some v) : s.Exists v := by
  cases c with
  | standard c => exact exists_ownMember_standard h
  | declared k => exact hs.written k v h

/-- Whatever happens to the objects, the declarations still go with one another. -/
theorem keeps (hs : s.Lineal) (h : s.Keeps s') (hmembers : s'.members = s.members) :
    s'.Lineal where
  founded := by
    rw [Founded, h.classes]
    exact hs.founded
  size := by rw [hmembers, h.classes, hs.size]
  written k v hv := by
    rw [ownMember?, hmembers] at hv
    exact h.objects.exists (hs.written k v hv)
  fits k d members hk hmembers' := by
    rw [h.classes] at hk
    rw [hmembers] at hmembers'
    refine (hs.fits k d members hk hmembers').congr (fun b _ => congrFun (order_congr h.classes) b)
      (fun c _ => ?_) h.objects (fun v hv => hs.written k v ?_) hs.exists_ownMember
    · cases c with
      | standard c => exact s.ownMember?_standard s' c _
      | declared j => rw [ownMember?, ownMember?, hmembers]
    · rw [ownMember?, hmembers', Option.bind_some, hv]

/-- One more class goes with the others if it fits to them. -/
theorem declare (hs : s.Lineal) {d : Declaration} {members : Named}
    (hfits : d.Fits s s.declarations.size members) (hbases : ∀ b ∈ d.bases, s.Has b)
    (hwritten : ∀ v, members.get? contextMethodName = some v → s.Exists v) :
    (s.declare d members).2.Lineal := by
  have hextends := s.extends_declare d members
  have hobjects : s.Persists (s.declare d members).2 := fun _ _ h => h
  have hold : ∀ c, s.Has c → ∀ name,
      (s.declare d members).2.ownMember? c name = s.ownMember? c name := by
    intro c hc name
    cases c with
    | standard c => exact s.ownMember?_standard _ c name
    | declared k =>
      have hk : k < s.members.size := hs.size ▸ hc
      simp only [ownMember?, Store.declare, Array.getElem?_push_lt hk,
        Array.getElem?_eq_getElem hk]
  have hclasses : ∀ (k : Nat) d', (s.declare d members).2.declarations[k]? = some d' →
      s.declarations[k]? = some d' ∨ k = s.declarations.size ∧ d' = d := by
    intro k d' hk
    rw [Store.declare, Array.getElem?_push] at hk
    split at hk
    next heq =>
      cases hk
      exact .inr ⟨heq, rfl⟩
    next => exact .inl hk
  have hmembers : ∀ (k : Nat) named, (s.declare d members).2.members[k]? = some named →
      k ≠ s.declarations.size ∧ s.members[k]? = some named ∨
        k = s.declarations.size ∧ named = members := by
    intro k named hk
    rw [Store.declare, Array.getElem?_push, hs.size] at hk
    split at hk
    next heq =>
      cases hk
      exact .inr ⟨heq, rfl⟩
    next hne => exact .inl ⟨hne, hk⟩
  refine ⟨hs.founded.declare hbases members, ?_, fun k v hv => ?_,
    fun k d' members' hk hmembers' => ?_⟩
  · simp only [Store.declare, Array.size_push, hs.size]
  · obtain ⟨named, hnamed, hvalue⟩ := Option.bind_eq_some_iff.mp hv
    rcases hmembers k named hnamed with ⟨-, hold⟩ | ⟨-, rfl⟩
    · exact hs.written k v (by rw [ownMember?, hold, Option.bind_some, hvalue])
    · exact hwritten v hvalue
  · rcases hmembers k members' hmembers' with ⟨hne, hnamed⟩ | ⟨rfl, rfl⟩
    · -- An older class is declared as it was, and it looks at older ones only.
      have hk := (hclasses k d' hk).resolve_right fun hnew => hne hnew.1
      have hhas : s.Has (.declared k) := (Array.getElem?_eq_some_iff.mp hk).1
      refine (hs.fits k d' members' hk hnamed).congr
        (fun b hb => (hs.ordered.has_of_mem_bases hk hb).order hextends)
        (fun c hc => hold c (hs.ordered.has_of_mem_order hhas ?_) _) hobjects
        (fun v hv => hs.written k v ?_) hs.exists_ownMember
      · rw [order, hk]
        exact List.mem_of_mem_drop hc
      · rw [ownMember?, hnamed, Option.bind_some, hv]
    · -- The new class looks at older ones, apart from itself.
      have hd := (hclasses _ d' hk).resolve_left fun hold => by
        have hlt := (Array.getElem?_eq_some_iff.mp hold).1
        exact absurd hlt (Nat.lt_irrefl _)
      obtain rfl := hd.2
      obtain ⟨merged, hmerge, horder⟩ := Linearization.eq_cons_of_ofBases hfits.order
      refine hfits.congr (fun b hb => (hbases b hb).order hextends) (fun c hc => ?_) hobjects
        hwritten hs.exists_ownMember
      rw [horder] at hc
      obtain ⟨l, hl, hcl⟩ := Linearization.mem_of_mem_mergeWithin hmerge hc
      refine hold c ?_ _
      rcases List.mem_append.mp hl with hl | hl
      · obtain ⟨b, hb, rfl⟩ := List.mem_map.mp hl
        exact hs.ordered.has_of_mem_order (hbases b hb) hcl
      · exact hbases c (List.mem_singleton.mp hl ▸ hcl)

/-- **Whether a class merges contexts can be read off its order**: the first class with a member of
that name decides, and the member has to be callable. -/
theorem hasContextMethod (hs : s.Lineal) {c : Class} (hc : s.Has c) :
    s.hasContextMethod c = (s.member? c contextMethodName).any s.isCallable := by
  refine hs.induction
    (motive := fun c => s.hasContextMethod c = (s.member? c contextMethodName).any s.isCallable)
    (fun c => ?_) (fun k d members hk hmembers hfits _ _ => ?_) hc
  · have hown := funext s.ownMember?_contextMethodName
    rw [member?, order, List.findSome?_map]
    simp only [Function.comp_def, hown]
    cases c <;> rfl
  · obtain ⟨merged, -, horder⟩ := Linearization.eq_cons_of_ofBases hfits.order
    rw [Store.hasContextMethod, member?, order, hk, Option.map_some, Option.getD_some,
      Option.map_some, Option.getD_some, hfits.merges, offersContextMethod_eq, horder,
      List.drop_one, List.tail_cons, List.findSome?_cons, ownMember?, hmembers, Option.bind_some]
    cases members.get? contextMethodName <;> rfl

end Lineal

/-- The classes of a hierarchy go with one another. -/
theorem Declared.lineal {s : Store} (h : s.Declared) : s.Lineal := by
  induction h with
  | start hdeclarations hmembers =>
    refine ⟨fun k hk => ?_, by rw [hdeclarations, hmembers]; rfl, fun k v hv => ?_,
      fun k d members hk => ?_⟩
    · simp [hdeclarations] at hk
    · simp [ownMember?, hmembers] at hv
    · simp [hdeclarations] at hk
  | keeps _ hkeeps hmembers ih => exact ih.keeps hkeeps hmembers
  | newClass _ hbases hwritten hnew ih =>
    obtain ⟨d, hd, hfits, rfl⟩ := eq_of_newClass hnew
    refine ih.declare hfits (fun b hb => ?_) hwritten
    rcases hd with hd | hd <;> rw [hd] at hb
    · exact hbases b hb
    · obtain rfl := List.mem_singleton.mp hb
      trivial

end Store
end FaultContext
