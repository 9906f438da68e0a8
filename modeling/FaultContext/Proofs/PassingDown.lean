/-
# FaultContext.Proofs.PassingDown -- what layers pass on under a name.

Under a name a function receives what its parameter of that name holds, or, if it has none, the
argument that is given by that name (`Signature.received?`).  A layer may pass this on under the same
name: with all the named arguments of the call, with those that it has collected, by that name alone,
or at the place where its target has a parameter of that name.

If every layer does so, the function at the bottom receives what the outermost layer has received
(`Store.PassesDown.received?_of_handsDown`), through any mixture of layers.

Not here: arguments at places behind a collection that is spread out, whose number is not known from
the layer.
-/
import FaultContext.Proofs.Layers

namespace FaultContext

open Eval

/-! ## What is received under a name -/

namespace Signature

/-- What is received under a name: what the parameter of that name holds, or, if there is none, the
argument that is given by that name. -/
def received? (s : Signature) (args : List Value) (named : Named) (name : String) : Option Value :=
  match s.find? (·.name = name) with
  | some p => s.value? args named p
  | none => named.get? name

/-- What is given by a name is received under it. -/
def TakesByName (s : Signature) (name : String) : Prop := s.takes name ∨ name ∉ s.names

variable {s : Signature} {args : List Value} {named own : Named} {name : String}

theorem received?_of_mem (hs : s.names.Nodup) {p : Param} (hp : p ∈ s) :
    s.received? args named p.name = s.value? args named p := by
  have hfound : s.find? (·.name = p.name) = some p := by
    obtain ⟨q, hq⟩ := Option.isSome_iff_exists.mp
      (List.find?_isSome.mpr ⟨p, hp, decide_eq_true rfl⟩ : (s.find? (·.name = p.name)).isSome)
    have hname : q.name = p.name := by simpa using List.find?_some hq
    rw [hq, List.inj_on_of_nodup_map hs (List.mem_of_find?_eq_some hq) hp hname]
  rw [received?, hfound]

theorem received?_of_notMem (h : name ∉ s.names) :
    s.received? args named name = named.get? name := by
  have hnone : s.find? (·.name = name) = none := by
    rw [List.find?_eq_none]
    exact fun p hp hname => h (List.mem_map.mpr ⟨p, hp, of_decide_eq_true hname⟩)
  rw [received?, hnone]

/-- A parameter holds what is received under its name. -/
theorem get?_of_enter (hs : s.names.Nodup) (hnamed : (named.map Prod.fst).Nodup)
    (hown : s.enter args named = .ok own) (hname : name ∈ s.names) :
    own.get? name = s.received? args named name := by
  obtain ⟨-, rfl⟩ := (enter_eq_ok_iff hs hnamed).mp hown
  obtain ⟨p, hp, rfl⟩ := List.mem_map.mp hname
  rw [received?_of_mem hs hp]
  exact get?_filterMap hs _ hp

/-- A function has nothing under a name that none of its parameters has. -/
theorem mem_names_of_enter (hs : s.names.Nodup) (hnamed : (named.map Prod.fst).Nodup)
    (hown : s.enter args named = .ok own) {v : Value} (hv : own.get? name = some v) :
    name ∈ s.names := by
  obtain ⟨-, rfl⟩ := (enter_eq_ok_iff hs hnamed).mp hown
  obtain ⟨p, hp, rfl⟩ := exists_of_has_filterMap (n := name)
    (show Named.has (s.slots args named) name by rw [Named.has, hv]; rfl)
  exact List.mem_map_of_mem hp

theorem received?_of_takesByName (hs : s.names.Nodup) (hplaces : s.Places args named)
    (htakes : s.TakesByName name) {v : Value} (hv : named.get? name = some v) :
    s.received? args named name = some v := by
  rcases htakes with htakes | hnone
  · obtain ⟨p, hp, hmatches⟩ := List.any_eq_true.mp htakes
    obtain ⟨hnamed, rfl⟩ : p.takesNamed ∧ p.name = name := by simpa using hmatches
    have hhas : named.has p.name := by
      rw [Named.has, hv]
      rfl
    rw [received?_of_mem hs hp, value?, given?_of_has hplaces hp hnamed hhas, hv]
    rfl
  · rw [received?_of_notMem hnone, hv]

/-- The positional argument at the place of a parameter is found under its name. -/
theorem get?_zip {params : List Param} (hparams : (params.map Param.name).Nodup) {place : Nat}
    {p : Param} (hp : params[place]? = some p) :
    Named.get? ((params.zip args).map fun (q, v) => (q.name, v)) p.name = args[place]? := by
  induction params generalizing args place with
  | nil => cases hp
  | cons q rest ih =>
    obtain ⟨hq, hrest⟩ := List.nodup_cons.mp hparams
    cases args with
    | nil => rfl
    | cons v args =>
      rw [List.zip_cons_cons, List.map_cons, Named.get?_cons]
      cases place with
      | zero =>
        cases hp
        rw [if_pos rfl]
        rfl
      | succ place =>
        have hne : p.name ≠ q.name := fun h =>
          hq (h ▸ List.mem_map_of_mem (List.mem_of_getElem? hp))
        rw [if_neg hne]
        exact ih hrest hp

theorem received?_of_place (hs : s.names.Nodup) {place : Nat} {p : Param}
    (hp : s.positionalParams[place]? = some p) {v : Value} (hv : args[place]? = some v) :
    s.received? args named p.name = some v := by
  have hmem := List.mem_of_getElem? hp
  have hnames : (s.positionalParams.map Param.name).Nodup :=
    hs.sublist (List.filter_sublist.map _)
  rw [received?_of_mem hs (List.mem_of_mem_filter hmem), value?,
    given?_of_not_isCollector hs (List.mem_of_mem_filter hmem)
      (isCollector_of_mem_positionalParams hmem), Named.get?_append, placed, get?_zip hnames hp, hv]
  rfl

/-- What a collector of named arguments holds can be spread out again. -/
theorem spreadNamed_collected (named : Named) : spreadNamed (collected named) = named := by
  induction named with
  | nil => rfl
  | cons entry rest ih => exact congrArg (entry :: ·) ih

end Signature

/-! ## What a relaying layer passes on -/

theorem run_joinNamed_eq_ok {f : Function} {first second all : Named} {handled : Option Ref}
    {w w' : World} (h : (joinNamed f first second).run handled w = (.ok all, w')) :
    all = first ++ second ∧ ∀ n, second.has n → first.has n = false := by
  rw [joinNamed] at h
  split at h
  · exact absurd h (run_fault_ne_ok _)
  next hnone =>
    cases h
    refine ⟨rfl, fun n hn => ?_⟩
    obtain ⟨entry, hentry, rfl⟩ := List.mem_map.mp (Named.has_iff.mp hn)
    exact Bool.not_eq_true _ ▸ List.find?_eq_none.mp hnone entry hentry

/-- The named arguments that a passed argument comes to. -/
def PassedArgument.byName (slots : Named) : PassedArgument → Named
  | .named keyword n => [(keyword, slots.slot n)]
  | .spreadNamed n => FaultContext.spreadNamed (slots.slot n)
  | .positional _ | .spread _ => []

section Passing

variable {f : Function} {slots : Named} {handled : Option Ref} {w w' : World}
  {given result : List Value × Named} {passed : List PassedArgument}

/-- What is passed on comes behind the rest, and what is passed on by name under names of its own. -/
theorem run_passOn {argument : PassedArgument}
    (h : (passOn f slots given argument).run handled w = (.ok result, w')) :
    (∃ more, result.1 = given.1 ++ more) ∧ result.2 = given.2 ++ argument.byName slots ∧
      ∀ n, (argument.byName slots).has n → given.2.has n = false := by
  cases argument with
  | positional n =>
    cases h
    exact ⟨⟨_, rfl⟩, (List.append_nil _).symm, fun n hn => by cases hn⟩
  | spread n =>
    obtain ⟨s, u, -, h⟩ := run_bind_eq_ok.mp h
    obtain ⟨items, u', -, h⟩ := run_bind_eq_ok.mp h
    cases h
    exact ⟨⟨_, rfl⟩, (List.append_nil _).symm, fun n hn => by cases hn⟩
  | spreadNamed n | named keyword n =>
    obtain ⟨all, u, hjoin, h⟩ := run_bind_eq_ok.mp h
    cases h
    obtain ⟨hall, hdisjoint⟩ := run_joinNamed_eq_ok hjoin
    exact ⟨⟨[], (List.append_nil _).symm⟩, hall, hdisjoint⟩

/-- A place and a name keep what they are given first. -/
theorem run_passAll (h : (passed.foldlM (passOn f slots) given).run handled w = (.ok result, w')) :
    (∃ more, result.1 = given.1 ++ more) ∧
      (∀ n v, given.2.get? n = some v → result.2.get? n = some v) ∧
      ∀ argument ∈ passed, ∀ n v, (argument.byName slots).get? n = some v →
        result.2.get? n = some v := by
  induction passed generalizing given w with
  | nil =>
    cases h
    exact ⟨⟨[], (List.append_nil _).symm⟩, fun _ _ h => h, by simp⟩
  | cons argument rest ih =>
    rw [List.foldlM_cons] at h
    obtain ⟨next, u, hnext, hrest⟩ := run_bind_eq_ok.mp h
    obtain ⟨⟨first, hfirst⟩, hmore, hdisjoint⟩ := run_passOn hnext
    obtain ⟨⟨others, hothers⟩, hkept, hpassed⟩ := ih hrest
    refine ⟨⟨first ++ others, ?_⟩, fun n v hn => hkept n v ?_, fun other hother n v hv => ?_⟩
    · rw [hothers, hfirst, List.append_assoc]
    · rw [hmore, Named.get?_append, hn]
      rfl
    · rcases List.mem_cons.mp hother with rfl | hother
      · have hhas : (other.byName slots).has n := by
          rw [Named.has, hv]
          rfl
        refine hkept n v ?_
        rw [hmore, Named.get?_append, Named.get?_eq_none_iff.mpr (hdisjoint n hhas), hv]
        rfl
      · exact hpassed other hother n v hv

/-- Arguments that are passed on at the front keep their places. -/
theorem getElem?_of_run_passAll {before : List String} {name : String}
    {rest : List PassedArgument}
    (h : ((before.map PassedArgument.positional ++ .positional name :: rest).foldlM (passOn f slots)
      given).run handled w = (.ok result, w')) :
    result.1[given.1.length + before.length]? = some (slots.slot name) := by
  induction before generalizing given w with
  | nil =>
    obtain ⟨next, u, hnext, hrest⟩ := run_bind_eq_ok.mp h
    cases hnext
    obtain ⟨⟨more, hmore⟩, -⟩ := run_passAll hrest
    rw [hmore]
    simp
  | cons first before ih =>
    obtain ⟨next, u, hnext, hrest⟩ := run_bind_eq_ok.mp h
    cases hnext
    have hplace := ih hrest
    rw [List.length_append, List.length_singleton] at hplace
    rw [List.length_cons, Nat.add_comm before.length, ← Nat.add_assoc]
    exact hplace

end Passing

/-- A body sees what a slot holds. -/
theorem Function.slot_locals {f : Function} {slots : Named} {n : String} {v : Value}
    (hn : n ∈ f.localNames) (hv : slots.get? n = some v) : (f.locals slots).slot n = v := by
  have hget : ∀ names : List String, n ∈ names →
      Named.get? (names.filterMap fun m => (slots.get? m).map (m, ·)) n = some v := by
    intro names hmem
    induction names with
    | nil => cases hmem
    | cons m rest ih =>
      rw [List.filterMap_cons]
      by_cases hm : n = m
      · subst hm
        simp [hv, Named.get?_cons]
      · have hrest := ih ((List.mem_cons.mp hmem).resolve_left hm)
        cases slots.get? m with
        | none => exact hrest
        | some v' => simpa [Named.get?_cons, hm] using hrest
  rw [Named.slot, locals, hget _ hn]
  rfl

/-! ## Layers that pass a name on -/

/-- What a layer receives under a name it gives to its target by that name. -/
inductive Function.GivesByName (layer : Function) (target : Value) (name : String) : Prop
  | inject {injected : List Value} {injectedNamed : Named} {waits : Bool} :
    layer.params = Signature.everything →
    layer.code = .inject target injected injectedNamed waits →
    name ∉ Signature.everything.names → GivesByName layer target name
  | named {passed : List PassedArgument} {injected : List Value} {injectedNamed : Named}
    {waits : Bool} :
    layer.code = .relay target passed injected injectedNamed waits → name ∈ layer.params.names →
    name ∈ layer.localNames → .named name name ∈ passed → GivesByName layer target name
  | collected {passed : List PassedArgument} {injected : List Value} {injectedNamed : Named}
    {waits : Bool} {collector : Param} :
    layer.code = .relay target passed injected injectedNamed waits → name ∉ layer.params.names →
    collector ∈ layer.params → collector.kind = .varKeyword → collector.name ∈ layer.localNames →
    .spreadNamed collector.name ∈ passed → GivesByName layer target name

/-- What a layer receives under a name it gives to its target at a certain place. -/
def Function.GivesAt (layer : Function) (target : Value) (name : String) (place : Nat) : Prop :=
  ∃ (before : List String) (rest : List PassedArgument) (injected : List Value)
    (injectedNamed : Named) (waits : Bool),
    layer.code = .relay target (before.map .positional ++ .positional name :: rest) injected
      injectedNamed waits ∧
    name ∈ layer.params.names ∧ name ∈ layer.localNames ∧ place = injected.length + before.length

/-- A function under layers each of which passes on under a name what it receives under it. -/
inductive Store.PassesDown (s : Store) (bottom : Value) (name : String) : Value → Prop
  | here : PassesDown s bottom name bottom
  | byName {v target : Value} {layer below : Function} :
    s.function? v = some layer → layer.params.WellFormed → layer.GivesByName target name →
    s.function? target = some below → below.params.TakesByName name →
    PassesDown s bottom name target → PassesDown s bottom name v
  | byPlace {v target : Value} {layer below : Function} {place : Nat} {p : Param} :
    s.function? v = some layer → layer.params.WellFormed → layer.GivesAt target name place →
    s.function? target = some below → below.params.positionalParams[place]? = some p →
    p.name = name → PassesDown s bottom name target → PassesDown s bottom name v

/-- The function that a layer calls. -/
def Code.target? : Code → Option Value
  | .inject target .. | .relay target .. => some target
  | _ => none

theorem Function.GivesByName.target? {layer : Function} {target : Value} {name : String}
    (h : layer.GivesByName target name) : layer.code.target? = some target := by
  cases h with
  | inject _ hcode => rw [hcode, Code.target?]
  | named hcode | collected hcode => rw [hcode, Code.target?]

theorem Function.GivesAt.target? {layer : Function} {target : Value} {name : String} {place : Nat}
    (h : layer.GivesAt target name place) : layer.code.target? = some target := by
  obtain ⟨_, _, _, _, _, hcode, -⟩ := h
  rw [hcode, Code.target?]

section Layer

variable {handled : Option Ref} {w : World} {layer : Function} {target : Value} {waits : Bool}
  {args given : List Value} {named givenNamed : Named} {name : String} {v : Value}

theorem Function.PassesOn.target?
    (h : layer.PassesOn handled w args named target waits given givenNamed) :
    layer.code.target? = some target := by
  cases h with
  | inject _ hcode => rw [hcode, Code.target?]
  | relay hcode => rw [hcode, Code.target?]

/-- A relaying layer has entered its own parameters and passed on what they hold. -/
theorem Function.PassesOn.relayed {passed : List PassedArgument} {injected : List Value}
    {injectedNamed : Named} {target' : Value} {waits' : Bool}
    (h : layer.PassesOn handled w args named target waits given givenNamed)
    (hcode : layer.code = .relay target' passed injected injectedNamed waits') :
    ∃ own f all w', layer.params.enter args named = .ok own ∧
      (passed.foldlM (passOn f (layer.locals own)) (injected, [])).run handled w =
        (.ok (given, all), w') ∧
      givenNamed = all ++ injectedNamed := by
  cases h with
  | inject _ hcode' => cases hcode.symm.trans hcode'
  | relay hcode' henter hrelayed =>
    cases hcode.symm.trans hcode'
    obtain ⟨⟨given', passedNamed⟩, u, hpassed, hjoin⟩ := run_bind_eq_ok.mp hrelayed
    obtain ⟨all, u', hjoined, hpure⟩ := run_bind_eq_ok.mp hjoin
    cases hpure
    exact ⟨_, _, _, _, henter, hpassed, (run_joinNamed_eq_ok hjoined).1⟩

variable (h : layer.PassesOn handled w args named target waits given givenNamed)
  (hlayer : layer.params.WellFormed) (hnamed : (named.map Prod.fst).Nodup)
  (hv : layer.params.received? args named name = some v)
include h hlayer hnamed hv

theorem Function.GivesByName.get? (hgives : layer.GivesByName target name) :
    givenNamed.get? name = some v := by
  cases hgives with
  | inject hparams hcode hname =>
    rw [hparams, Signature.received?_of_notMem hname] at hv
    cases h with
    | inject _ hcode' hdisjoint =>
      have hhas : named.has name := by
        rw [Named.has, hv]
        rfl
      rw [Named.get?_append, Named.get?_eq_none_iff.mpr (hdisjoint name hhas), hv]
      rfl
    | relay hcode' => cases hcode.symm.trans hcode'
  | named hcode hname hlocal hmem =>
    obtain ⟨own, f, all, w', henter, hpassed, rfl⟩ := h.relayed hcode
    rw [← Signature.get?_of_enter hlayer.names_nodup hnamed henter hname] at hv
    have hgiven := (run_passAll hpassed).2.2 _ hmem name v
      (by rw [PassedArgument.byName, Function.slot_locals hlocal hv]; simp [Named.get?_cons])
    rw [Named.get?_append, hgiven]
    rfl
  | @collected _ _ _ _ collector hcode hname hcollector hkind hlocal hmem =>
    obtain ⟨own, f, all, w', henter, hpassed, rfl⟩ := h.relayed hcode
    rw [Signature.received?_of_notMem hname] at hv
    -- No parameter takes the argument, so it is among those that are collected.
    have htakes : layer.params.takes name = false := by
      rw [Signature.takes, List.any_eq_false]
      intro p hp htaken
      exact hname (List.mem_map.mpr ⟨p, hp, (by simpa using htaken : _ ∧ _).2⟩)
    have hown : own.get? collector.name =
        some (Signature.collected (named.selected (!layer.params.takes ·))) := by
      rw [Signature.get?_of_enter hlayer.names_nodup hnamed henter (List.mem_map_of_mem hcollector),
        Signature.received?_of_mem hlayer.names_nodup hcollector, Signature.value?, Signature.given?,
        hkind]
      rfl
    have hgiven := (run_passAll hpassed).2.2 _ hmem name v (by
      rw [PassedArgument.byName, Function.slot_locals hlocal hown, Signature.spreadNamed_collected,
        Named.get?_selected, htakes]
      exact hv)
    rw [Named.get?_append, hgiven]
    rfl

theorem Function.GivesAt.getElem? {place : Nat} (hgives : layer.GivesAt target name place) :
    given[place]? = some v := by
  obtain ⟨before, rest, injected, injectedNamed, waits', hcode, hname, hlocal, rfl⟩ := hgives
  obtain ⟨own, f, all, w', henter, hpassed, -⟩ := h.relayed hcode
  rw [← Signature.get?_of_enter hlayer.names_nodup hnamed henter hname] at hv
  rw [← Function.slot_locals hlocal hv]
  exact getElem?_of_run_passAll hpassed

end Layer

namespace Store.PassesDown

variable {handled : Option Ref} {w : World} {awaited : Bool} {bottom v : Value} {n : Nat}
  {args args' : List Value} {named named' slots : Named} {f g : Function} {name : String}

theorem wellFormed {s : Store} (hv : s.PassesDown bottom name v) (hf : s.function? bottom = some f)
    (hparams : f.params.WellFormed) (hg : s.function? v = some g) : g.params.WellFormed := by
  cases hv with
  | here =>
    obtain rfl := Option.some.inj (hf.symm.trans hg)
    exact hparams
  | byName hlayer hparams | byPlace hlayer hparams =>
    obtain rfl := Option.some.inj (hlayer.symm.trans hg)
    exact hparams

/-- **What the outermost layer receives under a name, the function at the bottom receives**, if all
layers pass it on. -/
theorem received?_of_handsDown (hv : w.store.PassesDown bottom name v)
    (h : HandsDown handled w awaited bottom n v args named args' named')
    (hf : w.store.function? bottom = some f) (hplain : f.Plain)
    (hnamed : (named.map Prod.fst).Nodup) (hslots : f.params.enter args' named' = .ok slots)
    (hg : w.store.function? v = some g) {y : Value}
    (hy : g.params.received? args named name = some y) :
    f.params.received? args' named' name = some y := by
  induction h generalizing g with
  | here =>
    obtain rfl := Option.some.inj (hf.symm.trans hg)
    exact hy
  | layer hlayer hpasses hgiven _ hrest ih =>
    obtain rfl := Option.some.inj (hlayer.symm.trans hg)
    cases hv with
    | here =>
      obtain rfl := Option.some.inj (hf.symm.trans hlayer)
      have hnone := hplain.own
      cases hpasses with
      | inject _ hcode => simp [hcode, Code.isLayer] at hnone
      | relay hcode => simp [hcode, Code.isLayer] at hnone
    | @byName _ target' _ below hlayer' hparams hgives hbelow htakes htarget =>
      obtain rfl := Option.some.inj (hlayer.symm.trans hlayer')
      obtain rfl := Option.some.inj (hpasses.target?.symm.trans hgives.target?)
      have hname := hgives.get? hpasses hparams hnamed hy
      have hbelowParams := htarget.wellFormed hf hplain.params hbelow
      obtain ⟨below', own, hbelow', hown⟩ := hrest.exists_slots hf hslots
      obtain rfl := Option.some.inj (hbelow.symm.trans hbelow')
      have hfits := ((Signature.enter_eq_ok_iff hbelowParams.names_nodup hgiven).mp hown).1
      exact ih htarget hgiven hslots hbelow
        (Signature.received?_of_takesByName hbelowParams.names_nodup hfits.toPlaces htakes hname)
    | byPlace hlayer' hparams hgives hbelow hplace hname htarget =>
      obtain rfl := Option.some.inj (hlayer.symm.trans hlayer')
      obtain rfl := Option.some.inj (hpasses.target?.symm.trans hgives.target?)
      have hargument := hgives.getElem? hpasses hparams hnamed hy
      have hbelowParams := htarget.wellFormed hf hplain.params hbelow
      refine ih htarget hgiven hslots hbelow ?_
      rw [← hname]
      exact Signature.received?_of_place hbelowParams.names_nodup hplace hargument

end Store.PassesDown
end FaultContext
