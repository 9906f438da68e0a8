/-
# FaultContext.Proofs.RootCause -- the payload at the end of its layers.

Contexts that are chained onto a payload put layers around it, and the chain of the outermost layer
leads through all of them.  A payload that is no exception leads nowhere, so it is the last value of
the chain and the root.

There is one payload that this is not true of.  A layer of context without a failure has the value
none as its source, and the chain takes a layer around that value for such a layer: the root is the
innermost layer, and the payload does not come in the chain at all.

The layers that a stack of guards puts around a returned payload are the same.  Between them the
guards render their contexts, which is code of the program, so this is as far as no rendering
changes the layers that are there already.
-/
import FaultContext.Proofs.ChainWalk
import FaultContext.Proofs.LayeredDecorations

namespace FaultContext

open Eval

/-! ## Chains that end -/

namespace Chain

variable {s : Store} {v last : Value} {vs : List Value}

/-- Nothing comes behind something that is no exception. -/
theorem eq_nil_of_value {met more : List Value} (h : (v :: (met ++ more)).IsChain (Leads s))
    (hend : ∀ last ∈ (v :: met).getLast?, s.exception? last = none) : more = [] := by
  cases more with
  | nil => rfl
  | cons w more =>
    have hlast := List.getLast?_eq_some_getLast (List.cons_ne_nil v met)
    have hleads := (List.isChain_append.mp h).2.2 _ hlast w rfl
    exact absurd (hend _ hlast) hleads.exception

/-- Values along the links that end with no exception are told by the first one. -/
theorem eq_of_value {rest rest' : List Value} (h : (v :: rest).IsChain (Leads s))
    (h' : (v :: rest').IsChain (Leads s))
    (hend : ∀ last ∈ (v :: rest).getLast?, s.exception? last = none)
    (hend' : ∀ last ∈ (v :: rest').getLast?, s.exception? last = none) : rest = rest' := by
  rcases begins_or_begins h h' with ⟨more, rfl⟩ | ⟨more, rfl⟩
  · rw [eq_nil_of_value h' hend, List.append_nil]
  · rw [eq_nil_of_value h hend', List.append_nil]

/-- Nothing comes twice on the way to something that is no exception. -/
theorem nodup_of_value (h : vs.IsChain (Leads s))
    (hend : ∀ last ∈ vs.getLast?, s.exception? last = none) : vs.Nodup := by
  induction vs with
  | nil => exact List.nodup_nil
  | cons v rest ih =>
    have hrest : rest.Nodup := by
      refine ih h.tail fun last hlast => hend last ?_
      cases rest with
      | nil => cases hlast
      | cons w rest => rwa [List.getLast?_cons_cons]
    refine List.nodup_cons.mpr ⟨fun hmem => ?_, hrest⟩
    -- From the second place on, the way would have to be as long as from the first one.
    obtain ⟨before, behind, rfl⟩ := List.append_of_mem hmem
    have hbehind : (v :: behind).IsChain (Leads s) := (List.isChain_append.mp h.tail).2.1
    have heq := eq_of_value h hbehind hend fun last hlast => hend last (by
      rw [← List.cons_append, List.getLast?_append_of_ne_nil _ (List.cons_ne_nil _ _)]
      exact hlast)
    have hlength := congrArg List.length heq
    simp only [List.length_append, List.length_cons] at hlength
    omega

end Chain

/-! ## Layers that are exceptions -/

namespace Store

/-- Layers of context that have been put around a value since some earlier store, as exceptions, the
outermost first. -/
inductive Covering (s earlier : Store) (p : Value) : List Value → Value → Prop
  | bare : Covering s earlier p [] p
  | layer {r : Ref} {context source : Value} {contexts : List Value} : earlier.get? r = none →
    s.Layer r context source → s.exception? (.object r) = some r →
    Covering s earlier p contexts source → Covering s earlier p (context :: contexts) (.object r)

variable {s s' earlier : Store} {p v : Value} {contexts : List Value}

theorem Covering.mono (hspares : earlier.Spares s s') (hpersists : s.Persists s')
    (h : s.Covering earlier p contexts v) : s'.Covering earlier p contexts v := by
  induction h with
  | bare => exact .bare
  | layer hnew hlayer hexception _ ih =>
    exact .layer hnew (hspares _ _ _ hnew hlayer)
      ((hpersists.exception? (exists_of_exception? hexception)).trans hexception) ih

/-- The source of a layer is found by its name. -/
theorem Layer.leads {r : Ref} {context source : Value} (h : s.Layer r context source)
    (hexception : s.exception? (.object r) = some r) :
    Chain.Leads s (.object r) source := by
  refine .source hexception (h.isInstance .contextError) ?_
  obtain ⟨_, hlabel, -, hsource⟩ := h.label
  obtain ⟨⟨c, attributes, body⟩, hr, heq⟩ := Option.map_eq_some_iff.mp hlabel
  cases heq
  cases body with
  | exception args cause context =>
    have hbody : bodyAttribute? ⟨Standard.contextError, attributes, .exception args cause context⟩
        "source" = none :=
      rfl
    simp only [attr, hr, objectAttribute?, hbody, hsource]
  | _ => simp only [exception?, hr] at hexception; cases hexception

/-- Layers lead from the outermost one to the value that they are around. -/
theorem Covering.linked (h : s.Covering earlier p contexts v) :
    ∃ outer : List Value, outer.length = contexts.length ∧ (outer ++ [p]).head? = some v ∧
      (outer ++ [p]).IsChain (Chain.Leads s) ∧ .none ∉ outer ∧
      ∀ context ∈ contexts.getLast?, ∃ r, outer.getLast? = some (.object r) ∧
        s.Layer r context p := by
  induction h with
  | bare => exact ⟨[], rfl, rfl, .singleton _, List.not_mem_nil, by simp⟩
  | @layer r context source contexts hnew hlayer hexception hrest ih =>
    obtain ⟨outer, hlength, hhead, hlinked, hpresent, hinnermost⟩ := ih
    refine ⟨.object r :: outer, by simp [hlength], rfl, ?_, by simpa using hpresent, ?_⟩
    · refine List.IsChain.cons hlinked fun w hw => ?_
      cases hhead.symm.trans hw
      exact hlayer.leads hexception
    · intro innermost hcontext
      cases hrest with
      | bare =>
        cases List.length_eq_zero_iff.mp hlength
        cases hcontext
        exact ⟨r, rfl, hlayer⟩
      | layer =>
        rw [List.getLast?_cons_cons] at hcontext
        obtain ⟨q, hq, hlayer'⟩ := hinnermost innermost hcontext
        obtain ⟨w, outer, rfl⟩ := List.exists_cons_of_length_eq_add_one hlength
        exact ⟨q, by rwa [List.getLast?_cons_cons], hlayer'⟩

end Store

/-- What the chain of the layers around a payload ends with: the payload, or the innermost layer
where the payload is the value none. -/
structure Rooted (s : Store) (p : Value) (contexts : List Value) (v : Value) : Prop where
  payload : p ≠ .none → Chain.root s v = .ok p ∧
    ∃ outer, outer.length = contexts.length ∧ Chain.layers s v = ⟨outer ++ [p], none⟩
  none : p = .none → ∃ r innermost outer, contexts.getLast? = some innermost ∧
    s.Layer r innermost .none ∧ Chain.root s v = .ok (.object r) ∧
    outer.length = contexts.length ∧ Chain.layers s v = ⟨outer, none⟩ ∧ .none ∉ outer

/-- Layers around a payload that is no exception. -/
theorem Store.Covering.rooted {s earlier : Store} {p v : Value} {contexts : List Value}
    (h : s.Covering earlier p contexts v) (hcontexts : contexts ≠ [])
    (hp : s.exception? p = none) : Rooted s p contexts v := by
  have hv : v ≠ .none := by
    cases h with
    | bare => exact absurd rfl hcontexts
    | layer => simp
  obtain ⟨outer, hlength, hhead, hlinked, hpresent, hinnermost⟩ := h.linked
  have hend : ∀ last ∈ (outer ++ [p]).getLast?, s.exception? last = none := by
    simpa using hp
  have hnodup := Chain.nodup_of_value hlinked hend
  constructor
  · intro hsome
    have hcomplete : Chain.Complete s v (outer ++ [p]) none :=
      ⟨⟨hhead, by simpa [hpresent] using hsome.symm, hnodup, hlinked⟩, p, by simp, .value hp⟩
    have hlayers := (Chain.layers_eq_iff hv).mpr hcomplete
    exact ⟨Chain.root_eq hlayers (by simp), outer, hlength, hlayers⟩
  · rintro rfl
    have hlast := List.getLast?_eq_some_getLast hcontexts
    obtain ⟨r, hr, hlayer⟩ := hinnermost _ hlast
    -- The link of the innermost layer leads to the value none, which is where the chain stops.
    obtain ⟨hlinked, -, hleads⟩ := List.isChain_append.mp hlinked
    have hcomplete : Chain.Complete s v outer none := by
      refine ⟨⟨?_, hpresent, (List.nodup_append.mp hnodup).1, hlinked⟩, _, hr,
        .unlinked (hleads _ hr _ rfl)⟩
      rwa [List.head?_append_of_ne_nil _ (by rintro rfl; cases hr)] at hhead
    have hlayers := (Chain.layers_eq_iff hv).mpr hcomplete
    exact ⟨r, _, outer, hlast, hlayer, Chain.root_eq hlayers hr, hlength, hlayers, hpresent⟩

/-! ## Chaining contexts -/

/-- Chaining one more context puts one more layer around what there is. -/
theorem Resolution.run_apply_chain (engine : Engine) {earlier : Store} {p v : Value}
    {contexts : List Value} {w : World} (hearlier : earlier.Persists w.store)
    (hexists : w.store.Exists v) (h : w.store.Covering earlier p contexts v) (context : Value)
    (handled : Option Ref) :
    ∃ v' w', (apply engine (some .chain) v context).run handled w = (.ok v', w') ∧
      w.store.Persists w'.store ∧ w'.store.Exists v' ∧
      w'.store.Covering earlier p (context :: contexts) v' := by
  have huntouched := (Store.Untouched.refl w.store).insert (w.store.newLayer context v)
  have hexception : (w.store.insert (w.store.newLayer context v)).2.exception?
      (.object (w.store.insert (w.store.newLayer context v)).1) =
        some (w.store.insert (w.store.newLayer context v)).1 := by
    simp only [Store.exception?, Store.get?_insert, Store.newLayer]
  exact ⟨_, _, run_contextError context v handled w, huntouched.persists,
    Store.exists_of_exception? hexception,
    .layer (hearlier.get?_eq_none w.store.get?_free) (w.store.layer_insert context v hexists)
      hexception (h.mono (huntouched.spares earlier) huntouched.persists)⟩

/-- Chaining contexts one after the other puts one layer after the other around a payload. -/
theorem Resolution.run_chainAll (engine : Engine) {earlier : Store} {p v : Value}
    {before : List Value} {w : World} (hearlier : earlier.Persists w.store)
    (hexists : w.store.Exists v) (h : w.store.Covering earlier p before v) (contexts : List Value)
    (handled : Option Ref) :
    ∃ v' w', (contexts.foldlM (apply engine (some .chain)) v).run handled w = (.ok v', w') ∧
      w.store.Persists w'.store ∧
      w'.store.Covering earlier p (contexts.reverse ++ before) v' := by
  induction contexts generalizing v before w with
  | nil => exact ⟨v, w, rfl, .refl _, h⟩
  | cons context rest ih =>
    obtain ⟨v₁, w₁, hfirst, hpersists, hexists₁, hcovering⟩ :=
      run_apply_chain engine hearlier hexists h context handled
    obtain ⟨v', w', hrest, hpersists', hcovering'⟩ :=
      ih (hearlier.trans hpersists) hexists₁ hcovering
    refine ⟨v', w', (run_bind_of_ok hfirst).trans hrest, hpersists.trans hpersists', ?_⟩
    rwa [List.reverse_cons, List.append_assoc]

/-! ## Stacks of guards -/

/-- A stack of guards puts one layer after the other around what has failed, and all of them are
exceptions. -/
theorem Stacked.covering_of_fails {asynchronous : Bool} {f v : Value} {guards : List Guard}
    {depth : Nat} {args : List Value} {named : Named} {handled : Option Ref} {w u : World}
    {ended : Except Signal Value} {p : Failure} {contexts : List Value}
    {changes : List (Store × Store)} (hv : Stacked w.store asynchronous f guards v)
    (hguards : ∀ g ∈ guards, w.Chains g.bindings ∧ g.descriptor.callSignature.accepts args named)
    (hcall : ((Engine.within depth).complete asynchronous f args named).run handled w = (ended, u))
    (hp : Fails u.store ended p) (hc : u.store.Chained (u.store.classOf p.value))
    (hrendered : Rendered depth asynchronous args named handled w guards contexts changes)
    (hspares : ∀ change ∈ changes, u.store.Spares change.1 change.2) :
    ∃ ended' u' p', ((Engine.within (depth + guards.length)).complete asynchronous v
        args named).run handled w = (ended', u') ∧
      Fails u'.store ended' p' ∧ u'.store.Chained (u'.store.classOf p'.value) ∧
      (∀ r, p'.replaced r = p.replaced r) ∧ u.store.Persists u'.store ∧
      u'.store.Covering u.store p.value contexts p'.value := by
  have hheld := hv.holds_of_fails
    (fun s contexts changes p' => (∀ change ∈ changes, u.store.Spares change.1 change.2) →
      (∀ r, p'.replaced r = p.replaced r) ∧ u.store.Persists s ∧
        s.Covering u.store p.value contexts p'.value)
    hguards hcall hp hc hrendered (fun _ => ⟨fun _ => rfl, .refl _, .bare⟩)
    fun hbelow hrenders hlayered hspares => ?_
  · obtain ⟨ended', u', p', hrun, hp', hc', hcovering⟩ := hheld
    exact ⟨ended', u', p', hrun, hp', hc', hcovering hspares⟩
  · -- One more guard adds a layer, which is an exception, and spares those below.
    obtain ⟨hspare, hspares⟩ := List.forall_mem_cons.mp hspares
    obtain ⟨hkind, hpersists, hcovering⟩ := hbelow hspares
    have hpersists := hpersists.trans hrenders
    refine ⟨fun q => ?_, hpersists.trans hlayered.untouched.persists, ?_⟩
    · rw [Failure.replaced_replaced, hkind]
    · rw [Failure.value_replaced]
      exact .layer (hpersists.get?_eq_none hlayered.free) hlayered.layer hlayered.exception
        ((hcovering.mono hspare hrenders).mono (hlayered.untouched.spares _)
          hlayered.untouched.persists)

/-! ## The root of a payload -/

/-- **The root of layers around a payload is that payload, unless it is the value none.**  For every
payload that is no exception, and all contexts that are chained onto it one after the other, the
chain has one layer for each context; with any payload other than none it goes on to the payload,
which is its last value and the root.  With the value none it ends with the innermost layer.

The same holds of what a call returns, at the hands of decorations with the standard set, when the
function returns a failure with the payload. -/
theorem root_of_chained_payload {p : Value} {u : World} (hexists : u.store.Exists p)
    (hp : u.store.exception? p = none) :
    (∀ (engine : Engine) (contexts : List Value) (handled : Option Ref), contexts ≠ [] →
      ∃ v u', (contexts.foldlM (Resolution.apply engine (some .chain)) p).run handled u =
          (.ok v, u') ∧ Rooted u'.store p contexts.reverse v) ∧
    ∀ {engine : Engine} {decorations : List Decoration} {f f' result : Value}
      {first handled : Option Ref} {w₀ w₁ w : World} {depth : Nat} {args : List Value}
      {named : Named} {signature : Signature},
      (Decoration.applyAll engine decorations f).run first w₀ = (.ok f', w₁) →
      decorations ≠ [] → (∀ d ∈ decorations, d.bindings = defaultSet) →
      w₁.store.Persists w.store → w.Reachable →
      (w.bindingSet defaultSet).core = BindingSet.standard →
      w₀.store.signature false (Descriptor.targetOf w₀.store f) = .ok signature →
      signature.accepts args named →
      ((Engine.within depth).complete (w₀.store.isAsynchronous (Descriptor.targetOf w₀.store f))
        (Descriptor.targetOf w₀.store f) args named).run handled w = (.ok result, u) →
      Guard.payload? u.store result = some p → u.store.Chained (u.store.classOf p) →
      ∃ guards, guards.length = decorations.length ∧
        Stacked w.store (w₀.store.isAsynchronous (Descriptor.targetOf w₀.store f))
          (Descriptor.targetOf w₀.store f) guards (Descriptor.targetOf w₁.store f') ∧
        ∀ contexts changes,
          Rendered depth (w₀.store.isAsynchronous (Descriptor.targetOf w₀.store f)) args named
            handled w guards contexts changes →
          (∀ change ∈ changes, u.store.Spares change.1 change.2) →
          ∃ result' v u', ((Engine.within (depth + decorations.length)).complete
              (w₀.store.isAsynchronous (Descriptor.targetOf w₀.store f))
              (Descriptor.targetOf w₁.store f') args named).run handled w = (.ok result', u') ∧
            Guard.payload? u'.store result' = some v ∧ contexts.length = decorations.length ∧
            Rooted u'.store p contexts v := by
  constructor
  · intro engine contexts handled hcontexts
    obtain ⟨v, u', hrun, hpersists, hcovering⟩ := Resolution.run_chainAll engine (.refl u.store)
      hexists .bare contexts handled
    rw [List.append_nil] at hcovering
    exact ⟨v, u', hrun, hcovering.rooted (by simpa using hcontexts)
      ((hpersists.exception? hexists).trans hp)⟩
  · intro engine decorations f f' result first handled w₀ w₁ w depth args named signature
      hdecorated hsome hstandard hlater hreachable hnothing hsignature haccepts hcall hresult hc
    obtain ⟨guards, hbuilt⟩ := Decoration.run_applyAll hdecorated
    have hguards : ∀ g ∈ guards,
        w.Chains g.bindings ∧ g.descriptor.callSignature.accepts args named := by
      intro g hg
      obtain ⟨d, hd, hbindings⟩ := hbuilt.bindings g hg
      refine ⟨?_, hbuilt.accepts hsignature haccepts g hg⟩
      rw [hbindings, hstandard d hd]
      exact ⟨hnothing, hreachable.sound.truthful⟩
    have hstacked := hbuilt.stacked.persists hlater
    refine ⟨guards, hbuilt.length, hstacked, fun contexts changes hrendered hspares => ?_⟩
    have hlength := hrendered.length.1.trans hbuilt.length
    obtain ⟨ended, u', p', hrun, hfails, -, hkind, hpersists, hcovering⟩ :=
      hstacked.covering_of_fails hguards hcall (.returned hresult hexists) hc hrendered hspares
    rw [hbuilt.length] at hrun
    cases p' with
    | raised r => cases hkind r
    | returned v =>
      cases hfails with
      | returned hresult' =>
        refine ⟨_, v, u', hrun, hresult', hlength, hcovering.rooted ?_
          ((hpersists.exception? hexists).trans hp)⟩
        rintro rfl
        exact hsome (List.eq_nil_of_length_eq_zero hlength.symm)

/-- Two contexts are chained onto the value none, and two decorations are put on a function that
returns a failure with this payload.  Either way the chain has two layers and nothing behind them,
and the root is a layer. -/
theorem none_missing_at_the_root :
    let w₀ := World.holding #[.function (.inject (.cls Standard.err) [.none] [] false)]
    let decorations := [.source (.value (.str .fresh "one")) defaultSet,
      .source (.value (.str .fresh "two")) defaultSet]
    (∃ v r u outer, ([.str .fresh "one", .str .fresh "two"].foldlM
        (Resolution.apply (Engine.within 0) (some .chain)) .none).run none w₀ = (.ok v, u) ∧
      Chain.layers u.store v = ⟨outer, none⟩ ∧ outer.length = 2 ∧ .none ∉ outer ∧
      Chain.root u.store v = .ok (.object r)) ∧
    ∃ f' w₁ result v r u outer, (Decoration.applyAll (Engine.within 0) decorations
        (.object ⟨0⟩)).run none w₀ = (.ok f', w₁) ∧
      ((Engine.within 4).complete false (Descriptor.targetOf w₁.store f') [] []).run none w₁ =
        (.ok result, u) ∧
      Guard.payload? u.store result = some v ∧ Chain.layers u.store v = ⟨outer, none⟩ ∧
      outer.length = 2 ∧ .none ∉ outer ∧ Chain.root u.store v = .ok (.object r) := by
  intro w₀ decorations
  constructor
  · obtain ⟨v, u, hrun, hrooted⟩ := (root_of_chained_payload (u := w₀) (p := .none) nofun rfl).1
      (Engine.within 0) [.str .fresh "one", .str .fresh "two"] none (by simp)
    obtain ⟨r, _, outer, -, -, hroot, hlength, hlayers, hpresent⟩ := hrooted.none rfl
    exact ⟨v, r, u, outer, hrun, hlayers, hlength, hpresent, hroot⟩
  · obtain ⟨w₁, u, d, d', hdecorated, hcall, hresult, hinner, houter, htarget, htarget', htop⟩ :
        ∃ w₁ u d d',
        (Decoration.applyAll (Engine.within 0) decorations (.object ⟨0⟩)).run none w₀ =
          (.ok (.object ⟨2⟩), w₁) ∧
        ((Engine.within 2).complete false (.object ⟨0⟩) [] []).run none w₁ =
          (.ok (.object ⟨3⟩), u) ∧
        Guard.payload? u.store (.object ⟨3⟩) = some .none ∧
        w₁.store.Guards (.object ⟨1⟩) ⟨d, .value (.str .fresh "one"), defaultSet⟩ ∧
        w₁.store.Guards (.object ⟨2⟩) ⟨d', .value (.str .fresh "two"), defaultSet⟩ ∧
        d.target = .object ⟨0⟩ ∧ d'.target = .object ⟨1⟩ ∧
        Descriptor.targetOf w₁.store (.object ⟨2⟩) = .object ⟨2⟩ :=
      ⟨_, _, _, _, rfl, rfl, rfl, ⟨_, rfl, rfl, rfl⟩, ⟨_, rfl, rfl, rfl⟩, rfl, rfl, rfl⟩
    have hreachable : w₁.Reachable := by
      refine .run (.start (fun id => ?_) (by decide)) hdecorated
      cases id <;> rfl
    have hset : (w₁.bindingSet defaultSet).core = BindingSet.standard :=
      ((keeps_of_run hdecorated).core_bindingSet _).trans rfl
    obtain ⟨guards, hguards, hstacked, hall⟩ := (root_of_chained_payload (u := u) (p := .none)
      nofun rfl).2 hdecorated (by simp [decorations]) (by simp [decorations, Decoration.bindings])
      (fun _ _ h => h) hreachable hset rfl rfl hcall hresult ⟨rfl, rfl, _, rfl⟩
    obtain ⟨outer, inner, rfl⟩ := List.length_eq_two.mp hguards
    rw [htop] at hstacked
    obtain _ | ⟨houter', -, hstacked⟩ := hstacked
    obtain rfl := houter.unique houter'
    rw [htarget'] at hstacked
    obtain _ | ⟨hinner', -, -⟩ := hstacked
    obtain rfl := hinner.unique hinner'
    -- Both guards render a text, which changes nothing.
    have hbelow : ((Engine.within 2).complete false d.target [] []).run none w₁ =
        (.ok (.object ⟨3⟩), u) := by
      rw [htarget]
      exact hcall
    obtain ⟨ended, u₁, habove⟩ : ∃ ended u₁, ((Engine.within 3).complete false d'.target
        [] []).run none w₁ = (ended, u₁) := ⟨_, _, rfl⟩
    obtain ⟨result, v, u', hrun, hv, -, hrooted⟩ := hall [.str .fresh "two", .str .fresh "one"] _
      (.layer (.layer .bare hbelow rfl) habove rfl)
      (List.forall_mem_cons.mpr ⟨fun _ _ _ _ h => h, List.forall_mem_singleton.mpr
        fun _ _ _ _ h => h⟩)
    obtain ⟨r, _, outer, -, -, hroot, hlength, hlayers, hpresent⟩ := hrooted.none rfl
    exact ⟨_, w₁, result, v, r, u', outer, hdecorated, hrun, hv, hlayers, hlength, hpresent, hroot⟩

end FaultContext
