/-
# FaultContext.Proofs.ChainWalk -- the chain of a failure is a walk along its links.

Programs set links as they like, so the objects and their links are any finite graph, circles
included.  The chain of a failure is the longest walk along the links on which nothing comes twice
(`Walk`, `Stops`), and there is one such walk only (`Complete.unique`).

`Walks` tells the walk step by step, with the exceptions that have been met.  These are different
objects of one store, so there are no more of them than objects, and the number of steps that
`layers` allows for is never used up (`walks_layers`).

Deliberately not here: what a link is set to when an exception is raised or made
(`FaultContext.Store.Links`, `FaultContext.World.Initialize`).
-/
import FaultContext.Chain
import FaultContext.Store.Links
import Mathlib.Data.List.Chain
import Mathlib.Data.List.Nodup
import Mathlib.Data.List.Perm.Subperm

namespace FaultContext.Chain

/-! ## Links -/

/-- The link of an exception: the source of a layer of context, and the cause of any other one.  It
may be the value none. -/
inductive Leads (s : Store) : Value → Value → Prop
  | source {r : Ref} {v : Value} : s.exception? (.object r) = some r →
    s.isInstance (.object r) Standard.contextError → s.attr (.object r) "source" = .ok v →
    Leads s (.object r) v
  | cause {r : Ref} {c : Class} {attributes : Named} {args : List Value}
    {cause context : Option Ref} :
    s.get? r = some ⟨c, attributes, .exception args cause context⟩ →
    s.isInstance (.object r) Standard.contextError = false →
    Leads s (.object r) (Store.linkValue cause)

/-- A layer of context that has no source. -/
structure Sourceless (s : Store) (r : Ref) (fault : Fault) : Prop where
  exception : s.exception? (.object r) = some r
  layer : s.isInstance (.object r) Standard.contextError
  missing : s.attr (.object r) "source" = .error fault

section

variable {s : Store} {v w w' : Value} {r : Ref} {fault : Fault}

/-- A link leads to one value only. -/
theorem Leads.unique (h : Leads s v w) (h' : Leads s v w') : w = w' := by
  cases h with
  | source _ hlayer hsource =>
    cases h' with
    | source _ _ hsource' => exact Except.ok.inj (hsource.symm.trans hsource')
    | cause _ hother => rw [hlayer] at hother; cases hother
  | cause hr hother =>
    cases h' with
    | source _ hlayer _ => rw [hlayer] at hother; cases hother
    | cause hr' _ => cases hr.symm.trans hr'; rfl

theorem Leads.exception (h : Leads s v w) : s.exception? v ≠ none := by
  cases h with
  | source hexception => rw [hexception]; exact nofun
  | cause hr => simp only [Store.exception?, hr]; exact nofun

theorem Sourceless.not_leads (h : Sourceless s r fault) : ¬ Leads s (.object r) w := by
  intro hleads
  cases hleads with
  | source _ _ hsource => cases h.missing.symm.trans hsource
  | cause _ hother => cases h.layer.symm.trans hother

theorem next_of_value (h : s.exception? v = none) : next s v = .ok .none := by
  rw [next, h]

/-- An exception leads to the next layer, or it is a layer of context without a source. -/
theorem cases_of_next (h : s.exception? (.object r) = some r) :
    (∃ w, next s (.object r) = .ok w ∧ Leads s (.object r) w) ∨
      ∃ fault, next s (.object r) = .error fault ∧ Sourceless s r fault := by
  rw [next, h]
  dsimp only
  cases hlayer : s.isInstance (.object r) Standard.contextError with
  | true =>
    rw [if_pos rfl]
    cases hsource : s.attr (.object r) "source" with
    | ok w => exact .inl ⟨w, rfl, .source h hlayer hsource⟩
    | error fault => exact .inr ⟨fault, rfl, h, hlayer, hsource⟩
  | false =>
    obtain ⟨c, attributes, args, cause, context, hr⟩ :=
      Store.get?_of_exception? (s := s) (r := r) (by rw [h]; rfl)
    rw [if_neg Bool.false_ne_true, hr]
    exact .inl ⟨_, rfl, .cause hr hlayer⟩

/-- An exception stands at its own place. -/
theorem eq_some_of_exception? {q : Ref} (h : s.exception? (.object r) = some q) : q = r := by
  obtain ⟨c, attributes, args, cause, context, hr⟩ :=
    Store.get?_of_exception? (s := s) (r := r) (by rw [h]; rfl)
  simp only [Store.exception?, hr] at h
  exact (Option.some.inj h).symm

end

/-! ## Walks -/

/-- Values along the links from a first one, none of them twice. -/
structure Walk (s : Store) (first : Value) (met : List Value) : Prop where
  head : met.head? = some first
  present : .none ∉ met
  nodup : met.Nodup
  linked : met.IsChain (Leads s)

/-- Why a walk goes no further than its last value: that value is no exception, its link leads
nowhere or back to a value of the walk, or it is a layer of context without a source, which is a
fault. -/
inductive Stops (s : Store) (met : List Value) : Value → Option Fault → Prop
  | value {last : Value} : s.exception? last = none → Stops s met last none
  | unlinked {last : Value} : Leads s last .none → Stops s met last none
  | circle {last v : Value} : Leads s last v → v ∈ met → Stops s met last none
  | sourceless {r : Ref} {fault : Fault} : Sourceless s r fault →
    Stops s met (.object r) (some fault)

/-- A walk that goes as far as it can. -/
structure Complete (s : Store) (first : Value) (met : List Value) (fault : Option Fault) : Prop
    extends Walk s first met where
  stops : ∃ last, met.getLast? = some last ∧ Stops s met last fault

section

variable {s : Store} {v : Value} {met met' : List Value} {fault fault' : Option Fault}

/-- Of two walks from one value, one goes on where the other one ends. -/
theorem begins_or_begins {rest rest' : List Value} (h : (v :: rest).IsChain (Leads s))
    (h' : (v :: rest').IsChain (Leads s)) : rest <+: rest' ∨ rest' <+: rest := by
  induction rest generalizing v rest' with
  | nil => exact .inl List.nil_prefix
  | cons w rest ih =>
    cases rest' with
    | nil => exact .inr List.nil_prefix
    | cons w' rest' =>
      obtain ⟨hw, hrest⟩ := List.isChain_cons_cons.mp h
      obtain ⟨hw', hrest'⟩ := List.isChain_cons_cons.mp h'
      obtain rfl := hw.unique hw'
      exact (ih hrest hrest').imp (List.cons_prefix_cons.mpr ⟨rfl, ·⟩)
        (List.cons_prefix_cons.mpr ⟨rfl, ·⟩)

/-- Nothing comes behind the last value of a walk that goes as far as it can. -/
theorem Complete.eq_of_begins (h : Complete s v met fault) (h' : Walk s v met')
    (hbegins : met <+: met') : met = met' := by
  obtain ⟨more, rfl⟩ := hbegins
  obtain ⟨last, hlast, hstops⟩ := h.stops
  cases more with
  | nil => rw [List.append_nil]
  | cons w more =>
    exfalso
    have hleads : Leads s last w := (List.isChain_append.mp h'.linked).2.2 last hlast w rfl
    cases hstops with
    | value hvalue => exact hleads.exception hvalue
    | unlinked hnone =>
      cases hleads.unique hnone
      exact h'.present (List.mem_append_right _ List.mem_cons_self)
    | circle hback hmem =>
      cases hleads.unique hback
      exact (List.nodup_append.mp h'.nodup).2.2 _ hmem _ List.mem_cons_self rfl
    | sourceless hno => exact hno.not_leads hleads

/-- Where a walk stops decides whether it ends with a fault. -/
theorem Stops.unique {last : Value} (h : Stops s met last fault) (h' : Stops s met last fault') :
    fault = fault' := by
  cases h with
  | sourceless hno =>
    cases h' with
    | sourceless hno' => rw [Except.error.inj (hno.missing.symm.trans hno'.missing)]
    | value hvalue => rw [hno.exception] at hvalue; cases hvalue
    | unlinked hleads => exact absurd hleads hno.not_leads
    | circle hleads => exact absurd hleads hno.not_leads
  | value hvalue =>
    cases h' with
    | sourceless hno => rw [hno.exception] at hvalue; cases hvalue
    | _ => rfl
  | unlinked hleads =>
    cases h' with
    | sourceless hno => exact absurd hleads hno.not_leads
    | _ => rfl
  | circle hleads =>
    cases h' with
    | sourceless hno => exact absurd hleads hno.not_leads
    | _ => rfl

/-- From every value there is one walk at most that goes as far as it can. -/
theorem Complete.unique (h : Complete s v met fault) (h' : Complete s v met' fault') :
    met = met' ∧ fault = fault' := by
  have heq : met = met' := by
    obtain ⟨rest, rfl⟩ := List.head?_eq_some_iff.mp h.head
    obtain ⟨rest', rfl⟩ := List.head?_eq_some_iff.mp h'.head
    rcases begins_or_begins h.linked h'.linked with hbegins | hbegins
    · exact h.eq_of_begins h'.toWalk (List.cons_prefix_cons.mpr ⟨rfl, hbegins⟩)
    · exact (h'.eq_of_begins h.toWalk (List.cons_prefix_cons.mpr ⟨rfl, hbegins⟩)).symm
  subst heq
  obtain ⟨last, hlast, hstops⟩ := h.stops
  obtain ⟨last', hlast', hstops'⟩ := h'.stops
  cases hlast.symm.trans hlast'
  exact ⟨rfl, hstops.unique hstops'⟩

end

/-! ## Walking step by step -/

/-- Walking on from a value when some exceptions have been met already. -/
inductive Walks (s : Store) : List Ref → Value → List Value → Option Fault → Prop
  | none {seen : List Ref} : Walks s seen .none [] none
  | again {seen : List Ref} {r : Ref} : r ∈ seen → Walks s seen (.object r) [] none
  | value {seen : List Ref} {v : Value} : v ≠ .none → (∀ r ∈ seen, v ≠ .object r) →
    s.exception? v = none → Walks s seen v [v] none
  | sourceless {seen : List Ref} {r : Ref} {fault : Fault} : r ∉ seen → Sourceless s r fault →
    Walks s seen (.object r) [.object r] (some fault)
  | step {seen : List Ref} {r : Ref} {v : Value} {met : List Value} {fault : Option Fault} :
    r ∉ seen → Leads s (.object r) v → Walks s (r :: seen) v met fault →
    Walks s seen (.object r) (.object r :: met) fault

namespace Walks

variable {s : Store} {seen : List Ref} {v : Value} {met : List Value} {fault : Option Fault}

/-- A walk starts with its value, unless there is nothing to walk on from. -/
theorem head (h : Walks s seen v met fault) :
    met.head? = some v ∨
      met = [] ∧ fault = Option.none ∧ (v = .none ∨ ∃ r ∈ seen, v = .object r) := by
  cases h with
  | none => exact .inr ⟨rfl, rfl, .inl rfl⟩
  | again hr => exact .inr ⟨rfl, rfl, .inr ⟨_, hr, rfl⟩⟩
  | _ => exact .inl rfl

theorem present (h : Walks s seen v met fault) : .none ∉ met := by
  induction h with
  | none => exact List.not_mem_nil
  | again => exact List.not_mem_nil
  | value hv => simpa using hv.symm
  | sourceless => simp
  | step _ _ _ ih => simpa using ih

/-- None of the exceptions that have been met comes again. -/
theorem fresh (h : Walks s seen v met fault) : ∀ r ∈ seen, .object r ∉ met := by
  induction h with
  | none => exact fun _ _ => List.not_mem_nil
  | again => exact fun _ _ => List.not_mem_nil
  | value _ hnew => exact fun r hr hmem => hnew r hr (List.mem_singleton.mp hmem).symm
  | sourceless hr =>
    intro q hq hmem
    cases List.mem_singleton.mp hmem
    exact hr hq
  | step hr _ _ ih =>
    intro q hq hmem
    rcases List.mem_cons.mp hmem with heq | hmem
    · cases heq
      exact hr hq
    · exact ih q (List.mem_cons_of_mem _ hq) hmem

theorem nodup (h : Walks s seen v met fault) : met.Nodup := by
  induction h with
  | none => exact List.nodup_nil
  | again => exact List.nodup_nil
  | value => exact List.nodup_singleton _
  | sourceless => exact List.nodup_singleton _
  | step _ _ hrest ih => exact List.nodup_cons.mpr ⟨hrest.fresh _ List.mem_cons_self, ih⟩

theorem linked (h : Walks s seen v met fault) : met.IsChain (Leads s) := by
  induction h with
  | none => exact .nil
  | again => exact .nil
  | value => exact .singleton _
  | sourceless => exact .singleton _
  | step _ hleads hrest ih =>
    refine ih.cons fun w hw => ?_
    rcases hrest.head with hhead | ⟨rfl, -⟩
    · cases hhead.symm.trans hw
      exact hleads
    · cases hw

/-- A walk stops where it can go no further, the exceptions met before it included. -/
theorem stops (h : Walks s seen v met fault) (hsome : met ≠ []) :
    ∃ last, met.getLast? = some last ∧ Stops s (seen.map .object ++ met) last fault := by
  induction h with
  | none => exact absurd rfl hsome
  | again => exact absurd rfl hsome
  | value _ _ hvalue => exact ⟨_, rfl, .value hvalue⟩
  | sourceless _ hno => exact ⟨_, rfl, .sourceless hno⟩
  | @step seen r v met fault hr hleads hrest ih =>
    cases met with
    | nil =>
      refine ⟨_, rfl, ?_⟩
      rcases hrest.head with hhead | ⟨-, rfl, rfl | ⟨q, hq, rfl⟩⟩
      · cases hhead
      · exact .unlinked hleads
      · refine .circle hleads ?_
        rcases List.mem_cons.mp hq with rfl | hq
        · exact List.mem_append_right _ List.mem_cons_self
        · exact List.mem_append_left _ (List.mem_map_of_mem hq)
    | cons w met =>
      obtain ⟨last, hlast, hstops⟩ := ih (List.cons_ne_nil _ _)
      refine ⟨last, by rw [List.getLast?_cons_cons, hlast], ?_⟩
      cases hstops with
      | value hvalue => exact .value hvalue
      | unlinked hnone => exact .unlinked hnone
      | circle hback hmem =>
        refine .circle hback ?_
        simp only [List.map_cons, List.cons_append, List.mem_cons, List.mem_append] at hmem ⊢
        tauto
      | sourceless hno => exact .sourceless hno

/-- A walk from the beginning is one that goes as far as it can. -/
theorem complete (hv : v ≠ .none) (h : Walks s [] v met fault) : Complete s v met fault := by
  have hhead : met.head? = some v := by
    rcases h.head with hhead | ⟨-, -, rfl | ⟨r, hr, -⟩⟩
    · exact hhead
    · exact absurd rfl hv
    · cases hr
  refine ⟨⟨hhead, h.present, h.nodup, h.linked⟩, h.stops ?_⟩
  rintro rfl
  cases hhead

end Walks

/-! ## The layers of a failure -/

/-- Different places at which there are objects are no more than objects. -/
theorem length_le_of_places {s : Store} {places : List Ref} (hnodup : places.Nodup)
    (hplaces : ∀ r ∈ places, r.index < s.objects.size) : places.length ≤ s.objects.size := by
  have hindices : (places.map Ref.index).Nodup :=
    List.Nodup.map (fun ⟨_⟩ ⟨_⟩ heq => congrArg Ref.mk heq) hnodup
  have hsub : ∀ i ∈ places.map Ref.index, i ∈ List.range s.objects.size := by
    intro i hi
    obtain ⟨r, hr, rfl⟩ := List.mem_map.mp hi
    exact List.mem_range.mpr (hplaces r hr)
  simpa using (List.subperm_of_subset hindices hsub).length_le

theorem layersWithin_none (s : Store) (seen : List Ref) (steps : Nat) :
    layersWithin s seen .none steps = ⟨[], none⟩ := by
  cases steps <;> rfl

/-- Taking layers is walking, as long as there are more steps than objects that have not been met.
-/
theorem walks_layersWithin {s : Store} {seen : List Ref} {v : Value} {steps : Nat}
    (hnodup : seen.Nodup) (hseen : ∀ r ∈ seen, r.index < s.objects.size)
    (hsteps : s.objects.size < seen.length + steps) :
    Walks s seen v (layersWithin s seen v steps).layers (layersWithin s seen v steps).fault := by
  induction steps generalizing seen v with
  | zero =>
    have := length_le_of_places hnodup hseen
    omega
  | succ steps ih =>
    cases v with
    | none => exact .none
    | object r =>
      rw [layersWithin]
      split
      next hmet => exact .again (by simpa using hmet)
      next hmet =>
        have hnew : r ∉ seen := by simpa using hmet
        cases hexception : s.exception? (.object r) with
        | none =>
          simp only [next_of_value hexception, layersWithin_none]
          refine .value (by simp) (fun q hq heq => ?_) hexception
          cases heq
          exact hnew hq
        | some q =>
          obtain rfl := eq_some_of_exception? hexception
          rcases cases_of_next hexception with ⟨w, hnext, hleads⟩ | ⟨fault, hnext, hno⟩
          · simp only [hnext]
            -- The exception is an object of the store, so one object less is left.
            obtain ⟨_, _, _, _, _, hr⟩ :=
              Store.get?_of_exception? (s := s) (r := q) (by rw [hexception]; rfl)
            refine .step hnew hleads (ih (List.nodup_cons.mpr ⟨hnew, hnodup⟩) ?_ ?_)
            · exact List.forall_mem_cons.mpr ⟨Store.index_lt_of_get? hr, hseen⟩
            · rw [List.length_cons]
              omega
          · simp only [hnext]
            exact .sourceless hnew hno
    | _ => exact .value (by simp) (fun _ _ => by simp) rfl

theorem walks_layers (s : Store) (v : Value) :
    Walks s [] v (layers s v).layers (layers s v).fault :=
  walks_layersWithin List.nodup_nil (by simp) (by simp)

/-- The layers of a failure are the walk from it that goes as far as it can. -/
theorem layers_eq_iff {s : Store} {v : Value} (hv : v ≠ .none) {met : List Value}
    {fault : Option Fault} : layers s v = ⟨met, fault⟩ ↔ Complete s v met fault := by
  have hcomplete := (walks_layers s v).complete hv
  constructor
  · intro h
    rwa [h] at hcomplete
  · intro h
    obtain ⟨hmet, hfault⟩ := hcomplete.unique h
    rw [← hmet, ← hfault]

/-! ## The root and the report -/

/-- The texts of layers one below the other: those below the first one are numbered from zero on. -/
def reportText : List String → String
  | [] => ""
  | [head] => head
  | head :: causes => "\n".intercalate
    ([head, "", "Caused by:"] ++ causes.mapIdx fun i text => s!"    {i}: " ++ text)

theorem causeLines_eq (s : Store) (number : Nat) (vs : List Value) :
    causeLines s number vs = (vs.mapM s.str).map fun texts =>
      texts.mapIdx fun i text => s!"    {number + i}: " ++ text := by
  induction vs generalizing number with
  | nil => rfl
  | cons v rest ih =>
    rw [causeLines, List.mapM_cons]
    cases s.str v with
    | error fault => rfl
    | ok text =>
      have hshift : ∀ i, number + 1 + i = number + (i + 1) := fun i => by omega
      simp only [ih, hshift, bind, Except.bind]
      cases rest.mapM s.str with
      | error fault => rfl
      | ok texts => simp [Except.map, pure, Except.pure, List.mapIdx_cons]

/-- The root is the last layer. -/
theorem root_eq {s : Store} {v last : Value} {met : List Value} (h : layers s v = ⟨met, none⟩)
    (hlast : met.getLast? = some last) : root s v = .ok last := by
  rw [root, h]
  simp only [Layers.all, bind, Except.bind, pure, Except.pure, List.getLastD_eq_getLast?, hlast,
    Option.getD_some]

/-- The report lists the texts of all layers. -/
theorem report_eq {s : Store} {v first : Value} {rest : List Value}
    (h : layers s v = ⟨first :: rest, none⟩) :
    report s v = ((first :: rest).mapM s.str).map reportText := by
  rw [report, h, List.mapM_cons]
  dsimp only [Layers.all, bind, Except.bind]
  cases s.str first with
  | error fault => rfl
  | ok head =>
    cases rest with
    | nil => rfl
    | cons v rest =>
      dsimp only [List.isEmpty_cons]
      rw [causeLines_eq, if_neg Bool.false_ne_true]
      simp only [Nat.zero_add, List.mapM_cons]
      cases s.str v with
      | error fault => rfl
      | ok text =>
        dsimp only [bind, Except.bind, pure, Except.pure]
        cases rest.mapM s.str with
        | error fault => rfl
        | ok texts => rfl

/-- **The chain of a failure is exact on every graph of objects.**  The layers from a layer of
context on are the walk along the links that goes as far as it can: it starts with that layer,
nothing comes twice, each value is what the one before leads to, and it ends with the first value
that is no exception, whose link is none, or whose link leads back to a value of the walk.  There is
no other such walk.  The root is its last value, and the report lists the texts of all its values.

The one fault that can be met is a layer of context that has no source at all.  Where every layer
has one, there is no fault. -/
theorem chain_exact_on_every_graph {s : Store} {v : Value}
    (hv : s.isInstance v Standard.contextError) :
    ∃ met fault, layers s v = ⟨met, fault⟩ ∧ Complete s v met fault ∧
      (∀ met' fault', Complete s v met' fault' → met' = met ∧ fault' = fault) ∧
      ((∀ r, s.isInstance (.object r) Standard.contextError →
        ∃ source, s.attr (.object r) "source" = .ok source) → fault = none) ∧
      (fault = none → (∃ last, met.getLast? = some last ∧ root s v = .ok last) ∧
        report s v = (met.mapM s.str).map reportText) ∧
      ∀ problem, fault = some problem →
        root s v = .error problem ∧ report s v = .error problem := by
  have hsome : v ≠ .none := by
    rintro rfl
    cases hv
  obtain ⟨⟨met, fault⟩, hlayers⟩ : ∃ found, layers s v = found := ⟨_, rfl⟩
  have hcomplete := (layers_eq_iff hsome).mp hlayers
  obtain ⟨rest, rfl⟩ := List.head?_eq_some_iff.mp hcomplete.head
  obtain ⟨last, hlast, hstops⟩ := hcomplete.stops
  refine ⟨_, fault, hlayers, hcomplete, fun _ _ h => h.unique hcomplete, fun hsources => ?_,
    fun hfault => ⟨⟨last, hlast, ?_⟩, ?_⟩, fun problem hfault => ?_⟩
  · cases hstops with
    | sourceless hno =>
      obtain ⟨source, hsource⟩ := hsources _ hno.layer
      cases hno.missing.symm.trans hsource
    | _ => rfl
  · subst hfault
    exact root_eq hlayers hlast
  · subst hfault
    exact report_eq hlayers
  · subst hfault
    rw [root, report, hlayers]
    exact ⟨rfl, rfl⟩

/-- Two exceptions in a circle: a layer of context and its source, the cause of which is that layer.
The chain meets each of them once. -/
theorem circle_met_once :
    let s : Store := ⟨#[⟨Standard.contextError,
        [("context", .str .fresh "context"), ("source", .object ⟨1⟩)],
        .exception [.str .fresh "context"] (some ⟨1⟩) none⟩,
      ⟨Standard.valueError, [], .exception [.str .fresh "first"] (some ⟨0⟩) none⟩], #[], #[]⟩
    s.isInstance (.object ⟨0⟩) Standard.contextError = true ∧
      layers s (.object ⟨0⟩) = ⟨[.object ⟨0⟩, .object ⟨1⟩], none⟩ ∧
      root s (.object ⟨0⟩) = .ok (.object ⟨1⟩) ∧
      report s (.object ⟨0⟩) = .ok "context\n\nCaused by:\n    0: first" := by
  intro s
  have hlayer : s.isInstance (.object ⟨0⟩) Standard.contextError = true := rfl
  obtain ⟨met, fault, hlayers, -, -, -, hended, -⟩ := chain_exact_on_every_graph hlayer
  have hmet : layers s (.object ⟨0⟩) = ⟨[.object ⟨0⟩, .object ⟨1⟩], none⟩ := rfl
  cases hlayers.symm.trans hmet
  obtain ⟨⟨last, hlast, hroot⟩, hreport⟩ := hended rfl
  cases hlast
  exact ⟨hlayer, hlayers, hroot, hreport.trans rfl⟩

end FaultContext.Chain
