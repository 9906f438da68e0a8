/-
# FaultContext.Proofs.Resolving -- what resolving a type can do.

Resolving the binding of a type asks rules, writes traces and warnings, and remembers the answer.
Left to itself it never handles an exception, and it never touches an object that there was: what it
raises is new.  Only rules and a fallback of the program, which are called, can do anything else
(`BindingSet.Consults`).

All this holds of a few kinds of steps and survives sequencing (`Eval.Plain`), so it is enough to
see that resolving is made of them and of these calls.  What holds of the calls, in the worlds in
which they are made, then holds of resolving.
-/
import FaultContext.Binding.Resolution
import FaultContext.Proofs.Isolation

namespace FaultContext

open Eval

namespace Eval

/-- From a world on, a computation looks at the world, changes what is no object, adds objects
without links, raises new exceptions, and apart from that makes calls of a certain kind only. -/
inductive Plain (handled : Option Ref) (calls : World → Eval Value → Prop) :
    {α : Type} → Eval α → World → Prop
  | pure {α : Type} (a : α) (w : World) : Plain handled calls (pure a : Eval α) w
  | bind {α β : Type} {m : Eval α} {f : α → Eval β} {w : World} : Plain handled calls m w →
    (∀ a w', m.run handled w = (.ok a, w') → Plain handled calls (f a) w') →
    Plain handled calls (m >>= f) w
  | reading {α : Type} (f : World → α) {h : World.Unaware f} (w : World) :
    Plain handled calls (reading f h) w
  | changeRest {f : World → World} {h : ∀ w : World, w.Same (f w)}
    {hf : World.Steady fun w => ((), f w)} (w : World) : Plain handled calls (changeRest f h hf) w
  | thenChange {α β : Type} {m : Eval α} {change : α → World → β × World}
    {h : ∀ {handled : Option Ref} {w w' : World} {a : α}, m.run handled w = (.ok a, w') →
      w'.Keeps (change a w').2} {hsteady : ∀ a, World.Steady (change a)} {w : World} :
    Plain handled calls m w → (∀ a w, (change a w).2.store = w.store) →
    Plain handled calls (thenChange m change h hsteady) w
  | new {o : Object} (w : World) : (∀ s link, o.follow? s link = none) →
    Plain handled calls (new o) w
  | fault {α : Type} (f : Fault) (w : World) : Plain handled calls (fault f : Eval α) w
  | raiseAnew {α : Type} (complaint : Complaint) (w : World) :
    Plain handled calls (raiseAnew complaint : Eval α) w
  | call {m : Eval Value} {w : World} : calls w m → Plain handled calls m w

/-- The calls of a computation that makes none. -/
def noCalls (_ : World) (_ : Eval Value) : Prop := False

namespace Plain

variable {α β : Type} {handled : Option Ref} {calls : World → Eval Value → Prop}

theorem store_bind {f : Store → Eval β} {w : World} (h : Plain handled calls (f w.store) w) :
    Plain handled calls (Eval.store >>= f) w :=
  .bind (.reading _ w) fun s w' hread => by
    cases hread
    exact h

theorem lift (r : Except Fault α) (w : World) : Plain handled calls (lift r) w := by
  cases r with
  | ok a => exact .pure a w
  | error f => exact .fault f w

theorem str (v : Value) (w : World) : Plain handled calls (str v) w := store_bind (.lift _ w)

theorem repr (v : Value) (w : World) : Plain handled calls (repr v) w := store_bind (.lift _ w)

theorem raiseNew (c : Standard) (message : String) (w : World) :
    Plain handled calls (raiseNew c message : Eval α) w := .raiseAnew _ w

theorem trace {message : Eval String} {w : World} (h : Plain handled calls message w) :
    Plain handled calls (trace message) w := by
  refine .bind (.reading _ w) fun tracing w' hread => ?_
  cases hread
  split
  · exact .bind h fun _ w' _ => .changeRest w'
  · exact .pure _ w

/-- Such a computation handles an exception only where a call does. -/
theorem direct {m : Eval α} {w : World} (h : Plain handled calls m w)
    (hcalls : ∀ w m, calls w m → m.Direct handled w) : m.Direct handled w := by
  induction h with
  | bind _ _ ihm ihf => exact ⟨ihm, ihf⟩
  | thenChange _ _ ih => exact ih
  | raiseAnew => exact ⟨trivial, fun _ _ _ => trivial⟩
  | call h => exact hcalls _ _ h
  | _ => trivial

theorem direct_of_noCalls {m : Eval α} {w : World} (h : Plain handled noCalls m w) :
    m.Direct handled w :=
  h.direct fun _ _ h => h.elim

end Plain

/-- A computation changes no link of an object that there was, and what it raises is new. -/
def Tidy (m : Eval α) (handled : Option Ref) (w : World) : Prop :=
  ∀ ended w', m.run handled w = (ended, w') → w.store.NewLinks w'.store handled ∧
    ∀ x, ended = .error (.raised x) → w.store.get? x = none

theorem tidy_raiseAnew (complaint : Complaint) (handled : Option Ref) (w : World) :
    (raiseAnew complaint : Eval α).Tidy handled w := by
  intro ended w' hrun
  rw [run_raiseAnew] at hrun
  cases hrun
  refine ⟨(w.store.newLinks_insert handled (Store.follow?_exception _ _)).raising
    w.store.get?_free, ?_⟩
  rintro x ⟨⟩
  exact w.store.get?_free

/-- So does such a computation, if all calls do. -/
theorem Plain.tidy {handled : Option Ref} {calls : World → Eval Value → Prop} {m : Eval α}
    {w : World} (h : Plain handled calls m w) (hcalls : ∀ w m, calls w m → m.Tidy handled w) :
    m.Tidy handled w := by
  induction h with
  | @bind _ _ m f w _ _ ihm ihf =>
    -- The exception comes from the first step that does not succeed, and is new at that point.
    intro ended w' hrun
    rcases hm : m.run handled w with ⟨signal | a, between⟩
    · rw [run_bind_of_error hm] at hrun
      cases hrun
      obtain ⟨hlinks, hnew⟩ := ihm _ _ hm
      refine ⟨hlinks, ?_⟩
      rintro x ⟨⟩
      exact hnew x rfl
    · rw [run_bind_of_ok hm] at hrun
      obtain ⟨hlinks, -⟩ := ihm _ _ hm
      obtain ⟨hlinks', hnew⟩ := ihf a between hm _ _ hrun
      exact ⟨hlinks.trans hlinks', fun x hx => hlinks.kept.get?_eq_none (hnew x hx)⟩
  | @thenChange _ _ m change _ _ w _ hstore ih =>
    intro ended w' hrun
    simp only [Eval.thenChange] at hrun
    rcases hm : m.run handled w with ⟨signal | a, between⟩ <;> rw [hm] at hrun <;> cases hrun
    · obtain ⟨hlinks, hnew⟩ := ih _ _ hm
      refine ⟨hlinks, ?_⟩
      rintro x ⟨⟩
      exact hnew x rfl
    · rw [hstore]
      exact ⟨(ih _ _ hm).1, fun _ h => by cases h⟩
  | @changeRest f h _ w =>
    rintro ended w' ⟨⟩
    rw [(h w).store]
    exact ⟨.refl _ _, fun _ h => by cases h⟩
  | new w ho =>
    rintro ended w' ⟨⟩
    exact ⟨w.store.newLinks_insert handled ho, fun _ h => by cases h⟩
  | fault f w =>
    rintro ended w' ⟨⟩
    obtain ⟨hnew, hlinks⟩ := w.store.newLinks_exceptionOf handled f
    refine ⟨hlinks, ?_⟩
    rintro x ⟨⟩
    exact hnew
  | raiseAnew complaint w => exact tidy_raiseAnew complaint handled w
  | call h => exact hcalls _ _ h
  | _ =>
    rintro ended w' ⟨⟩
    exact ⟨.refl _ _, fun _ h => by cases h⟩

theorem Plain.tidy_of_noCalls {handled : Option Ref} {m : Eval α} {w : World}
    (h : Plain handled noCalls m w) : m.Tidy handled w :=
  h.tidy fun _ _ h => h.elim

end Eval

/-! ## Calls of rules and of the fallback -/

/-- The calls that resolving a type may come to: those of the rules of the program, which are called
with the type and the set, and that of the fallback, which is called with the type. -/
inductive BindingSet.Consults (set : BindingSet) (engine : Engine) (id : Nat) (type : Value) :
    Eval Value → Prop
  | rule {f : Value} : .program f ∈ set.rules ∨ .program f ∈ set.conventions →
    Consults set engine id type (engine.call f [] [("typ", type), ("ctx", .bindings id)])
  | fallback {f : Value} : set.fallback = .program f →
    Consults set engine id type (engine.call f [type] [])

/-- A set that answers on its own calls nothing. -/
theorem BindingSet.not_consults {set : BindingSet} (h : set.isIndependent) {engine : Engine}
    {id : Nat} {type : Value} {m : Eval Value} : ¬ set.Consults engine id type m := by
  obtain ⟨hrules, hconventions, hfallback⟩ := set.isIndependent_iff.mp h
  rintro (hrule | hrule)
  · rcases hrule with hrule | hrule
    · cases hrules _ hrule
    · cases hconventions _ hrule
  · rw [hrule] at hfallback
    cases hfallback

/-- The calls that resolving a type from a world on may come to, in the worlds in which they are
made. -/
def World.Consults (w : World) (engine : Engine) (id : Nat) (type : Value) (u : World)
    (m : Eval Value) : Prop :=
  w.Keeps u ∧ (w.bindingSet id).Consults engine id type m

/-- A set has the same rules and the same fallback from then on. -/
theorem World.Keeps.rules_bindingSet {w u : World} (h : w.Keeps u) (id : Nat) :
    (u.bindingSet id).rules = (w.bindingSet id).rules ∧
      (u.bindingSet id).conventions = (w.bindingSet id).conventions ∧
      (u.bindingSet id).fallback = (w.bindingSet id).fallback :=
  ⟨(congrArg BindingSet.rules (h.core_bindingSet id) :),
    (congrArg BindingSet.conventions (h.core_bindingSet id) :),
    (congrArg BindingSet.fallback (h.core_bindingSet id) :)⟩

theorem World.Consults.earlier {w u u' : World} {engine : Engine} {id : Nat} {type : Value}
    {m : Eval Value} (h : u.Consults engine id type u' m) (hu : w.Keeps u) :
    w.Consults engine id type u' m := by
  obtain ⟨hrules, hconventions, hfallback⟩ := hu.rules_bindingSet id
  refine ⟨hu.trans h.1, ?_⟩
  rcases h.2 with hrule | hf
  · exact .rule (by rwa [hrules, hconventions] at hrule)
  · exact .fallback (hfallback ▸ hf)

namespace Resolution

section Steps

variable {handled : Option Ref} {calls : World → Eval Value → Prop}

theorem plain_warnUnhashable (type : Value) (w : World) :
    (warnUnhashable type).Plain handled calls w := by
  refine .store_bind ?_
  split
  · exact .pure _ w
  · exact .bind (.str type w) fun _ w' _ => .bind (.changeRest w') fun _ w' _ => .pure _ w'

theorem plain_recallIn (id : Nat) (type : Value) (w : World) :
    (recallIn id type).Plain handled calls w := by
  refine .bind (.reading _ w) fun set w' _ =>
    .bind (plain_warnUnhashable type w') fun unhashable w' _ => ?_
  split
  · exact .pure _ w'
  · exact .bind (.reading _ w') fun _ w' _ => .bind (.reading _ w') fun _ w' _ => .pure _ w'

theorem plain_note (type : Value) (what : String) (w : World) :
    (note type what).Plain handled calls w :=
  .trace (.bind (.repr type w) fun _ w' _ => .pure _ w')

theorem plain_refuse {α : Type} (type : Value) (refusal : Registry.Refusal) (w : World) :
    (refuse type refusal : Eval α).Plain handled calls w := by
  have hlate : ∀ f, (failAfterSearch type f : Eval α).Plain handled calls w := fun f =>
    .store_bind (.bind (.new w fun _ link => by cases link <;> rfl) fun _ w' _ => .fault _ w')
  cases refusal <;> rw [refuse] <;> first | exact hlate _ | exact .fault _ w

theorem plain_askRegistry (registry : Registry) (type : Value) (w : World) :
    (askRegistry registry type).Plain handled calls w := by
  refine .store_bind ?_
  split
  · exact .pure _ w
  · exact .pure _ w
  · exact .pure _ w
  · exact plain_refuse type _ w

theorem plain_answered (answer : Except Complaint (Option Binding)) (w : World) :
    (answered answer).Plain handled calls w := by
  cases answer with
  | ok found => exact .pure found w
  | error complaint => exact .raiseAnew complaint w

theorem plain_ruleName (rule : Rule) (w : World) : (ruleName rule).Plain handled calls w := by
  cases rule with
  | program f =>
    refine .bind (.repr f w) fun text w' _ => .store_bind ?_
    split <;> exact .pure _ w'
  | _ => exact .pure _ w

theorem plain_ruleNames (rules : List Rule) (w : World) :
    (ruleNames rules).Plain handled calls w := by
  induction rules generalizing w with
  | nil => exact .pure _ w
  | cons rule rest ih =>
    exact .bind (plain_ruleName rule w) fun _ w' _ => .bind (ih w') fun _ w' _ => .pure _ w'

theorem plain_joinable (k : Nat) (names : List Value) (w : World) :
    (TextMethod.joinable k names).Plain handled calls w := by
  induction names generalizing k w with
  | nil => exact .pure _ w
  | cons v rest ih =>
    refine .bind ?_ fun _ w' _ => .bind (ih (k + 1) w') fun _ w' _ => .pure _ w'
    cases v with
    | str => exact .pure _ w
    | _ => exact .store_bind (.fault _ w)

theorem plain_ambiguous {α : Type} (type : Value) (rules : List Rule) (w : World) :
    (ambiguous type rules : Eval α).Plain handled calls w :=
  .bind (plain_ruleNames rules w) fun _ w' _ => .bind (plain_joinable 0 _ w') fun _ w' _ =>
    .bind (.repr type w') fun _ w' _ => .raiseNew _ _ w'

end Steps

section Resolving

variable {engine : Engine} {id : Nat} {type : Value} {handled : Option Ref} {w₀ u : World}

theorem plain_ask {rule : Rule} (hu : w₀.Keeps u)
    (hrule : rule ∈ (w₀.bindingSet id).rules ∨ rule ∈ (w₀.bindingSet id).conventions) :
    (ask engine id type rule).Plain handled (w₀.Consults engine id type) u := by
  cases rule with
  | contextMethod => exact .store_bind (.pure _ u)
  | registered => exact .bind (.reading _ u) fun _ w _ => plain_askRegistry _ type w
  | chained => exact .pure _ u
  | noted => exact .pure _ u
  | function name answers => exact .bind (.reading _ u) fun _ w _ => plain_answered _ w
  | program f => exact .bind (.call ⟨hu, .rule hrule⟩) fun _ w _ => .pure _ w

theorem plain_claim {rules : List Rule} (hu : w₀.Keeps u)
    (hrules : ∀ rule ∈ rules,
      rule ∈ (w₀.bindingSet id).rules ∨ rule ∈ (w₀.bindingSet id).conventions) :
    (claim engine id type rules).Plain handled (w₀.Consults engine id type) u := by
  have hall : (askAll engine id type rules).Plain handled (w₀.Consults engine id type) u := by
    induction rules generalizing u with
    | nil => exact .pure _ u
    | cons rule rest ih =>
      obtain ⟨hrule, hrest⟩ := List.forall_mem_cons.mp hrules
      refine .bind (plain_ask hu hrule) fun found w hfound => ?_
      have hw := hu.trans (keeps_of_run hfound)
      split
      · exact .bind (ih hw hrest) fun _ w _ => .pure _ w
      · exact ih hw hrest
  refine .bind hall fun claims w _ => ?_
  split
  · exact .pure _ w
  · exact .pure _ w
  · exact plain_ambiguous type _ w

theorem plain_fallback (hu : w₀.Keeps u) :
    (fallback engine id type).Plain handled (w₀.Consults engine id type) u := by
  refine .bind (.reading _ u) fun set w hset => ?_
  cases hset
  rw [(hu.rules_bindingSet id).2.2]
  split
  · exact .bind (.repr type u) fun _ w _ => .raiseNew _ _ w
  · exact .bind (.reading _ u) fun _ w _ => plain_answered _ w
  next f hf => exact .bind (.call ⟨hu, .fallback hf⟩) fun _ w _ => .pure _ w

theorem plain_compute (hu : w₀.Keeps u) :
    (compute engine id type).Plain handled (w₀.Consults engine id type) u := by
  refine .bind (.reading _ u) fun set w hset => ?_
  cases hset
  obtain ⟨hrules, hconventions, -⟩ := hu.rules_bindingSet id
  rw [hrules, hconventions]
  refine .bind (plain_claim hu fun _ => .inl) fun found w hfound => ?_
  split
  · exact .pure _ w
  · have hw := hu.trans (keeps_of_run hfound)
    refine .bind (plain_claim hw fun _ => .inr) fun found w' hfound => ?_
    split
    · exact .pure _ w'
    · have hw' := hw.trans (keeps_of_run hfound)
      exact .bind (plain_note type _ w') fun _ w hnote =>
        plain_fallback (hw'.trans (keeps_of_run hnote))

theorem plain_computeIn (hu : w₀.Keeps u) :
    (computeIn engine id type).Plain handled (w₀.Consults engine id type) u := by
  refine .thenChange (h := keeps_remembering) (.bind (plain_compute hu) fun _ w _ =>
    .bind (plain_note type _ w) fun _ w _ => .bind (plain_warnUnhashable type w) fun _ w _ =>
      .pure _ w) fun found w => ?_
  unfold remembering
  split <;> rfl

/-- **Resolving a type does nothing of its own** but such steps, whatever the rules are. -/
theorem plain_lookup (engine : Engine) (id : Nat) (type : Value) (handled : Option Ref)
    (w : World) : (lookup engine id type).Plain handled (w.Consults engine id type) w := by
  refine .bind (plain_note type _ w) fun _ w' hnote =>
    .bind (plain_recallIn id type w') fun found w'' hrecall => ?_
  split
  · exact .bind (plain_note type _ w'') fun _ w _ => .pure _ w
  · exact plain_computeIn ((keeps_of_run hnote).trans (keeps_of_run hrecall))

/-- It handles no exception if no rule and no fallback of the program does. -/
theorem direct_lookup {w : World} (h : ∀ u m, w.Consults engine id type u m → m.Direct handled u) :
    (lookup engine id type).Direct handled w :=
  (plain_lookup engine id type handled w).direct h

theorem tidy_lookup {w : World} (h : ∀ u m, w.Consults engine id type u m → m.Tidy handled u) :
    (lookup engine id type).Tidy handled w :=
  (plain_lookup engine id type handled w).tidy h

/-- Merging handles nothing itself if neither looking the binding up nor the binding does. -/
theorem direct_wrap {error context : Value} {w : World}
    (hlookup : (lookup engine id (.cls (w.store.classOf error))).Direct handled w)
    (h : ∀ b u, (lookup engine id (.cls (w.store.classOf error))).run handled w = (.ok b, u) →
      (apply engine b error context).Direct handled u) :
    (wrap engine id error context).Direct handled w := by
  refine ⟨trivial, fun s u hstore => ?_⟩
  cases hstore
  exact ⟨hlookup, h⟩

end Resolving
end Resolution
end FaultContext
