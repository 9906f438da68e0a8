/-
# FaultContext.Proofs.Answering -- what looking up a class ends with.

Where all rules of a set answer on their own, and so does its fallback, what becomes of a lookup can
be told from the declared classes and from what is registered (`BindingSet.outcome`): the answer, or
the class of the exception that is raised.  What is remembered makes no difference as long as it is
true, and no object is touched on the way.

A rule may refuse to be asked, and the first one that does has the say.  For the rules of the library
and a class that can be a key there is one reason for this, a registry that finds no order for the
class.

For the two standard rules, with one of the two conventions behind them or with none, the outcome is
spelled out (`BindingSet.outcome_standard`).
-/
import FaultContext.Proofs.Reach
import FaultContext.Proofs.Recalling

namespace FaultContext

open Eval

/-! ## Outcomes -/

namespace BindingSet

/-- What asking the rules of a tier about a class ends with: perhaps an answer, or an exception of
the given class. -/
def tier (set : BindingSet) (s : Store) (c : Class) (rules : List Rule) :
    Except Class (Option Binding) :=
  match set.refusal? s (.cls c) rules with
  | some problem => .error problem
  | none =>
    match set.claims s (.cls c) rules with
    | [] => .ok none
    | [b] => .ok (some b)
    | _ => .error Standard.ambiguousBinding

/-- What is answered where no rule and no convention answers, if that needs no code of the program.
-/
def resort (set : BindingSet) (c : Class) : Except Class (Option Binding) :=
  match set.fallback with
  | .function answers => (answers set.registry (.cls c)).mapError Complaint.cls
  | _ => .error Standard.missingBinding

/-- What looking up a class that can be a key ends with: an answer, or an exception of the given
class. -/
def outcome (set : BindingSet) (s : Store) (c : Class) : Except Class (Option Binding) := do
  match ← set.tier s c set.rules with
  | some b => return some b
  | none =>
    match ← set.tier s c set.conventions with
    | some b => return some b
    | none => set.resort c

variable (set : BindingSet) (s : Store) (c : Class)

theorem verdict?_eq (rules : List Rule) :
    set.verdict? s (.cls c) rules = (set.tier s c rules).toOption := by
  rw [verdict?, tier]
  rcases set.refusal? s (.cls c) rules with _ | problem
  · dsimp only
    split <;> simp_all [Except.toOption]
  · rfl

theorem answer?_fallback :
    set.fallback.answer? set.registry (.cls c) = (set.resort c).toOption.join := by
  rw [resort]
  cases set.fallback with
  | function answers =>
    dsimp only [Fallback.answer?]
    cases answers set.registry (.cls c) <;> rfl
  | _ => rfl

/-- A set has an answer exactly where looking up the class ends with it. -/
theorem answer?_eq : set.answer? s (.cls c) = (set.outcome s c).toOption.join := by
  rw [answer?, outcome, verdict?_eq, verdict?_eq]
  rcases set.tier s c set.rules with problem | _ | b
  · rfl
  · rcases set.tier s c set.conventions with problem | _ | b
    · rfl
    · exact set.answer?_fallback c
    · rfl
  · rfl

theorem outcome_core : set.core.outcome s c = set.outcome s c := rfl

/-- The outcome for a class depends on the declared classes alone. -/
theorem outcome_congr {s s' : Store} (h : s'.declarations = s.declarations) (set : BindingSet)
    (c : Class) : set.outcome s' c = set.outcome s c := by
  simp only [outcome, tier, claims, refusal?, Rule.claim?_congr h, Rule.refusal?_congr h]

end BindingSet

/-- No computation changes what becomes of looking up a class. -/
theorem World.Keeps.outcome {w w' : World} (h : w.Keeps w') (id : Nat) (c : Class) :
    (w'.bindingSet id).outcome w'.store c = (w.bindingSet id).outcome w.store c := by
  rw [← BindingSet.outcome_core, h.core_bindingSet, BindingSet.outcome_core,
    BindingSet.outcome_congr h.store.classes]

/-! ## Exceptions that are new -/

/-- A run raises a new exception of a class. -/
def RaisesNew {α : Type} (w : World) (c : Class) (ended : Except Signal α × World) : Prop :=
  ∃ x w', ended = (.error (.raised x), w') ∧ w.store.get? x = none ∧
    w'.store.label? x = some (c, []) ∧ w'.store.exception? (.object x) = some x

/-- A run raises a new exception of a standard class. -/
abbrev Raises {α : Type} (w : World) (c : Standard) (ended : Except Signal α × World) : Prop :=
  RaisesNew w c ended

/-- A run comes to an outcome: it ends with the answer, and nothing lasting has happened, or it
raises a new exception of the class. -/
inductive Comes {α : Type} (w : World) : Except Class α → Except Signal α × World → Prop
  | ok (a : α) {w' : World} : w.Same w' → Comes w (.ok a) (.ok a, w')
  | error (c : Class) {ended : Except Signal α × World} : RaisesNew w c ended →
    Comes w (.error c) ended

theorem RaisesNew.bind {α β : Type} {m : Eval α} {f : α → Eval β} {c : Class}
    {handled : Option Ref} {w start : World} (h : RaisesNew w c (m.run handled start)) :
    RaisesNew w c ((m >>= f).run handled start) := by
  obtain ⟨x, w', hrun, hx⟩ := h
  exact ⟨x, w', run_bind_of_error hrun, hx⟩

/-- What is new later on is new. -/
theorem RaisesNew.of_keeps {α : Type} {w start : World} {c : Class}
    {ended : Except Signal α × World} (h : w.Keeps start) (hraises : RaisesNew start c ended) :
    RaisesNew w c ended := by
  obtain ⟨x, w', hended, hnew, hx⟩ := hraises
  exact ⟨x, w', hended, h.store.objects.get?_eq_none hnew, hx⟩

theorem RaisesNew.unique {α : Type} {w : World} {c c' : Class} {ended : Except Signal α × World}
    (h : RaisesNew w c ended) (h' : RaisesNew w c' ended) : c' = c := by
  obtain ⟨x, w', rfl, -, hlabel, -⟩ := h
  obtain ⟨x', w'', heq, -, hlabel', -⟩ := h'
  cases heq
  cases hlabel.symm.trans hlabel'
  rfl

/-- Two runs that raise the same raise nothing else. -/
theorem RaisesNew.iff {α β : Type} {w : World} {c c' : Class} {ended : Except Signal α × World}
    {ended' : Except Signal β × World} (h : RaisesNew w c ended) (h' : RaisesNew w c ended') :
    RaisesNew w c' ended ↔ RaisesNew w c' ended' := by
  constructor
  · intro hraises
    rw [h.unique hraises]
    exact h'
  · intro hraises
    rw [h'.unique hraises]
    exact h

theorem RaisesNew.ne_ok {α : Type} {w w' : World} {c : Class} {a : α} :
    ¬RaisesNew w c (.ok a, w') := by
  rintro ⟨x, w'', heq, -⟩
  cases heq

/-- What comes to an outcome goes on from it. -/
theorem Comes.bind {α β : Type} {m : Eval α} {f : α → Eval β} {first : Except Class α}
    {next : α → Except Class β} {handled : Option Ref} {w : World}
    (hm : Comes w first (m.run handled w))
    (hf : ∀ a w', w.Same w' → Comes w' (next a) ((f a).run handled w')) :
    Comes w (first >>= next) ((m >>= f).run handled w) := by
  rcases hrun : m.run handled w with ⟨ended, w'⟩
  rw [hrun] at hm
  cases hm with
  | ok a hsame =>
    rw [run_bind_of_ok hrun]
    have hnext := hf a w' hsame
    generalize (f a).run handled w' = ended at hnext ⊢
    show Comes w (next a) ended
    generalize next a = outcome at hnext ⊢
    cases hnext with
    | ok b hsame' => exact .ok b (hsame.trans hsame')
    | error c hraises => exact .error c (hraises.of_keeps hsame.keeps)
  | error c hraises =>
    rw [← hrun] at hraises
    exact .error c hraises.bind

/-- A new exception is one of its class, without attributes. -/
theorem Store.newException_spec (s : Store) (c : Class) (args : List Value) :
    (s.newException c args []).2.label? (s.newException c args []).1 = some (c, []) ∧
      (s.newException c args []).2.exception? (.object (s.newException c args []).1) =
        some (s.newException c args []).1 := by
  simp only [newException, label?, exception?, get?_insert, Option.map_some, and_self]

theorem raises_raiseAnew {α : Type} (complaint : Complaint) (handled : Option Ref) (w : World) :
    RaisesNew w complaint.cls ((raiseAnew complaint : Eval α).run handled w) := by
  obtain ⟨hlabel, hexception⟩ := w.store.newException_spec complaint.cls complaint.args
  refine ⟨_, _, run_raiseAnew complaint, w.store.get?_free, ?_⟩
  cases handled with
  | none => exact ⟨hlabel, hexception⟩
  | some handled =>
    exact ⟨(Store.label?_recordContext _ _ _ _).trans hlabel,
      (Store.exception?_recordContext _ _ _ _).trans hexception⟩

theorem raises_raiseNew {α : Type} (c : Standard) (message : String) (handled : Option Ref)
    (w : World) : Raises w c ((raiseNew c message : Eval α).run handled w) :=
  raises_raiseAnew _ handled w

/-- The exception of a fault that follows another one is a new one. -/
theorem Store.exceptionOf_during (s : Store) (handled : Option Ref) (first second : Fault)
    (asCause : Bool) :
    s.get? (s.exceptionOf handled (.during first second asCause)).1 = none ∧
      (s.exceptionOf handled (.during first second asCause)).2.label?
        (s.exceptionOf handled (.during first second asCause)).1 =
          some (.standard second.cls, []) ∧
      (s.exceptionOf handled (.during first second asCause)).2.exception?
        (.object (s.exceptionOf handled (.during first second asCause)).1) =
          some (s.exceptionOf handled (.during first second asCause)).1 := by
  have hkeeps := s.keeps_exceptionOf handled first
  simp only [exceptionOf]
  generalize s.exceptionOf handled first = made at hkeeps ⊢
  obtain ⟨inner, s'⟩ := made
  refine ⟨hkeeps.objects.get?_eq_none s'.get?_free, ?_⟩
  rw [label?_recordContext, exception?_recordContext]
  have hmade := s'.newException_spec second.cls second.args
  split
  · rw [setCause, label?_setLinks, exception?_setLinks]
    exact hmade
  · exact hmade

namespace Resolution

/-- A dispatch that fails late raises a new exception. -/
theorem raises_failAfterSearch {α : Type} (type : Value) (f : Fault) (handled : Option Ref)
    (w : World) : Raises w f.cls ((failAfterSearch type f : Eval α).run handled w) := by
  obtain ⟨o, first, hrun⟩ : ∃ o first, (failAfterSearch type f : Eval α).run handled w =
      (fault (.during first f false)).run handled
        { w with store := (w.store.insert o).2 } := by
    rw [failAfterSearch, run_bind_of_ok run_store]
    dsimp only
    exact ⟨_, _, run_bind_of_ok (run_new _)⟩
  obtain ⟨hnew, hmade⟩ := (w.store.insert o).2.exceptionOf_during handled first f false
  exact ⟨_, _, hrun, (w.store.keeps_insert o).objects.get?_eq_none hnew, hmade⟩

/-! ## Asking rules -/

section Asking

variable (engine : Engine) {id : Nat} {c : Class} {w : World}

/-- A class that can be a key is refused by a registry for no other reason than that it has no order.
-/
theorem dispatch_of_refusal {registry : Registry} {s : Store} {problem : Class}
    (hc : s.isHashableClass c = true) (h : registry.refusal? s (.cls c) = some problem) :
    registry.dispatch s (.cls c) = .error .contradiction ∧ problem = Standard.runtimeError := by
  rw [Registry.refusal?] at h
  rw [Registry.dispatch, if_pos hc] at h ⊢
  rw [Registry.dispatchClass] at h ⊢
  split at h
  · cases h
  next problem hproblem =>
    rw [hproblem]
    split at hproblem
    · cases hproblem
    · split at hproblem
      · cases hproblem
      · cases hproblem
        cases h
        exact ⟨rfl, rfl⟩

/-- A rule that answers on its own makes its claim if it can be asked, and nothing happens. -/
theorem run_ask_of_accepts {rule : Rule} (hrule : rule.isIndependent)
    (h : rule.refusal? (w.bindingSet id).registry w.store (.cls c) = none) (handled : Option Ref) :
    (ask engine id (.cls c) rule).run handled w =
      (.ok (rule.claim? (w.bindingSet id).registry w.store (.cls c)), w) := by
  cases rule with
  | registered => exact run_askRegistry h
  | function name answers =>
    rw [ask, bindingSet, run_bind_of_ok (run_reading _ _)]
    rw [Rule.refusal?] at h
    rw [Rule.claim?]
    rcases hanswer : answers (w.bindingSet id).registry (.cls c) with complaint | found
    · rw [hanswer] at h
      cases h
    · rfl
  | program f => cases hrule
  | _ => rfl

/-- A rule that cannot be asked raises an exception. -/
theorem raises_ask {rule : Rule} {problem : Class} (hc : w.store.isHashableClass c = true)
    (h : rule.refusal? (w.bindingSet id).registry w.store (.cls c) = some problem)
    (handled : Option Ref) :
    RaisesNew w problem ((ask engine id (.cls c) rule).run handled w) := by
  cases rule with
  | registered =>
    obtain ⟨hdispatch, rfl⟩ := dispatch_of_refusal hc h
    simp only [ask, askRegistry, bindingSet, run_bind, run_reading, run_store, hdispatch]
    exact raises_failAfterSearch _ (.plain .runtimeError "Inconsistent hierarchy") handled w
  | function name answers =>
    rw [ask, bindingSet, run_bind_of_ok (run_reading _ _)]
    rw [Rule.refusal?] at h
    rcases hanswer : answers (w.bindingSet id).registry (.cls c) with complaint | found
    · rw [hanswer] at h
      cases h
      exact raises_raiseAnew complaint handled w
    · rw [hanswer] at h
      cases h
  | _ => cases h

/-- The rules of a tier are asked in turn. -/
theorem run_askAll_of_accepts {rules : List Rule} (hrules : ∀ rule ∈ rules, rule.isIndependent)
    (h : (w.bindingSet id).refusal? w.store (.cls c) rules = none) (handled : Option Ref) :
    ∃ answers, (askAll engine id (.cls c) rules).run handled w = (.ok answers, w) ∧
      ∀ answer ∈ answers, answer.1.isIndependent := by
  induction rules with
  | nil => exact ⟨_, rfl, nofun⟩
  | cons rule rest ih =>
    obtain ⟨hrule, hrest⟩ := List.forall_mem_cons.mp hrules
    rw [BindingSet.refusal?, List.findSome?_cons] at h
    split at h
    · cases h
    next hrefusal =>
      obtain ⟨answers, hall, hanswers⟩ := ih hrest h
      rw [askAll, run_bind_of_ok (run_ask_of_accepts engine hrule hrefusal handled)]
      cases rule.claim? (w.bindingSet id).registry w.store (.cls c) with
      | none => exact ⟨answers, hall, hanswers⟩
      | some b =>
        exact ⟨(rule, b) :: answers, run_bind_of_ok hall,
          List.forall_mem_cons.mpr ⟨hrule, hanswers⟩⟩

/-- They are asked until one of them refuses. -/
theorem raises_askAll {rules : List Rule} {problem : Class}
    (hrules : ∀ rule ∈ rules, rule.isIndependent) (hc : w.store.isHashableClass c = true)
    (h : (w.bindingSet id).refusal? w.store (.cls c) rules = some problem)
    (handled : Option Ref) :
    RaisesNew w problem ((askAll engine id (.cls c) rules).run handled w) := by
  induction rules with
  | nil => cases h
  | cons rule rest ih =>
    obtain ⟨hrule, hrest⟩ := List.forall_mem_cons.mp hrules
    rw [BindingSet.refusal?, List.findSome?_cons] at h
    rw [askAll]
    split at h
    next hrefusal =>
      cases h
      exact (raises_ask engine hc hrefusal handled).bind
    next hrefusal =>
      rw [run_bind_of_ok (run_ask_of_accepts engine hrule hrefusal handled)]
      cases rule.claim? (w.bindingSet id).registry w.store (.cls c) with
      | none => exact ih hrest h
      | some b => exact (ih hrest h).bind

/-- Rules that answer on their own have names, which are texts. -/
theorem run_ruleNames {rules : List Rule} (hrules : ∀ rule ∈ rules, rule.isIndependent) :
    ∃ names : List String, ∀ handled w,
      (ruleNames rules).run handled w = (.ok (names.map (.str .fresh)), w) := by
  induction rules with
  | nil => exact ⟨[], fun _ _ => rfl⟩
  | cons rule rest ih =>
    obtain ⟨hrule, hrest⟩ := List.forall_mem_cons.mp hrules
    obtain ⟨name, hname⟩ : ∃ name, ∀ handled w,
        (ruleName rule).run handled w = (.ok (.str .fresh name), w) := by
      cases rule with
      | program f => cases hrule
      | _ => exact ⟨_, fun _ _ => rfl⟩
    obtain ⟨names, hnames⟩ := ih hrest
    exact ⟨name :: names, fun handled w =>
      (run_bind_of_ok (hname handled w)).trans (run_bind_of_ok (hnames handled w))⟩

theorem run_joinable (names : List String) (k : Nat) (handled : Option Ref) :
    (TextMethod.joinable k (names.map (.str .fresh))).run handled w = (.ok names, w) := by
  induction names generalizing k with
  | nil => rfl
  | cons name rest ih => exact run_bind_of_ok (ih (k + 1))

/-- Several answers of rules that answer on their own are a diagnostic. -/
theorem raises_ambiguous {α : Type} {rules : List Rule}
    (hrules : ∀ rule ∈ rules, rule.isIndependent) (handled : Option Ref) :
    Raises w .ambiguousBinding ((ambiguous (.cls c) rules : Eval α).run handled w) := by
  obtain ⟨names, hnames⟩ := run_ruleNames hrules
  have htext : (repr (.cls c)).run handled w = (.ok (w.store.classText c), w) :=
    run_repr_of_ok rfl
  rw [ambiguous, run_bind_of_ok (hnames handled w), run_bind_of_ok (run_joinable names 0 handled),
    run_bind_of_ok htext]
  exact raises_raiseNew _ _ handled w

/-- A tier ends with what its rules come to. -/
theorem claim_comes {rules : List Rule} (hrules : ∀ rule ∈ rules, rule.isIndependent)
    (hc : w.store.isHashableClass c = true) (handled : Option Ref) :
    Comes w ((w.bindingSet id).tier w.store c rules)
      ((claim engine id (.cls c) rules).run handled w) := by
  rw [BindingSet.tier]
  split
  next problem hrefusal =>
    exact .error _ (raises_askAll engine hrules hc hrefusal handled).bind
  next haccepts =>
    obtain ⟨answers, hall, hindependent⟩ := run_askAll_of_accepts engine hrules haccepts handled
    obtain ⟨-, -, hanswers⟩ := run_askAll hrules hall
    rw [← hanswers, claim, run_bind_of_ok hall]
    match answers with
    | [] => exact .ok none (.refl w)
    | [(_, b)] => exact .ok (some b) (.refl w)
    | _ :: _ :: _ =>
      refine .error _ (raises_ambiguous (fun rule hrule => ?_) handled)
      obtain ⟨answer, hanswer, rfl⟩ := List.mem_map.mp hrule
      exact hindependent answer hanswer

/-! ## Resolving a class -/

theorem fallback_comes (hset : (w.bindingSet id).fallback.isIndependent) (c : Class)
    (handled : Option Ref) :
    Comes w ((w.bindingSet id).resort c) ((fallback engine id (.cls c)).run handled w) := by
  rw [BindingSet.resort, fallback, bindingSet, run_bind, run_reading]
  dsimp only
  cases hfallback : (w.bindingSet id).fallback with
  | missing =>
    have htext : (repr (.cls c)).run handled w = (.ok (w.store.classText c), w) :=
      run_repr_of_ok rfl
    refine .error _ ?_
    dsimp only
    rw [run_bind_of_ok htext]
    exact raises_raiseNew _ _ handled w
  | function answers =>
    dsimp only
    rw [run_bind_of_ok (run_reading _ _)]
    rcases answers (w.bindingSet id).registry (.cls c) with complaint | found
    · exact .error _ (raises_raiseAnew complaint handled w)
    · exact .ok found (.refl w)
  | program f =>
    rw [hfallback] at hset
    cases hset

/-- Resolved afresh, a class comes to its outcome. -/
theorem compute_comes (hset : (w.bindingSet id).isIndependent)
    (hc : w.store.isHashableClass c = true) (handled : Option Ref) :
    Comes w ((w.bindingSet id).outcome w.store c)
      ((compute engine id (.cls c)).run handled w) := by
  obtain ⟨hrules, hconventions, hfallback⟩ := (w.bindingSet id).isIndependent_iff.mp hset
  rw [BindingSet.outcome, compute, bindingSet, run_bind, run_reading]
  refine (claim_comes engine hrules hc handled).bind fun found w₁ hsame => ?_
  cases found with
  | some b => exact .ok _ (.refl w₁)
  | none =>
    rw [← hsame.bindingSet] at hconventions hfallback ⊢
    rw [← hsame.store] at hc ⊢
    refine (claim_comes engine hconventions hc handled).bind fun found w₂ hsame' => ?_
    cases found with
    | some b => exact .ok _ (.refl w₂)
    | none =>
      obtain ⟨w₃, hnote, hnoted⟩ := run_note (w₂.legible_cls c) handled "fallback"
      rw [← hsame'.bindingSet, ← hnoted.bindingSet] at hfallback
      have hlast := fallback_comes engine hfallback c handled
      rw [hnoted.bindingSet, hsame'.bindingSet] at hlast
      dsimp only
      rw [run_bind_of_ok hnote]
      generalize (fallback engine id (.cls c)).run handled w₃ = ended at hlast ⊢
      generalize (w₁.bindingSet id).resort c = outcome at hlast ⊢
      cases hlast with
      | ok answer hsame => exact .ok answer (hnoted.trans hsame)
      | error problem hraises => exact .error problem (hraises.of_keeps hnoted.keeps)

end Asking

variable {engine : Engine} {id : Nat} {c : Class} {w : World}

/-- What is remembered for a class is what looking it up ends with. -/
theorem outcome_of_recalled (hw : w.Truthful) (hset : (w.bindingSet id).isIndependent)
    {b : Binding} (h : w.recalled id (.cls c) = some b) :
    (w.bindingSet id).outcome w.store c = .ok (some b) := by
  obtain ⟨-, thread, key, hb, hagree⟩ := World.exists_of_recalled h
  obtain rfl := Value.eq_cls_of_kind (Store.kind_of_agree hagree)
  have hanswer := (hw id hset thread c b hb).2
  rw [BindingSet.answer?_eq] at hanswer
  cases houtcome : (w.bindingSet id).outcome w.store c with
  | error problem =>
    rw [houtcome] at hanswer
    cases hanswer
  | ok found =>
    rw [houtcome] at hanswer
    exact congrArg Except.ok hanswer

section Lookup

variable (hw : w.Truthful) (hset : (w.bindingSet id).isIndependent)
  (hc : w.store.isHashableClass c = true)
include hw hset hc

/-- **Looking up a class ends with the answer that there is for it**, and touches no object. -/
theorem run_lookup_of_outcome {found : Option Binding}
    (h : (w.bindingSet id).outcome w.store c = .ok found) (handled : Option Ref) :
    ∃ w', (lookup engine id (.cls c)).run handled w = (.ok found, w') ∧ w'.store = w.store := by
  obtain ⟨w₁, hsame, hrun⟩ := run_lookup_of_legible (w.legible_cls c) engine handled id
  rw [hrun]
  cases hrecalled : w.recalled id (.cls c) with
  | some b =>
    -- What is remembered is true, so it is this answer.
    cases h.symm.trans (outcome_of_recalled hw hset hrecalled)
    obtain ⟨w₂, hcached, hsame'⟩ := run_note (w₁.legible_cls c) handled "cached"
    exact ⟨w₂, (run_bind_of_ok hcached).trans (run_pure _), hsame'.store.trans hsame.store⟩
  | none =>
    rw [← hsame.bindingSet] at h hset
    rw [← hsame.store] at h hc
    have hcompute := compute_comes engine hset hc handled
    rw [h] at hcompute
    cases hended : (compute engine id (.cls c)).run handled w₁ with
    | mk ended w₂ =>
      rw [hended] at hcompute
      cases hcompute with
      | ok _ hsame' =>
        obtain ⟨w₃, hanswer, hstore⟩ := run_computeIn_of_compute (w₁.legible_cls c)
          ((hsame.recalled id _).trans hrecalled) hended hsame'
        exact ⟨w₃, hanswer, hstore.trans hsame.store⟩

/-- **Looking up a class that there is no answer for raises the exception that says so.** -/
theorem raises_lookup {problem : Class}
    (h : (w.bindingSet id).outcome w.store c = .error problem) (handled : Option Ref) :
    RaisesNew w problem ((lookup engine id (.cls c)).run handled w) := by
  obtain ⟨w₁, hsame, hrun⟩ := run_lookup_of_legible (w.legible_cls c) engine handled id
  rw [hrun]
  cases hrecalled : w.recalled id (.cls c) with
  | some b => cases h.symm.trans (outcome_of_recalled hw hset hrecalled)
  | none =>
    rw [← hsame.bindingSet] at h hset
    rw [← hsame.store] at h hc
    have hcompute := compute_comes engine hset hc handled
    rw [h] at hcompute
    obtain ⟨_, hraises⟩ | ⟨_, x, w', hraised, hx⟩ := hcompute
    refine RaisesNew.of_keeps hsame.keeps ⟨x, w', ?_, hx⟩
    simp only [resumed, computeIn, thenChange, computeNoted, run_bind_of_error hraised]

end Lookup

end Resolution

/-! ## The standard rules -/

/-- What the standard rules leave a failure to: one of the two blanket rules, or nothing. -/
inductive Convention where
  | off
  | chained
  | noted

namespace Convention

/-- The blanket rules. -/
def rules : Convention → List Rule
  | off => []
  | chained => [.chained]
  | noted => [.noted]

/-- What is found for a failure that is left to a convention. -/
def outcome : Convention → Except Class (Option Binding)
  | off => .error Standard.missingBinding
  | chained => .ok (some .chain)
  | noted => .ok (some .note)

end Convention

namespace BindingSet

/-- A set with the two standard rules and perhaps a convention, with nothing registered yet. -/
def standardWith (convention : Convention) (threadLocal : Bool) : BindingSet :=
  ⟨[.contextMethod, .registered], convention.rules, .missing, Cache.empty threadLocal,
    Registry.initial⟩

/-- A set goes by the standard rules and a convention, whatever is registered in it. -/
structure GoesBy (set : BindingSet) (convention : Convention) : Prop where
  rules : set.rules = [.contextMethod, .registered]
  conventions : set.conventions = convention.rules
  fallback : set.fallback = .missing

variable {set : BindingSet} {convention : Convention} {s : Store} {c : Class}

theorem GoesBy.isIndependent (hset : set.GoesBy convention) : set.isIndependent := by
  rw [BindingSet.isIndependent, hset.rules, hset.conventions, hset.fallback]
  cases convention <;> rfl

/-- **What the standard rules come to.**  A class with a method of its own and a registered binding
is ambiguous.  A class with one of the two takes that one, and a class with neither is left to the
convention. -/
theorem outcome_standard (hset : set.GoesBy convention) {found : Option Binding}
    (h : set.registry.dispatch s (.cls c) = .ok found) :
    set.outcome s c =
      match s.implementsContext c, set.registry.found? s (.cls c) with
      | true, some _ => .error Standard.ambiguousBinding
      | true, none => .ok (some .method)
      | false, some b => .ok (some b)
      | false, none => convention.outcome := by
  have hrules : set.tier s c set.rules =
      match s.implementsContext c, set.registry.found? s (.cls c) with
      | true, some _ => .error Standard.ambiguousBinding
      | true, none => .ok (some .method)
      | false, b => .ok b := by
    have hmethod : Rule.claim? set.registry s (.cls c) .contextMethod =
        if s.implementsContext c then some .method else none := by
      rw [Rule.claim?, TypeHint.isSubclassSafe_wrapErr]
    have hregistered : Rule.claim? set.registry s (.cls c) .registered =
        set.registry.found? s (.cls c) := rfl
    simp only [tier, hset.rules, refusal?, List.findSome?_cons, List.findSome?_nil, Rule.refusal?,
      Registry.refusal?, h, claims, List.filterMap_cons, List.filterMap_nil, hmethod, hregistered]
    cases s.implementsContext c <;> cases set.registry.found? s (.cls c) <;> rfl
  have hconventions : (do
      match ← set.tier s c set.conventions with
      | some b => return some b
      | none => set.resort c : Except _ (Option Binding)) = convention.outcome := by
    rw [hset.conventions, resort, hset.fallback]
    cases convention <;> rfl
  rw [outcome, hrules]
  cases s.implementsContext c <;> cases set.registry.found? s (.cls c) <;>
    first | rfl | exact hconventions

/-- A class that the registry finds no order for has no outcome but that. -/
theorem outcome_standard_of_unordered (hset : set.GoesBy convention)
    (h : set.registry.dispatch s (.cls c) = .error .contradiction) :
    set.outcome s c = .error Standard.runtimeError := by
  have hrefusal : set.refusal? s (.cls c) set.rules = some (.standard .runtimeError) := by
    simp only [refusal?, hset.rules, List.findSome?_cons, Rule.refusal?, Registry.refusal?, h]
    rfl
  have hrules : set.tier s c set.rules = .error Standard.runtimeError := by
    rw [tier, hrefusal]
  rw [outcome, hrules]
  rfl

end BindingSet
end FaultContext
