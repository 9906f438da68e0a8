/-
# FaultContext.Proofs.SameAnswer -- lookups that come to the same in different worlds.

Two worlds may have different objects and remember different things, and looking up a class still
comes to the same in both: to the same answer, or to exceptions of the same class that say the same.
It does if the classes are the same, the set goes by the same rules, and its registry dispatches the
class alike (`World.Agree`).  Nothing else about the registry matters, so what is registered for
other classes may be different.

The class need not be one that can be a key.  Exceptions are compared by what they say and not by
what they are linked to: under which exception a new one is raised depends on the caller.

What a rule of the program answers must not depend on what is registered (`BindingSet.IsFixed`).

Not here: rules and fallbacks whose code has to be run.
-/
import FaultContext.Proofs.Alike
import FaultContext.Proofs.Answering

namespace FaultContext

open Eval

/-! ## What exceptions say -/

namespace Store

/-- The class of an exception and its arguments. -/
def saying? (s : Store) (r : Ref) : Option (Class × List Value) :=
  match s.get? r with
  | some ⟨c, _, .exception args _ _⟩ => some (c, args)
  | _ => none

theorem saying?_setLinks (s : Store) (r q : Ref)
    (change : Option Ref × Option Ref → Option Ref × Option Ref) :
    (s.setLinks r change).saying? q = s.saying? q := by
  unfold saying? setLinks
  rw [get?_modify]
  by_cases h : r = q
  · rw [if_pos h]
    rcases s.get? q with _ | ⟨c, attributes, body⟩
    · rfl
    · cases body <;> rfl
  · rw [if_neg h]

theorem saying?_recordContext (s : Store) (r handled q : Ref) :
    (s.recordContext r handled).saying? q = s.saying? q :=
  (Survives.of_view (·.saying? q) fun s r _ => s.saying?_setLinks r q _).recordContext s r handled

theorem saying?_newException (s : Store) (c : Class) (args : List Value) (attributes : Named) :
    (s.newException c args attributes).2.saying? (s.newException c args attributes).1 =
      some (c, args) := by
  simp only [saying?, newException, get?_insert]

theorem saying?_raising (s : Store) (c : Class) (args : List Value) (handled : Option Ref) :
    ((s.newException c args []).2.raising (s.newException c args []).1 handled).saying?
      (s.newException c args []).1 = some (c, args) := by
  cases handled with
  | none => exact s.saying?_newException c args []
  | some handled =>
    exact (saying?_recordContext _ _ _ _).trans (s.saying?_newException c args [])

/-- The exception of a fault says what the fault says. -/
theorem saying?_exceptionOf (s : Store) (handled : Option Ref) (f : Fault) :
    (s.exceptionOf handled f).2.saying? (s.exceptionOf handled f).1 =
      some (.standard f.cls, f.args) := by
  cases f with
  | during first second asCause =>
    simp only [exceptionOf]
    generalize s.exceptionOf handled first = made
    obtain ⟨inner, s'⟩ := made
    rw [saying?_recordContext]
    split
    · rw [setCause, saying?_setLinks]
      exact s'.saying?_newException second.cls second.args []
    · exact s'.saying?_newException second.cls second.args []
  | _ => exact s.saying?_raising _ _ handled

end Store

/-! ## Answers that do not go by what is registered -/

/-- Answers that do not go by what is registered. -/
def Answers.IsFixed (answers : Answers) : Prop :=
  ∀ registry registry' type, answers registry' type = answers registry type

/-- A rule of the library, or one that is known by its answers and does not go by what is
registered. -/
def Rule.IsFixed : Rule → Prop
  | .function _ answers => answers.IsFixed
  | .program _ => False
  | _ => True

/-- The same for what is done where no rule answers. -/
def Fallback.IsFixed : Fallback → Prop
  | .missing => True
  | .function answers => answers.IsFixed
  | .program _ => False

/-- A set goes by what is registered where it asks its registry, and nowhere else. -/
structure BindingSet.IsFixed (set : BindingSet) : Prop where
  rules : ∀ rule ∈ set.rules, rule.IsFixed
  conventions : ∀ rule ∈ set.conventions, rule.IsFixed
  fallback : set.fallback.IsFixed

theorem Rule.IsFixed.isIndependent {rule : Rule} (h : rule.IsFixed) : rule.isIndependent := by
  cases rule with
  | program f => cases h
  | _ => rfl

theorem Fallback.IsFixed.isIndependent {fallback : Fallback} (h : fallback.IsFixed) :
    fallback.isIndependent := by
  cases fallback with
  | program f => cases h
  | _ => rfl

theorem BindingSet.IsFixed.isIndependent {set : BindingSet} (h : set.IsFixed) :
    set.isIndependent :=
  set.isIndependent_iff.mpr ⟨fun rule hrule => (h.rules rule hrule).isIndependent,
    fun rule hrule => (h.conventions rule hrule).isIndependent, h.fallback.isIndependent⟩

/-! ## Runs that end alike -/

/-- Two runs end alike: with the same value, and then nothing lasting has happened, or with
exceptions that say the same. -/
inductive EndsLike {α : Type} (w w' : World) :
    Except Signal α × World → Except Signal α × World → Prop
  | ok (a : α) {v v' : World} : w.Same v → w'.Same v' → EndsLike w w' (.ok a, v) (.ok a, v')
  | raised {x x' : Ref} {said : Class × List Value} {v v' : World} :
    v.store.saying? x = some said → v'.store.saying? x' = some said →
    EndsLike w w' (.error (.raised x), v) (.error (.raised x'), v')

/-- Two worlds agree about a class in a set: the classes are the same, the set goes by the same
rules, and the class is dispatched alike. -/
structure World.Agree (id : Nat) (c : Class) (w w' : World) : Prop where
  classes : w'.store.declarations = w.store.declarations
  rules : (w'.bindingSet id).rules = (w.bindingSet id).rules
  conventions : (w'.bindingSet id).conventions = (w.bindingSet id).conventions
  fallback : (w'.bindingSet id).fallback = (w.bindingSet id).fallback
  dispatch : (w'.bindingSet id).registry.dispatch w'.store (.cls c) =
    (w.bindingSet id).registry.dispatch w.store (.cls c)
  fixed : (w.bindingSet id).IsFixed

namespace World

variable {id : Nat} {c : Class} {w w' : World}

theorem Agree.of_same {v v' : World} (h : w.Agree id c w') (hv : w.Same v) (hv' : w'.Same v') :
    v.Agree id c v' := by
  constructor
  · rw [hv'.store, hv.store, h.classes]
  · rw [hv'.bindingSet, hv.bindingSet, h.rules]
  · rw [hv'.bindingSet, hv.bindingSet, h.conventions]
  · rw [hv'.bindingSet, hv.bindingSet, h.fallback]
  · rw [hv'.bindingSet, hv.bindingSet, hv'.store, hv.store, h.dispatch]
  · rw [hv.bindingSet]
    exact h.fixed

theorem Agree.fixed' (h : w.Agree id c w') : (w'.bindingSet id).IsFixed where
  rules := h.rules ▸ h.fixed.rules
  conventions := h.conventions ▸ h.fixed.conventions
  fallback := h.fallback ▸ h.fixed.fallback

/-- A rule that does not go by what is registered claims the same and refuses alike. -/
theorem Agree.claim (h : w.Agree id c w') {rule : Rule} (hrule : rule.IsFixed) :
    rule.claim? (w'.bindingSet id).registry w'.store (.cls c) =
        rule.claim? (w.bindingSet id).registry w.store (.cls c) ∧
      rule.refusal? (w'.bindingSet id).registry w'.store (.cls c) =
        rule.refusal? (w.bindingSet id).registry w.store (.cls c) := by
  cases rule with
  | function name answers =>
    simp only [Rule.claim?, Rule.refusal?]
    rw [hrule (w.bindingSet id).registry (w'.bindingSet id).registry]
    exact ⟨rfl, rfl⟩
  | program f => cases hrule
  | _ =>
    simp only [Rule.claim?, Rule.refusal?, Registry.found?, Registry.refusal?, h.dispatch,
      TypeHint.isSubclassSafe_congr h.classes, and_self]

/-- So does a tier of such rules. -/
theorem Agree.tier (h : w.Agree id c w') {rules : List Rule}
    (hrules : ∀ rule ∈ rules, rule.IsFixed) :
    (w'.bindingSet id).tier w'.store c rules = (w.bindingSet id).tier w.store c rules := by
  have hclaims : (w'.bindingSet id).claims w'.store (.cls c) rules =
        (w.bindingSet id).claims w.store (.cls c) rules ∧
      (w'.bindingSet id).refusal? w'.store (.cls c) rules =
        (w.bindingSet id).refusal? w.store (.cls c) rules := by
    simp only [BindingSet.claims, BindingSet.refusal?]
    induction rules with
    | nil => exact ⟨rfl, rfl⟩
    | cons rule rest ih =>
      obtain ⟨hrule, hrest⟩ := List.forall_mem_cons.mp hrules
      obtain ⟨hclaim, hrefusal⟩ := h.claim hrule
      obtain ⟨hclaims, hrefusals⟩ := ih hrest
      rw [List.filterMap_cons, List.filterMap_cons, List.findSome?_cons, List.findSome?_cons,
        hclaim, hrefusal, hclaims, hrefusals]
      exact ⟨rfl, rfl⟩
  rw [BindingSet.tier, BindingSet.tier, hclaims.1, hclaims.2]

/-- A set comes to the same outcome for the class. -/
theorem Agree.outcome (h : w.Agree id c w') :
    (w'.bindingSet id).outcome w'.store c = (w.bindingSet id).outcome w.store c := by
  have hresort : (w'.bindingSet id).resort c = (w.bindingSet id).resort c := by
    have hfixed := h.fixed.fallback
    rw [BindingSet.resort, BindingSet.resort, h.fallback]
    cases hfallback : (w.bindingSet id).fallback with
    | function answers =>
      rw [hfallback] at hfixed
      have hanswers := hfixed (w.bindingSet id).registry (w'.bindingSet id).registry (.cls c)
      dsimp only
      rw [hanswers]
    | _ => rfl
  rw [BindingSet.outcome, BindingSet.outcome, h.rules, h.conventions, hresort,
    h.tier h.fixed.rules, h.tier h.fixed.conventions]

end World

namespace Eval

variable {α β : Type} {id : Nat} {c : Class}

/-- Two computations that end alike in worlds that agree about a class. -/
def Concordant (id : Nat) (c : Class) (m m' : Eval α) : Prop :=
  ∀ handled (w w' : World), w.Agree id c w' →
    EndsLike w w' (m.run handled w) (m'.run handled w')

namespace Concordant

theorem pure (a : α) : Concordant id c (Pure.pure a) (Pure.pure a) :=
  fun _ w w' _ => .ok a (.refl w) (.refl w')

/-- What follows need only end alike for what the first computation can come to. -/
theorem bind_of_run {m m' : Eval α} {f f' : α → Eval β} (hm : Concordant id c m m')
    (hf : ∀ a handled w v, m.run handled w = (.ok a, v) → Concordant id c (f a) (f' a)) :
    Concordant id c (m >>= f) (m' >>= f') := by
  intro handled w w' hw
  have hfirst := hm handled w w' hw
  rw [run_bind, run_bind]
  rcases hrun : m.run handled w with ⟨ended, v⟩
  rw [hrun] at hfirst
  generalize m'.run handled w' = first' at hfirst ⊢
  cases hfirst with
  | @ok a v v' hv hv' =>
    -- What has not ended goes on in worlds that still agree.
    have hnext := hf a handled w v hrun handled v v' (hw.of_same hv hv')
    dsimp only
    generalize (f a).run handled v = next, (f' a).run handled v' = next' at hnext ⊢
    cases hnext with
    | ok b hu hu' => exact .ok b (hv.trans hu) (hv'.trans hu')
    | raised hsaid hsaid' => exact .raised hsaid hsaid'
  | raised hsaid hsaid' => exact .raised hsaid hsaid'

theorem bind {m m' : Eval α} {f f' : α → Eval β} (hm : Concordant id c m m')
    (hf : ∀ a, Concordant id c (f a) (f' a)) : Concordant id c (m >>= f) (m' >>= f') :=
  .bind_of_run hm fun a _ _ _ _ => hf a

/-- What has been read may differ as far as the two go on alike. -/
theorem reading {g g' : World → α} {hg : World.Unaware g} {hg' : World.Unaware g'}
    {f f' : α → Eval β}
    (h : ∀ w w', World.Agree id c w w' → Concordant id c (f (g w)) (f' (g' w'))) :
    Concordant id c (Eval.reading g hg >>= f) (Eval.reading g' hg' >>= f') :=
  fun handled w w' hw => h w w' hw handled w w' hw

theorem congruence : Congruence fun _ => Concordant id c := ⟨.pure, .bind⟩

theorem changeRest {f f' : World → World} {h : ∀ w : World, w.Same (f w)}
    {h' : ∀ w : World, w.Same (f' w)} {hf : World.Steady fun w => ((), f w)}
    {hf' : World.Steady fun w => ((), f' w)} :
    Concordant id c (Eval.changeRest f h hf) (Eval.changeRest f' h' hf') :=
  fun _ w w' _ => .ok () (h w) (h' w')

theorem fault {f f' : Fault} (hcls : f'.cls = f.cls) (hargs : f'.args = f.args) :
    Concordant id c (Eval.fault f : Eval α) (Eval.fault f') := by
  intro handled w w' _
  refine .raised (w.store.saying?_exceptionOf handled f) ?_
  rw [← hcls, ← hargs]
  exact w'.store.saying?_exceptionOf handled f'

theorem raiseAnew (complaint : Complaint) :
    Concordant id c (Eval.raiseAnew complaint : Eval α) (Eval.raiseAnew complaint) := by
  intro handled w w' _
  rw [run_raiseAnew, run_raiseAnew]
  exact .raised (w.store.saying?_raising _ _ handled) (w'.store.saying?_raising _ _ handled)

theorem raiseNew (problem : Standard) (message : String) :
    Concordant id c (Eval.raiseNew problem message : Eval α) (Eval.raiseNew problem message) :=
  .raiseAnew _

/-- The text of a class is the same where the classes are. -/
theorem repr_bind {f f' : String → Eval β} (h : ∀ text, Concordant id c (f text) (f' text)) :
    Concordant id c (Eval.repr (.cls c) >>= f) (Eval.repr (.cls c) >>= f') := by
  intro handled w w' hw
  have htext : ∀ s : Store, s.repr (.cls c) = .ok (s.classText c) := fun _ => rfl
  have hname : w'.store.classText c = w.store.classText c := by
    simp only [Store.classText, Store.qualifiedClass, Store.className, hw.classes]
  rw [run_bind_of_ok (run_repr_of_ok (htext w.store)),
    run_bind_of_ok (run_repr_of_ok (htext w'.store)), hname]
  exact h _ handled w w' hw

end Concordant
end Eval

/-! ## Resolving a class -/

namespace Resolution

variable {engine : Engine} {id : Nat} {c : Class}

/-- A dispatch that fails late raises an exception that says why. -/
theorem saying?_failAfterSearch (f : Fault) (handled : Option Ref) (w : World) :
    ∃ x v, (failAfterSearch (.cls c) f : Eval α).run handled w = (.error (.raised x), v) ∧
      v.store.saying? x = some (.standard f.cls, f.args) := by
  obtain ⟨s, first, hrun⟩ : ∃ s first, (failAfterSearch (.cls c) f : Eval α).run handled w =
      (Eval.fault (.during first f false)).run handled { w with store := s } := by
    unfold failAfterSearch
    rw [run_bind_of_ok run_store]
    exact ⟨_, _, run_bind_of_ok (run_new _)⟩
  exact ⟨_, _, hrun, s.saying?_exceptionOf handled (.during first f false)⟩

/-- Refused alike, a class raises exceptions that say the same. -/
theorem concordant_refuse (refusal : Registry.Refusal) :
    Concordant id c (refuse (.cls c) refusal : Eval α) (refuse (.cls c) refusal) := by
  have hlate : ∀ f : Fault, Concordant id c (failAfterSearch (.cls c) f : Eval α)
      (failAfterSearch (.cls c) f) := by
    intro f handled w w' _
    obtain ⟨x, v, hrun, hsaid⟩ := saying?_failAfterSearch (α := α) (c := c) f handled w
    obtain ⟨x', v', hrun', hsaid'⟩ := saying?_failAfterSearch (α := α) (c := c) f handled w'
    rw [hrun, hrun']
    exact .raised hsaid hsaid'
  cases refusal <;> rw [refuse] <;> first | exact hlate _ | exact .fault rfl rfl

theorem concordant_answered (answer : Except Complaint (Option Binding)) :
    Concordant id c (answered answer) (answered answer) := by
  cases answer with
  | ok found => exact .pure found
  | error complaint => exact .raiseAnew complaint

/-- **One rule**: asked about the class, it claims the same, or refuses alike. -/
theorem concordant_ask {rule : Rule} (hrule : rule.IsFixed) :
    Concordant id c (ask engine id (.cls c) rule) (ask engine id (.cls c) rule) := by
  cases rule with
  | contextMethod =>
    intro handled w w' hw
    have hsafe := TypeHint.isSubclassSafe_congr hw.classes (.cls c) [.std .wrapErr]
    simp only [ask, run_bind, run_store, hsafe]
    exact .ok _ (.refl w) (.refl w')
  | registered =>
    intro handled w w' hw
    have hrefused : ∀ refusal, EndsLike w w'
        ((refuse (.cls c) refusal : Eval (Option Binding)).run handled w)
        ((refuse (.cls c) refusal : Eval (Option Binding)).run handled w') :=
      fun refusal => concordant_refuse refusal handled w w' hw
    simp only [ask, askRegistry, bindingSet, run_bind, run_reading, run_store, hw.dispatch]
    split
    · exact .ok _ (.refl w) (.refl w')
    · exact .ok _ (.refl w) (.refl w')
    · exact .ok _ (.refl w) (.refl w')
    · exact hrefused _
  | chained => exact .pure _
  | noted => exact .pure _
  | function name answers =>
    refine .reading fun w w' _ => ?_
    rw [hrule (w.bindingSet id).registry (w'.bindingSet id).registry]
    exact concordant_answered _
  | program f => cases hrule

/-- The names of rules that answer on their own are texts, and the same everywhere. -/
theorem concordant_ambiguous {rules : List Rule} (hrules : ∀ rule ∈ rules, rule.isIndependent) :
    Concordant id c (ambiguous (.cls c) rules : Eval α) (ambiguous (.cls c) rules) := by
  obtain ⟨names, hnames⟩ := run_ruleNames hrules
  intro handled w w' hw
  rw [ambiguous, run_bind_of_ok (hnames handled w), run_bind_of_ok (run_joinable names 0 handled),
    run_bind_of_ok (hnames handled w'), run_bind_of_ok (run_joinable names 0 handled)]
  exact Concordant.repr_bind (fun _ => .raiseNew _ _) handled w w' hw

theorem concordant_claim {rules : List Rule} (hrules : ∀ rule ∈ rules, rule.IsFixed) :
    Concordant id c (claim engine id (.cls c) rules) (claim engine id (.cls c) rules) := by
  have hindependent : ∀ rule ∈ rules, rule.isIndependent := fun rule hrule =>
    (hrules rule hrule).isIndependent
  refine .bind_of_run (Concordant.congruence.askAll fun rule hrule =>
    concordant_ask (hrules rule hrule)) fun answers handled w v hrun => ?_
  obtain ⟨-, haccepts, -⟩ := run_askAll hindependent hrun
  obtain ⟨_, hrun', hanswers⟩ := run_askAll_of_accepts engine hindependent haccepts handled
  cases hrun.symm.trans hrun'
  match answers with
  | [] => exact .pure none
  | [(_, b)] => exact .pure (some b)
  | _ :: _ :: _ =>
    refine concordant_ambiguous fun rule hrule => ?_
    obtain ⟨answer, hanswer, rfl⟩ := List.mem_map.mp hrule
    exact hanswers answer hanswer

theorem concordant_note (what : String) :
    Concordant id c (note (.cls c) what) (note (.cls c) what) := by
  intro handled w w' _
  obtain ⟨v, hrun, hv⟩ := run_note (w.legible_cls c) handled what
  obtain ⟨v', hrun', hv'⟩ := run_note (w'.legible_cls c) handled what
  rw [hrun, hrun']
  exact .ok () hv hv'

theorem concordant_fallback :
    Concordant id c (fallback engine id (.cls c)) (fallback engine id (.cls c)) := by
  refine .reading fun w w' hw => ?_
  have hfixed := hw.fixed.fallback
  rw [hw.fallback]
  cases hfallback : (w.bindingSet id).fallback <;> rw [hfallback] at hfixed
  · exact .repr_bind fun _ => .raiseNew _ _
  · refine .reading fun w w' _ => ?_
    rw [hfixed (w.bindingSet id).registry (w'.bindingSet id).registry]
    exact concordant_answered _
  · cases hfixed

/-- **Resolved afresh, a class comes to the same in worlds that agree about it.** -/
theorem concordant_compute :
    Concordant id c (compute engine id (.cls c)) (compute engine id (.cls c)) := by
  refine .reading fun w w' hw => ?_
  rw [hw.rules, hw.conventions]
  exact Concordant.congruence.foundOr (concordant_claim hw.fixed.rules)
    (Concordant.congruence.foundOr (concordant_claim hw.fixed.conventions)
      (.bind (concordant_note _) fun _ => concordant_fallback))

end Resolution

/-! ## Looking up a class -/

/-- Two lookups come to the same: to the same answer, or to exceptions of the same class that say
the same. -/
inductive SameAnswer :
    Except Signal (Option Binding) × World → Except Signal (Option Binding) × World → Prop
  | found (answer : Option Binding) {v v' : World} : SameAnswer (.ok answer, v) (.ok answer, v')
  | raised {x x' : Ref} {said : Class × List Value} {v v' : World} :
    v.store.saying? x = some said → v'.store.saying? x' = some said →
    SameAnswer (.error (.raised x), v) (.error (.raised x'), v')

/-- A class comes to the same in two worlds. -/
def World.LooksUpLike (id : Nat) (c : Class) (w w' : World) : Prop :=
  ∀ engine handled, SameAnswer ((Resolution.lookup engine id (.cls c)).run handled w)
    ((Resolution.lookup engine id (.cls c)).run handled w')

namespace Resolution

variable {engine : Engine} {id : Nat} {c : Class} {w w' : World}

/-- What is recalled in one of two worlds is found in both. -/
theorem looksUpLike_of_recalled (hw : w.Truthful) (hw' : w'.Truthful) (h : w.Agree id c w')
    (hrecalled : w.recalled id (.cls c) ≠ none ∨ w'.recalled id (.cls c) ≠ none) :
    w.LooksUpLike id c w' := by
  obtain ⟨b, hhashable, hb⟩ : ∃ b, w.store.isHashableClass c = true ∧
      (w.bindingSet id).outcome w.store c = .ok (some b) := by
    have hkey : ∀ {u : World} {b : Binding}, u.recalled id (.cls c) = some b →
        u.store.isHashableClass c = true := by
      intro u b hb
      simpa [Store.unhashable?, Store.unhashableWith] using (World.exists_of_recalled hb).1
    rcases hrecalled with hrecalled | hrecalled
    · obtain ⟨b, hb⟩ := Option.ne_none_iff_exists'.mp hrecalled
      exact ⟨b, hkey hb, outcome_of_recalled hw h.fixed.isIndependent hb⟩
    · obtain ⟨b, hb⟩ := Option.ne_none_iff_exists'.mp hrecalled
      rw [← h.outcome, ← Store.isHashableClass_congr h.classes]
      exact ⟨b, hkey hb, outcome_of_recalled hw' h.fixed'.isIndependent hb⟩
  intro engine handled
  obtain ⟨v, hrun, -⟩ := run_lookup_of_outcome hw h.fixed.isIndependent hhashable hb handled
  rw [← h.outcome] at hb
  rw [← Store.isHashableClass_congr h.classes] at hhashable
  obtain ⟨v', hrun', -⟩ := run_lookup_of_outcome hw' h.fixed'.isIndependent hhashable hb handled
  rw [hrun, hrun']
  exact .found _

/-- Where nothing is remembered, what resolving afresh ends with is the answer. -/
theorem sameAnswer_of_compute {handled : Option Ref} (hnone : w.recalled id (.cls c) = none)
    (hnone' : w'.recalled id (.cls c) = none)
    (h : EndsLike w w' ((compute engine id (.cls c)).run handled w)
      ((compute engine id (.cls c)).run handled w')) :
    SameAnswer ((computeIn engine id (.cls c)).run handled w)
      ((computeIn engine id (.cls c)).run handled w') := by
  cases hcompute : (compute engine id (.cls c)).run handled w with
  | mk ended v =>
    cases hcompute' : (compute engine id (.cls c)).run handled w' with
    | mk ended' v' =>
      rw [hcompute, hcompute'] at h
      cases h with
      | ok answer hv hv' =>
        obtain ⟨u, hanswer, -⟩ :=
          run_computeIn_of_compute (w.legible_cls c) hnone hcompute hv
        obtain ⟨u', hanswer', -⟩ :=
          run_computeIn_of_compute (w'.legible_cls c) hnone' hcompute' hv'
        rw [hanswer, hanswer']
        exact .found answer
      | raised hsaid hsaid' =>
        simp only [computeIn, thenChange, computeNoted, run_bind_of_error hcompute,
          run_bind_of_error hcompute']
        exact .raised hsaid hsaid'

/-- **Looking up a class comes to the same in worlds that agree about it.** -/
theorem looksUpLike (hw : w.Truthful) (hw' : w'.Truthful) (h : w.Agree id c w') :
    w.LooksUpLike id c w' := by
  cases hrecalled : w.recalled id (.cls c) with
  | some b => exact looksUpLike_of_recalled hw hw' h (.inl (by simp [hrecalled]))
  | none =>
    cases hrecalled' : w'.recalled id (.cls c) with
    | some b => exact looksUpLike_of_recalled hw hw' h (.inr (by simp [hrecalled']))
    | none =>
      -- Nothing is remembered, so both resolve it afresh.
      intro engine handled
      obtain ⟨v, hv, hrun⟩ := run_lookup_of_legible (w.legible_cls c) engine handled id
      obtain ⟨v', hv', hrun'⟩ := run_lookup_of_legible (w'.legible_cls c) engine handled id
      have hended : EndsLike v v' ((compute engine id (.cls c)).run handled v)
          ((compute engine id (.cls c)).run handled v') :=
        concordant_compute handled v v' (h.of_same hv hv')
      rw [hrun, hrun', hrecalled, hrecalled']
      exact sameAnswer_of_compute ((hv.recalled id _).trans hrecalled)
        ((hv'.recalled id _).trans hrecalled') hended

end Resolution
end FaultContext
