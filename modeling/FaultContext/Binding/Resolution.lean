/-
# FaultContext.Binding.Resolution -- the binding of a failure type.

A type is resolved in tiers: what the cache remembers, then the rules, then the conventions, then
the fallback.  All rules of a tier are asked, and two answers within one tier are a diagnostic
rather than a preference.  The first answer that reaches the cache stays there until something is
registered.

A rule of the program may do what it likes while it is being asked, and so may the fallback: it may
raise, give the cache an entry, or ask the set for another type.  What is known by its answers does
nothing but answer.
-/
import FaultContext.Call.TextMethod

namespace FaultContext.Resolution

open Eval

/-! ## The cache -/

/-- A set of bindings by its number. -/
def bindingSet (id : Nat) : Eval BindingSet := reading (·.bindingSet id) ⟨fun _ _ _ => rfl⟩

/-- Warns about a type that cannot be a key; tells whether there was reason to. -/
def warnUnhashable (type : Value) : Eval Bool := do
  let s ← store
  match s.unhashable? type with
  | none => return false
  | some _ =>
    warn "UnhashableType"
      ("Type " ++ (← str type) ++ " is unhashable; its WrapErr binding can't be cached")
    return true

/-- There is no reason to warn about a class that can be a key. -/
theorem isHashableClass_of_run_warnUnhashable {c : Class} {handled : Option Ref} {w w' : World}
    (h : (warnUnhashable (.cls c)).run handled w = (.ok false, w')) :
    w.store.isHashableClass c = true := by
  obtain ⟨s, start, hstore, hwarn⟩ := run_bind_eq_ok.mp h
  cases hstore
  split at hwarn
  next hkey => simpa [Store.unhashable?, Store.unhashableWith] using hkey
  next =>
    obtain ⟨text, between, -, hrest⟩ := run_bind_eq_ok.mp hwarn
    obtain ⟨_, last, -, hlast⟩ := run_bind_eq_ok.mp hrest
    cases hlast

/-- What a cache remembers for a type, on the current thread. -/
def remembered {β : Type} (c : Cache β) (type : Value) : Eval (Option β) := do
  if ← warnUnhashable type then return none
  else return c.get? (← store) (← thread) type

/-- What a set remembers for a type. -/
def recallIn (id : Nat) (type : Value) : Eval (Option Binding) := do
  remembered (← bindingSet id).cache type

/-- Gives the cache of a set an answer, unless the type cannot be a key or no rule of the set would
do that. -/
def seeding (id : Nat) (type : Value) (b : Binding) (unhashable : Bool) (w : World) :
    Unit × World :=
  if unhashable || (w.bindingSet id).isIndependent then ((), w)
  else ((), (w.remember id type (some b)).2)

theorem keeps_seeding (id : Nat) (type : Value) (b : Binding) (unhashable : Bool) (w : World) :
    w.Keeps (seeding id type b unhashable w).2 := by
  unfold seeding
  split
  · exact .refl w
  next h =>
    refine w.keeps_remember id type (some b) fun hindependent => ?_
    simp [hindependent] at h

theorem steady_seeding (id : Nat) (type : Value) (b : Binding) (unhashable : Bool) :
    World.Steady (seeding id type b unhashable) := by
  constructor
  · intro w n _
    have hset : (w.suspended n).bindingSet id = w.bindingSet id := rfl
    rw [seeding, seeding, hset]
    split <;> rfl
  · intro w hw
    unfold seeding
    split <;> exact hw

/-- Gives the cache of a set an answer that a rule of the program has ready.  The set has such a
rule, then, and may remember whatever it is told. -/
def seedIn (id : Nat) (type : Value) (b : Binding) : Eval Unit :=
  thenChange (warnUnhashable type) (seeding id type b) (fun _ => keeps_seeding id type b _ _)
    (steady_seeding id type b)

/-! ## Rules -/

/-- The name of a class, or the text of anything else. -/
def typeLabel (type : Value) : Eval String := do
  match type with
  | .cls c => return (← store).className c
  | v => str v

/-- Raises the exception of a dispatch that fails late: the type was looked for in vain before,
among what has been dispatched and among what is registered. -/
def failAfterSearch {α : Type} (type : Value) (f : Fault) : Eval α := do
  let s ← store
  let name := match type with
    | .cls c => " (" ++ s.className c ++ ")"
    | _ => ""
  let text := "<weakref at 0x0; to '" ++ s.typeName type ++ "' at 0x0" ++ name ++ ">"
  let reference ← new ⟨Standard.object, [], .named text⟩
  fault (.during (.during (.missingKey reference) (.missingKey type) false) f false)

/-- The exception that a refusal to dispatch a type raises. -/
def refuse {α : Type} (type : Value) : Registry.Refusal → Eval α
  | .noWeakReference name =>
    fault (.plain .typeError ("cannot create weak reference to '" ++ name ++ "' object"))
  | .unhashable name => fault (.unhashable name)
  | .notClass =>
    failAfterSearch type (.plain .typeError "issubclass() arg 1 must be a class")
  | .contradiction => failAfterSearch type (.plain .runtimeError "Inconsistent hierarchy")
  | .noOrder => fault (.plain .attributeError "__mro__")

/-- The registered binding for a type; the placeholder does not count, and neither does a type that
has no order. -/
def askRegistry (registry : Registry) (type : Value) : Eval (Option Binding) := do
  match registry.dispatch (← store) type with
  | .ok (some .unregistered) => return none
  | .ok found => return found
  | .error .noOrder => return none
  | .error refusal => refuse type refusal

/-- What is known by its answers answers, or raises what it complains of. -/
def answered (answer : Except Complaint (Option Binding)) : Eval (Option Binding) :=
  match answer with
  | .ok found => pure found
  | .error complaint => raiseAnew complaint

/-- Asks a rule about a type.  A function of the program is called with the type and the set. -/
def ask (engine : Engine) (id : Nat) (type : Value) : Rule → Eval (Option Binding)
  | .contextMethod => do
    return if TypeHint.isSubclassSafe (← store) type [.std .wrapErr] then some .method else none
  | .registered => do askRegistry (← bindingSet id).registry type
  | .chained => return some .chain
  | .noted => return some .note
  | .function _ answers => do answered (answers (← bindingSet id).registry type)
  | .program f => do
    return Binding.ofValue? (← engine.call f [] [("typ", type), ("ctx", .bindings id)])

/-- The answers of all rules of a tier, with the rules that gave them. -/
def askAll (engine : Engine) (id : Nat) (type : Value) : List Rule → Eval (List (Rule × Binding))
  | [] => return []
  | rule :: rest => do
    match ← ask engine id type rule with
    | some b => return (rule, b) :: (← askAll engine id type rest)
    | none => askAll engine id type rest

/-- The name of a rule in a diagnostic: a rule of the program may have none and is then shown by its
text, which is made in any case. -/
def ruleName : Rule → Eval Value
  | .contextMethod => return .str .fresh "wrap_err_method"
  | .registered => return .str .fresh "registered"
  | .chained => return .str .fresh "chained"
  | .noted => return .str .fresh "noted"
  | .function name _ => return .str .fresh name
  | .program f => do
    let text ← repr f
    match (← store).attr f "__name__" with
    | .ok name => return name
    | .error _ => return .str .fresh text

/-- The names of several rules. -/
def ruleNames : List Rule → Eval (List Value)
  | [] => return []
  | rule :: rest => do
    let name ← ruleName rule
    return name :: (← ruleNames rest)

/-- Raises the diagnostic for several answers within one tier. -/
def ambiguous {α : Type} (type : Value) (rules : List Rule) : Eval α := do
  let names := Store.commas (← TextMethod.joinable 0 (← ruleNames rules))
  raiseNew .ambiguousBinding
    ("WrapErr bindings for " ++ (← repr type) ++ " are ambiguous: " ++ names)

/-- The one answer of a tier; two answers are a diagnostic. -/
def claim (engine : Engine) (id : Nat) (type : Value) (rules : List Rule) :
    Eval (Option Binding) := do
  match ← askAll engine id type rules with
  | [] => return none
  | [(_, b)] => return some b
  | claims => ambiguous type (claims.map Prod.fst)

/-- What is answered where no rule and no convention answers. -/
def fallback (engine : Engine) (id : Nat) (type : Value) : Eval (Option Binding) := do
  match (← bindingSet id).fallback with
  | .missing =>
    raiseNew .missingBinding
      ("No WrapErr binding for " ++ (← repr type) ++
        "; implement wrap_err on it, register a binding, or enable a built-in convention")
  | .function answers => answered (answers (← bindingSet id).registry type)
  | .program f => return Binding.ofValue? (← engine.call f [type] [])

/-- Traces how far the resolution of a type has come. -/
def note (type : Value) (what : String) : Eval Unit :=
  trace do return "lookup(" ++ (← repr type) ++ "): " ++ what

/-- Resolves a type afresh. -/
def compute (engine : Engine) (id : Nat) (type : Value) : Eval (Option Binding) := do
  let set ← bindingSet id
  match ← claim engine id type set.rules with
  | some b => return some b
  | none =>
    match ← claim engine id type set.conventions with
    | some b => return some b
    | none =>
      note type "fallback"
      fallback engine id type

/-! ## What rules answer on their own -/

section Independent

variable {engine : Engine} {id : Nat} {type : Value} {handled : Option Ref} {w w' : World}

/-- A registry that accepts a type answers with what it finds. -/
theorem run_askRegistry {registry : Registry} (h : registry.refusal? w.store type = none) :
    (askRegistry registry type).run handled w = (.ok (registry.found? w.store type), w) := by
  rw [askRegistry, Registry.found?, run_bind, run_store]
  rw [Registry.refusal?] at h
  dsimp only
  rcases hfound : registry.dispatch w.store type with refusal | found
  · cases refusal <;> rw [hfound] at h <;> first | rfl | cases h
  · rcases found with _ | b
    · rfl
    · cases b <;> rfl

/-- The registry answers with what it finds, and nothing else happens. -/
theorem run_ask_registered {found : Option Binding}
    (h : (ask engine id type .registered).run handled w = (.ok found, w')) :
    w' = w ∧ (w.bindingSet id).registry.refusal? w.store type = none ∧
      found = (w.bindingSet id).registry.found? w.store type := by
  simp only [ask, askRegistry, bindingSet, run_bind, run_reading, run_store] at h
  simp only [Registry.refusal?, Registry.found?]
  split at h
  next hfound => cases h; simp [hfound]
  next hfound => cases h; simp [hfound]
  next hfound => cases h; simp [hfound, Registry.Refusal.cls?]
  next refusal _ hfound =>
    cases refusal <;> simp only [refuse, failAfterSearch, run_bind, run_store] at h <;> cases h

/-- An answer is no complaint. -/
theorem run_answered {answer : Except Complaint (Option Binding)} {found : Option Binding}
    (h : (answered answer).run handled w = (.ok found, w')) : w' = w ∧ answer = .ok found := by
  cases answer with
  | ok b =>
    cases h
    exact ⟨rfl, rfl⟩
  | error complaint => exact absurd h (run_raiseAnew_ne_ok complaint)

/-- A rule that answers on its own makes its claim, and nothing happens. -/
theorem run_ask {rule : Rule} {found : Option Binding} (hrule : rule.isIndependent)
    (h : (ask engine id type rule).run handled w = (.ok found, w')) :
    w' = w ∧ rule.refusal? (w.bindingSet id).registry w.store type = none ∧
      found = rule.claim? (w.bindingSet id).registry w.store type := by
  cases rule with
  | contextMethod =>
    cases h
    exact ⟨rfl, rfl, rfl⟩
  | registered => exact run_ask_registered h
  | chained =>
    cases h
    exact ⟨rfl, rfl, rfl⟩
  | noted =>
    cases h
    exact ⟨rfl, rfl, rfl⟩
  | function name answers =>
    obtain ⟨rfl, hanswer⟩ := run_answered (run_bind_of_ok (run_reading _ _) ▸ h)
    rw [Rule.refusal?, Rule.claim?, hanswer]
    exact ⟨rfl, rfl, rfl⟩
  | program f => cases hrule

/-- The answers of a tier are what its rules claim. -/
theorem run_askAll {rules : List Rule} {answers : List (Rule × Binding)}
    (hrules : ∀ rule ∈ rules, rule.isIndependent)
    (h : (askAll engine id type rules).run handled w = (.ok answers, w')) :
    w' = w ∧ (w.bindingSet id).refusal? w.store type rules = none ∧
      answers.map Prod.snd = (w.bindingSet id).claims w.store type rules := by
  induction rules generalizing answers w' with
  | nil =>
    cases h
    exact ⟨rfl, rfl, rfl⟩
  | cons rule rest ih =>
    obtain ⟨hrule, hrest⟩ := List.forall_mem_cons.mp hrules
    obtain ⟨found, between, hask, hnext⟩ := run_bind_eq_ok.mp h
    obtain ⟨rfl, hasked, hfound⟩ := run_ask hrule hask
    simp only [BindingSet.claims, List.filterMap_cons, ← hfound, BindingSet.refusal?,
      List.findSome?_cons, hasked]
    cases found with
    | none => exact ih hrest hnext
    | some b =>
      obtain ⟨others, last, hothers, hlast⟩ := run_bind_eq_ok.mp hnext
      obtain ⟨rfl, hall, hanswers⟩ := ih hrest hothers
      cases hlast
      exact ⟨rfl, hall, congrArg (b :: ·) hanswers⟩

/-- A diagnostic about several answers is no answer. -/
theorem run_ambiguous_ne_ok {α : Type} {rules : List Rule} {a : α} :
    (ambiguous type rules).run handled w ≠ (.ok a, w') := by
  intro h
  obtain ⟨_, _, -, h⟩ := run_bind_eq_ok.mp h
  obtain ⟨_, _, -, h⟩ := run_bind_eq_ok.mp h
  obtain ⟨_, _, -, h⟩ := run_bind_eq_ok.mp h
  exact run_raiseNew_ne_ok _ _ h

/-- The answer of a tier is its only claim. -/
theorem run_claim {rules : List Rule} {found : Option Binding}
    (hrules : ∀ rule ∈ rules, rule.isIndependent)
    (h : (claim engine id type rules).run handled w = (.ok found, w')) :
    w' = w ∧ (w.bindingSet id).verdict? w.store type rules = some found := by
  obtain ⟨answers, between, hall, hnext⟩ := run_bind_eq_ok.mp h
  obtain ⟨rfl, hasked, hanswers⟩ := run_askAll hrules hall
  rw [BindingSet.verdict?, hasked, ← hanswers]
  split at hnext
  · cases hnext
    exact ⟨rfl, rfl⟩
  · cases hnext
    exact ⟨rfl, rfl⟩
  · exact absurd hnext run_ambiguous_ne_ok

theorem run_fallback {found : Option Binding} (hset : (w.bindingSet id).fallback.isIndependent)
    (h : (fallback engine id type).run handled w = (.ok found, w')) :
    found = (w.bindingSet id).fallback.answer? (w.bindingSet id).registry type := by
  simp only [fallback, bindingSet, run_bind, run_reading] at h
  split at h
  next =>
    obtain ⟨text, between, -, h⟩ := run_bind_eq_ok.mp h
    exact absurd h (run_raiseNew_ne_ok _ _)
  next answers hfallback =>
    obtain ⟨-, hanswer⟩ := run_answered h
    rw [hfallback, Fallback.answer?, hanswer]
    rfl
  next f hfallback =>
    rw [hfallback] at hset
    cases hset

/-- A set that answers on its own finds the answer that it is said to give. -/
theorem run_compute {found : Option Binding} (hset : (w.bindingSet id).isIndependent)
    (h : (compute engine id type).run handled w = (.ok found, w')) :
    found = (w.bindingSet id).answer? w.store type := by
  obtain ⟨hrules, hconventions, hfallback⟩ := (w.bindingSet id).isIndependent_iff.mp hset
  obtain ⟨set, start, hread, hfirst⟩ := run_bind_eq_ok.mp h
  cases hread
  obtain ⟨claimed, between, hclaim, hnext⟩ := run_bind_eq_ok.mp hfirst
  obtain ⟨rfl, hclaimed⟩ := run_claim hrules hclaim
  rw [BindingSet.answer?, hclaimed]
  cases claimed with
  | some b =>
    cases hnext
    rfl
  | none =>
    obtain ⟨claimed, last, hclaim, hnext⟩ := run_bind_eq_ok.mp hnext
    obtain ⟨rfl, hclaimed⟩ := run_claim hconventions hclaim
    simp only [hclaimed]
    cases claimed with
    | some b =>
      cases hnext
      rfl
    | none =>
      obtain ⟨_, noted, hnote, hlast⟩ := run_bind_eq_ok.mp hnext
      have hcore := (keeps_of_run hnote).core_bindingSet id
      have hfallback' : (noted.bindingSet id).fallback = (last.bindingSet id).fallback :=
        (congrArg BindingSet.fallback hcore :)
      have hregistry : (noted.bindingSet id).registry = (last.bindingSet id).registry :=
        (congrArg BindingSet.registry hcore :)
      rw [← hfallback'] at hfallback
      rw [run_fallback hfallback hlast, hfallback', hregistry]

end Independent

/-- Resolves a type afresh, and tells whether the type cannot be a key. -/
def computeNoted (engine : Engine) (id : Nat) (type : Value) :
    Eval (Option Binding × Bool) := do
  let answer ← compute engine id type
  note type "computed"
  return (answer, ← warnUnhashable type)

/-- Gives the answer for a type to the cache, unless the type cannot be a key. -/
def remembering (id : Nat) (type : Value) (found : Option Binding × Bool) (w : World) :
    Option Binding × World :=
  if found.2 then (found.1, w) else w.remember id type found.1

theorem keeps_remembering {engine : Engine} {id : Nat} {type : Value}
    {handled : Option Ref} {w w' : World} {found : Option Binding × Bool}
    (h : (computeNoted engine id type).run handled w = (.ok found, w')) :
    w'.Keeps (remembering id type found w').2 := by
  unfold remembering
  split
  next => exact .refl w'
  next hkey =>
    refine w'.keeps_remember id type found.1 fun hindependent c b htype hanswer => ?_
    have hkeeps := keeps_of_run h
    obtain ⟨answer, between, hcompute, h⟩ := run_bind_eq_ok.mp h
    obtain ⟨_, between, -, h⟩ := run_bind_eq_ok.mp h
    obtain ⟨unhashable, last, hwarn, h⟩ := run_bind_eq_ok.mp h
    cases h
    obtain rfl : unhashable = false := Bool.eq_false_iff.mpr hkey
    constructor
    · subst htype
      rw [Store.isHashableClass_congr (keeps_of_run hwarn).store.classes]
      exact isHashableClass_of_run_warnUnhashable hwarn
    · rw [hkeeps.answer?, ← htype, ← hanswer]
      exact (run_compute (hkeeps.isIndependent id ▸ hindependent) hcompute).symm

theorem steady_remembering (id : Nat) (type : Value) (found : Option Binding × Bool) :
    World.Steady (remembering id type found) := by
  constructor
  · intro w n _
    unfold remembering
    split <;> rfl
  · intro w hw
    unfold remembering
    split <;> exact hw

/-- Resolves a type afresh and gives the answer to the cache. -/
def computeIn (engine : Engine) (id : Nat) (type : Value) :
    Eval (Option Binding) :=
  thenChange (computeNoted engine id type) (remembering id type) keeps_remembering
    (steady_remembering id type)

/-- The binding of a type. -/
def lookup (engine : Engine) (id : Nat) (type : Value) : Eval (Option Binding) := do
  note type "start"
  match ← recallIn id type with
  | some b =>
    note type "cached"
    return some b
  | none => computeIn engine id type

/-- The name of a binding, as diagnostics and traces show it. -/
def bindingName (s : Store) : Option Binding → String
  | none => "None"
  | some .chain => "chain_context"
  | some .note => "note_context"
  | some .method => "call_wrap_err"
  | some .unregistered => "_unregistered"
  | some (.custom f) => ((s.function? f).map Function.name).getD "?"

/-- Checks a new set: its conventions are asked about the two most general failure types. -/
def checkConventions (engine : Engine) (id : Nat) : Eval Unit := do
  let set ← bindingSet id
  for probe in [Standard.exception, Standard.object] do
    discard (claim engine id (.std probe) set.conventions)

/-! ## Rules of the program -/

/-- Whether a rule of the program is concerned with a type. -/
def concerns (s : Store) (rule : CustomRule) (type : Value) : Bool :=
  match rule.matching with
  | .all => true
  | .exact => s.isAmong type rule.types
  | .derived => TypeHint.isSubclassSafe s type rule.types

/-- The number of the set that a rule is called with; only a set has a cache and can be asked. -/
def setOf (context : Value) (needed : String) : Eval Nat := do
  match context with
  | .bindings id => return id
  | v => fault (.noAttribute ((← store).typeName v) needed)

/-- What a rule of the program does when it is called with a type and a set. -/
def applyRule (engine : Engine) (rule : CustomRule) (type context : Value) : Eval Value := do
  log (rule.label ++ ":" ++ (← typeLabel type))
  if !concerns (← store) rule type then return .none
  else
    match rule.delegate with
    | some other =>
      return Binding.toValue (← lookup engine (← setOf context "lookup") other)
    | none =>
      if let some seed := rule.seed then seedIn (← setOf context "cache") type seed
      return Binding.toValue rule.binding

/-! ## Merging -/

/-- Merges a context into a failure by its own method. -/
def callMethod (engine : Engine) (error context : Value) : Eval Value := do
  engine.call (← lift ((← store).attr error "wrap_err")) [context] []

/-- Merges a context into a failure. -/
def apply (engine : Engine) (b : Option Binding) (error context : Value) : Eval Value := do
  match b with
  | none => fault (.notCallable "NoneType")
  | some .chain => contextError context error
  | some .note =>
    match (← store).exception? error with
    | some r =>
      addNote r (.str .fresh (← str context))
      return error
    | none => contextError context error
  | some .method => callMethod engine error context
  | some .unregistered =>
    let type ← repr (.cls ((← store).classOf error))
    raiseNew .missingBinding ("No WrapErr binding registered for " ++ type)
  | some (.custom f) => engine.call f [error, context] []

/-- Merges a context into a failure by the binding of its type. -/
def wrap (engine : Engine) (id : Nat) (error context : Value) : Eval Value := do
  let b ← lookup engine id (.cls ((← store).classOf error))
  apply engine b error context

end FaultContext.Resolution
