/-
# FaultContext.Proofs.CapturedFunctions -- calls of captured functions.

A captured function is matched to the parameters of the decorated function when the decoration is
made, and it is called much later, when the decorated function fails.  The two agree: a function
that has been accepted is given arguments that fit it, whatever kinds of parameters it has, as long
as the failed call has a value for every parameter of the decorated function.

What each of its parameters holds is told by `Signature.captured?`, from the parameters of the
decorated function and the arguments of the failed call alone.  A collector of positional arguments
is never given anything, not even if the decorated function has a parameter of its name.

Deliberately not here: functions that stand for others, whose own parameters are not the ones that
are matched.
-/
import FaultContext.Proofs.Acceptance
import FaultContext.Proofs.PlainCalls
import FaultContext.Template.Render

namespace FaultContext

open Eval

namespace Signature

variable {s : Signature} {params : List String} {arguments : Named}

/-! ## What is passed -/

/-- What a parameter of a captured function holds when the call of a function with some parameters
has failed: the argument of its name, if the function has a parameter of that name; or else its
default, which an argument of its name replaces where all arguments are passed. -/
def captured? (s : Signature) (params : List String) (arguments : Named) (p : Param) :
    Option Value :=
  match p.kind with
  | .positionalOnly => p.default
  | .varPositional => some (.tuple .fresh [])
  | .varKeyword => some (collected (arguments.selected (!s.takes ·)))
  | .standard | .keywordOnly =>
    if params.contains p.name then arguments.get? p.name
    else if (s.collector? .varKeyword).isSome then (arguments.get? p.name).or p.default
    else p.default

/-- Whether a parameter of a captured function is matched to one of the decorated function. -/
def isMatched (params : List String) (p : Param) : Bool := p.takesNamed && params.contains p.name

/-- The arguments that a captured function is given. -/
def passed (s : Signature) (params : List String) (arguments : Named) : Named :=
  if (s.collector? .varKeyword).isSome then arguments
  else
    s.filterMap fun p =>
      (if isMatched params p then arguments.get? p.name else none).map (p.name, ·)

theorem names_filterMap_sublist (s : Signature) (value : Param → Option Value) :
    ((s.filterMap fun p => (value p).map (p.name, ·)).map Prod.fst).Sublist s.names := by
  induction s with
  | nil => exact .slnil
  | cons p rest ih =>
    rw [List.filterMap_cons]
    cases value p with
    | none => exact ih.cons p.name
    | some v => exact ih.cons_cons p.name

theorem nodup_passed (hs : s.names.Nodup) (harguments : (arguments.map Prod.fst).Nodup) :
    ((s.passed params arguments).map Prod.fst).Nodup := by
  rw [passed]
  split
  · exact harguments
  · exact hs.sublist (s.names_filterMap_sublist _)

/-- Where not all arguments are passed, only those are that a parameter takes. -/
theorem takes_of_has_passed (hs : s.names.Nodup)
    (hcollector : (s.collector? .varKeyword).isSome = false) {n : String}
    (h : (s.passed params arguments).has n = true) : s.takes n = true := by
  rw [passed, hcollector, if_neg Bool.false_ne_true] at h
  obtain ⟨p, hp, rfl⟩ := exists_of_has_filterMap h
  rw [Named.has, get?_filterMap hs _ hp] at h
  split at h
  next hmatched =>
    rw [takes_name hs hp]
    exact (Bool.and_eq_true_iff.mp hmatched).1
  next => cases h

/-- What is passed under the name of a parameter. -/
theorem get?_passed (hs : s.names.Nodup) {p : Param} (hp : p ∈ s) :
    (s.passed params arguments).get? p.name =
      if (s.collector? .varKeyword).isSome || isMatched params p then arguments.get? p.name
      else none := by
  rw [passed]
  cases (s.collector? .varKeyword).isSome with
  | true => rfl
  | false => exact get?_filterMap hs _ hp

/-! ## What is held -/

theorem collector?_cons (p : Param) (rest : Signature) (kind : ParamKind) :
    collector? (p :: rest) kind = if p.kind = kind then some p else collector? rest kind := by
  rw [collector?, List.find?_cons]
  by_cases hkind : p.kind = kind <;> simp [hkind, collector?]

theorem isSome_collector?_of_mem (hs : s.WellFormed) {p : Param} (hp : p ∈ s)
    (hkind : p.kind = .varKeyword) : (s.collector? .varKeyword).isSome = true := by
  rw [collector?_of_mem hs hp hkind (.inr rfl), Option.isSome_some]

/-- A call without positional arguments gives a parameter what is passed under its name. -/
theorem given?_passed (hs : s.WellFormed) {p : Param} (hp : p ∈ s)
    (htakes : p.takesNamed = true) :
    s.given? [] (s.passed params arguments) p =
      if (s.collector? .varKeyword).isSome || isMatched params p then arguments.get? p.name
      else none := by
  have hplaced : s.placed [] = [] := by simp [placed]
  rw [← get?_passed hs.names_nodup hp, given?, hplaced, htakes]
  cases hkind : p.kind <;> simp [Param.takesNamed, hkind, Named.get?] at htakes ⊢

/-- **What the parameters of a captured function hold**, if there is an argument for each parameter
of the decorated function. -/
theorem value?_passed (hs : s.WellFormed) (hcovers : ∀ n ∈ params, arguments.has n = true)
    {p : Param} (hp : p ∈ s) :
    s.value? [] (s.passed params arguments) p = s.captured? params arguments p := by
  have hnamed : p.takesNamed = true →
      s.value? [] (s.passed params arguments) p =
        if params.contains p.name then arguments.get? p.name
        else if (s.collector? .varKeyword).isSome then (arguments.get? p.name).or p.default
        else p.default := by
    intro htakes
    rw [value?, given?_passed hs hp htakes, isMatched, htakes, Bool.true_and]
    cases hparam : params.contains p.name with
    | true =>
      -- There is an argument of this name, so the default does not matter.
      obtain ⟨v, hv⟩ := Option.isSome_iff_exists.mp (hcovers p.name (by simpa using hparam))
      rw [Bool.or_true, if_pos rfl, if_pos rfl, hv, Option.some_or]
    | false => cases (s.collector? .varKeyword).isSome <;> simp
  cases hkind : p.kind with
  | positionalOnly => simp [value?, given?, captured?, placed, hkind, Param.takesNamed, Named.get?]
  | varPositional => simp [value?, given?, captured?, hkind]
  | varKeyword =>
    rw [value?, given?, captured?, hkind, passed, isSome_collector?_of_mem hs hp hkind]
    rfl
  | standard =>
    rw [hnamed (by simp [Param.takesNamed, hkind]), captured?, hkind]
  | keywordOnly =>
    rw [hnamed (by simp [Param.takesNamed, hkind]), captured?, hkind]

/-- Every parameter that is provided for has a value. -/
theorem isSome_captured? (hcovers : ∀ n ∈ params, arguments.has n = true) {p : Param}
    (hp : Template.Provided params p) : (s.captured? params arguments p).isSome = true := by
  have hdefault : ∀ v, (Option.or v p.default).isSome = (v.isSome || p.default.isSome) :=
    fun v => Option.isSome_or
  rw [captured?]
  rcases hp with hcollector | ⟨hparam, hkind⟩ | hdefault'
  · cases hkind : p.kind <;> simp [Param.isCollector, hkind] at hcollector ⊢
  · have hhas : (arguments.get? p.name).isSome = true := hcovers p.name hparam
    have hcontains : params.contains p.name = true := by simpa using hparam
    rw [hcontains]
    cases h : p.kind <;> simp [h] at hkind ⊢ <;> exact hhas
  · cases p.kind with
    | positionalOnly => exact hdefault'
    | varPositional => rfl
    | varKeyword => rfl
    | _ =>
      dsimp only
      split
      next hcontains => exact hcovers p.name (by simpa using hcontains)
      next =>
        split
        · rw [hdefault, hdefault', Bool.or_true]
        · exact hdefault'

/-- **What is passed to a captured function fits it**, and its parameters then hold what is said. -/
theorem enter_passed (hs : s.WellFormed) (harguments : (arguments.map Prod.fst).Nodup)
    (hcovers : ∀ n ∈ params, arguments.has n = true)
    (hprovided : ∀ p ∈ s, Template.Provided params p) :
    s.enter [] (s.passed params arguments) =
      .ok (s.slots [] (s.passed params arguments)) := by
  refine (enter_eq_ok_iff hs.names_nodup (nodup_passed hs.names_nodup harguments)).mpr
    ⟨⟨⟨fun n _ _ => ?_, fun n hn htakes => ?_, .inl (Nat.zero_le _)⟩, fun p hp => ?_⟩, rfl⟩
  · simp [placed, Named.has, Named.get?]
  · cases hcollector : (s.collector? .varKeyword).isSome with
    | true => rfl
    | false =>
      rw [takes_of_has_passed hs.names_nodup hcollector hn] at htakes
      cases htakes
  · rw [value?_passed hs hcovers hp]
    exact isSome_captured? hcovers (hprovided p hp)

end Signature

/-! ## Captures of functions -/

namespace Template

/-- What has been matched: the parameters that can be given by name and whose names the decorated
function has, and whether there is a collector for all arguments. -/
theorem eq_of_matchParameters {source : Value} {params : List String} {signature : Signature}
    {matched : List String × Bool}
    (h : matchParameters source params signature = .ok matched) :
    matched = ((signature.filter (Signature.isMatched params)).map Param.name,
      (Signature.collector? signature .varKeyword).isSome) := by
  induction signature generalizing matched with
  | nil =>
    cases h
    rfl
  | cons p rest ih =>
    rw [matchParameters] at h
    rw [List.filter_cons, Signature.isMatched, Signature.collector?_cons]
    have hother :
        (if params.contains p.name && p.kind != .positionalOnly then
          (matchParameters source params rest).map fun found => (p.name :: found.1, found.2)
        else if p.default.isNone then .error (.captureParameter source p.name)
        else matchParameters source params rest) = .ok matched →
        matched = ((if params.contains p.name && p.kind != .positionalOnly then
            p :: rest.filter (Signature.isMatched params)
          else rest.filter (Signature.isMatched params)).map Param.name,
            (Signature.collector? rest .varKeyword).isSome) := by
      intro h
      split at h
      next hmatched =>
        obtain ⟨found, hfound, rfl⟩ := except_map_eq_ok.mp h
        rw [if_pos hmatched, ih hfound]
        rfl
      next hmatched =>
        split at h
        · cases h
        · rw [if_neg hmatched]
          exact ih h
    cases hkind : p.kind with
    | varPositional =>
      rw [hkind] at h
      simpa [Param.takesNamed, hkind] using ih h
    | varKeyword =>
      rw [hkind] at h
      obtain ⟨found, hfound, rfl⟩ := except_map_eq_ok.mp h
      simp [Param.takesNamed, hkind, ih hfound]
    | positionalOnly =>
      rw [hkind] at h hother
      simpa [Param.takesNamed, hkind] using hother h
    | standard =>
      rw [hkind] at h hother
      simpa [Param.takesNamed, hkind] using hother h
    | keywordOnly =>
      rw [hkind] at h hother
      simpa [Param.takesNamed, hkind] using hother h

end Template

section Captured

variable {s : Store} {source : Value} {f : Function} {params : List String}
  {name : Option String} {c : Capture}

/-- The record of a captured function. -/
theorem Template.eq_of_capture_function (hf : s.function? source = some f)
    (hunwrapped : f.wrapped = none) (h : Template.capture s params name source = .ok c) :
    c = ⟨name, source, some ((f.params.filter (Signature.isMatched params)).map Param.name),
        (f.params.collector? .varKeyword).isSome⟩ ∧
      ∀ p ∈ f.params, Template.Provided params p := by
  have hcallable : s.isCallable source = true := by
    obtain ⟨r, cls, attributes, rfl, hr⟩ := Store.exists_of_function? hf
    simp only [Store.isCallable, hr]
  have hsignature : s.signature true source = .ok f.params := by
    refine Store.signature_of_function? hf ?_
    rw [if_pos rfl, Store.unwrap_of_unwrapped hf hunwrapped, hf]
  rw [Template.capture, hcallable, hsignature] at h
  obtain ⟨matched, hmatched, rfl⟩ := except_map_eq_ok.mp h
  refine ⟨?_, Template.matchParameters_ok_iff.mp ⟨matched, hmatched⟩⟩
  rw [Template.eq_of_matchParameters hmatched]

/-- A captured function is called with what is passed to it. -/
theorem Capture.evaluate_eq (hf : s.function? source = some f) (hunwrapped : f.wrapped = none)
    (h : Template.capture s params name source = .ok c) (engine : Engine) (scope : Scope) :
    c.evaluate engine scope =
      engine.call source [] (f.params.passed params scope.arguments) := by
  obtain ⟨rfl, -⟩ := Template.eq_of_capture_function hf hunwrapped h
  have hpassed : ((f.params.filter (Signature.isMatched params)).map Param.name).filterMap
      (fun n => (scope.arguments.get? n).map (n, ·)) =
        f.params.filterMap fun p =>
          (if Signature.isMatched params p then scope.arguments.get? p.name else none).map
            (p.name, ·) := by
    rw [List.filterMap_map, List.filterMap_filter]
    refine List.filterMap_congr fun p _ => ?_
    cases Signature.isMatched params p <;> rfl
  rw [Capture.evaluate, Signature.passed]
  dsimp only
  rw [hpassed]
  cases (f.params.collector? .varKeyword).isSome <;> rfl

/-- A function that gives its result later is called without an exception if the arguments fit. -/
theorem run_call_of_pending {w : World} {v : Value} {args : List Value} {named slots : Named}
    (hf : w.store.function? v = some f) (hform : f.code.form ≠ .direct)
    (henter : f.params.enter args named = .ok slots) (depth : Nat) (handled : Option Ref) :
    ∃ result w', ((Engine.within (depth + 1)).call v args named).run handled w =
      (.ok result, w') := by
  have hentered : (f.enter args named).run handled w = (.ok (f.locals slots), w) := by
    rw [Function.enter, henter]
    rfl
  rw [run_call_function hf, Engine.callFunction]
  cases h : f.code.form with
  | direct => exact absurd h hform
  | asynchronous => exact ⟨_, _, run_bind_of_ok (run_bind_of_ok hentered)⟩
  | generator => exact ⟨_, _, run_bind_of_ok (run_bind_of_ok hentered)⟩
  | asynchronousGenerator => exact ⟨_, _, run_bind_of_ok (run_bind_of_ok hentered)⟩

/-- **A captured function that has been accepted can always be called.**  If the scope has an
argument for each parameter of the decorated function, evaluating the capture calls the function
with arguments that fit: its parameters get what `captured?` says, and each of them gets something.

So in any world that still has the function, its body runs with these and nothing else is seen of
the scope, or the call that is to run later is made; arguments are never refused. -/
theorem captured_function_called (hf : s.function? source = some f) (hplain : f.Plain)
    (hcapture : Template.capture s params name source = .ok c) {scope : Scope}
    (hdistinct : (scope.arguments.map Prod.fst).Nodup)
    (hcovers : ∀ n ∈ params, scope.arguments.has n = true) :
    ∃ given slots,
      (∀ engine : Engine, c.evaluate engine scope = engine.call source [] given) ∧
      f.params.enter [] given = .ok slots ∧
      (∀ p ∈ f.params, slots.get? p.name = f.params.captured? params scope.arguments p ∧
        (slots.get? p.name).isSome = true) ∧
      ∀ (w : World) (depth : Nat) (handled : Option Ref), w.store.function? source = some f →
        (f.code.form = .direct → ∀ body, (Engine.within depth).HasBody f body →
          (c.evaluate (Engine.within (depth + 1)) scope).run handled w =
            (body (f.locals slots)).run handled w) ∧
        (f.code.form ≠ .direct → ∃ result w',
          (c.evaluate (Engine.within (depth + 1)) scope).run handled w = (.ok result, w')) := by
  obtain ⟨-, hprovided⟩ := Template.eq_of_capture_function hf hplain.unwrapped hcapture
  have hevaluate := Capture.evaluate_eq hf hplain.unwrapped hcapture
  have henter := Signature.enter_passed hplain.params hdistinct hcovers hprovided
  refine ⟨_, _, fun engine => hevaluate engine scope, henter, fun p hp => ?_,
    fun w depth handled hw => ⟨fun hform body hbody => ?_, fun hform => ?_⟩⟩
  · have hvalue := Signature.value?_passed hplain.params hcovers hp
    rw [Signature.slots, Signature.get?_filterMap hplain.params.names_nodup _ hp, hvalue]
    exact ⟨rfl, Signature.isSome_captured? hcovers (hprovided p hp)⟩
  · rw [hevaluate, ← run_complete_false]
    exact complete_of_fits hw (hform.trans (if_neg Bool.false_ne_true).symm) henter hbody handled
  · rw [hevaluate]
    exact run_call_of_pending hw hform henter depth handled

end Captured

/-- A parameter of each kind. -/
def Signature.motley : Signature :=
  [⟨"x", .positionalOnly, some .none⟩, ⟨"a", .standard, none⟩, ⟨"rest", .varPositional, none⟩,
    ⟨"k", .keywordOnly, some (.bool false)⟩, ⟨"more", .varKeyword, none⟩]

theorem Signature.wellFormed_motley : Signature.motley.WellFormed where
  ordered := rfl
  names_nodup := by decide
  collectors := by simp [Signature.motley, Param.isCollector]

/-- A function with a parameter of each kind is captured for a function that has parameters of two
of the names.  The positional-only one keeps its default, and the argument of its name is collected.
-/
theorem motley_function_called :
    ∃ (w : World) (f : Function) (c : Capture) (given slots : Named),
      w.store.function? (.object ⟨0⟩) = some f ∧ f.Plain ∧ f.params = Signature.motley ∧
      Template.capture w.store ["a", "x"] none (.object ⟨0⟩) = .ok c ∧
      (∀ engine : Engine, c.evaluate engine
        ⟨[], [], [("a", .bool true), ("x", .bool true)]⟩ = engine.call (.object ⟨0⟩) [] given) ∧
      Signature.motley.enter [] given = .ok slots ∧
      slots.get? "x" = some .none ∧ slots.get? "a" = some (.bool true) ∧
      slots.get? "rest" = some (.tuple .fresh []) ∧ slots.get? "k" = some (.bool false) ∧
      slots.get? "more" = some (Signature.collected [("x", .bool true)]) := by
  obtain ⟨w, f, c, hf, hparams, hunwrapped, hown, hcapture⟩ : ∃ (w : World) (f : Function)
      (c : Capture), w.store.function? (.object ⟨0⟩) = some f ∧ f.params = Signature.motley ∧
      f.wrapped = none ∧ f.code.isLayer = false ∧
      Template.capture w.store ["a", "x"] none (.object ⟨0⟩) = .ok c :=
    ⟨World.holding #[.taking Signature.motley (.body .direct .locals 0 none)], _, _, rfl, rfl, rfl,
      rfl, rfl⟩
  have hplain : f.Plain := ⟨hunwrapped, hown, hparams ▸ Signature.wellFormed_motley⟩
  let scope : Scope := ⟨[], [], [("a", .bool true), ("x", .bool true)]⟩
  have hdistinct : (scope.arguments.map Prod.fst).Nodup := by decide
  have hcovers : ∀ n ∈ ["a", "x"], scope.arguments.has n = true := by
    simp [scope, Named.has, Named.get?]
  obtain ⟨given, slots, hevaluate, henter, hslots, -⟩ :=
    captured_function_called hf hplain hcapture hdistinct hcovers
  rw [hparams] at henter hslots
  simp only [Signature.motley, List.forall_mem_cons] at hslots
  obtain ⟨⟨hx, -⟩, ⟨ha, -⟩, ⟨hrest, -⟩, ⟨hk, -⟩, ⟨hmore, -⟩, -⟩ := hslots
  exact ⟨w, f, c, given, slots, hf, hplain, hparams, hcapture, hevaluate, henter, hx, ha, hrest, hk,
    hmore⟩

/-- A collector of positional arguments is named in the parameters of the decorated function and is
not positional-only, and the scope has an argument of its name.  It gets none all the same: the
function hands out what this parameter holds, and that is nothing. -/
theorem named_collector_empty :
    ∃ (w : World) (f : Function) (c : Capture) (p : Param) (scope : Scope),
      w.store.function? (.object ⟨0⟩) = some f ∧ f.Plain ∧
      f.code = .body .direct (.argument p.name) 0 none ∧
      Template.capture w.store ["args"] none (.object ⟨0⟩) = .ok c ∧
      (∀ n ∈ ["args"], scope.arguments.has n = true) ∧
      p ∈ f.params ∧ p.name ∈ ["args"] ∧ p.kind ≠ .positionalOnly ∧
      scope.arguments.get? p.name = some (.tuple .fresh [.none]) ∧
      (c.evaluate (Engine.within 1) scope).run none w = (.ok (.tuple .fresh []), w) := by
  let p : Param := ⟨"args", .varPositional, none⟩
  refine ⟨World.holding #[.taking [p] (.body .direct (.argument "args") 0 none)], _, _, p,
    ⟨[], [], [("args", .tuple .fresh [.none])]⟩, rfl, ⟨rfl, rfl, ?_⟩, rfl, rfl, ?_, .head _,
    .head _, by decide, rfl, rfl⟩
  · exact ⟨rfl, by decide, by simp [p]⟩
  · simp [Named.has, Named.get?]

end FaultContext
