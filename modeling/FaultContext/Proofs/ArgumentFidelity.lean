/-
# FaultContext.Proofs.ArgumentFidelity -- the arguments of plain functions.

A guard learns what happened in a call from outside: it binds the arguments again, to find out
whether the body was entered and what its parameters held.  For a plain function both answers are
right, and the names that contexts refer to have the very values that the body has seen, unless
there is a clash: a named argument with the name of a positional-only parameter is collected by the
call and refused by the binding.  The body has run then, but the guard takes the call for one with
arguments that do not fit.
-/
import FaultContext.Proofs.PlainCalls

namespace FaultContext

open Eval

/-! ## Scopes -/

section Scopes

variable {s : Signature} {args : List Value} {named : Named} {isPartial : Bool}

theorem Signature.names_slots (hfilled : ∀ p ∈ s, (s.value? args named p).isSome) :
    (s.slots args named).map Prod.fst = s.names := by
  rw [slots, List.map_filterMap, names, ← List.filterMap_eq_map]
  refine List.filterMap_congr fun p hp => ?_
  obtain ⟨v, hv⟩ := Option.isSome_iff_exists.mp (hfilled p hp)
  rw [hv]
  rfl

/-- What a scope has under the names of a signature is what the parameters hold. -/
theorem Scope.bound?_eq_some_iff (hs : s.WellFormed) {found : Named} :
    Scope.bound? s (Signature.bindWith isPartial) args named = some found ↔
      (s.Places args named ∧ ¬ s.Clashes args named ∧
        (isPartial ∨ ∀ p ∈ s, (s.value? args named p).isSome)) ∧
      found = s.slots args named := by
  have hbound : ∀ bound, (s.bindWith isPartial args named).toOption = some bound ↔
      s.bindWith isPartial args named = .ok bound := by
    intro bound
    cases s.bindWith isPartial args named <;> simp [Except.toOption]
  simp only [Scope.bound?, Option.map_eq_some_iff, hbound, Signature.bindWith_eq_ok_iff hs]
  constructor
  · rintro ⟨bound, ⟨hsucceeds, rfl⟩, rfl⟩
    exact ⟨hsucceeds, Signature.withDefaults_matched hs hsucceeds.2.1⟩
  · rintro ⟨hsucceeds, rfl⟩
    exact ⟨_, ⟨hsucceeds, rfl⟩, Signature.withDefaults_matched hs hsucceeds.2.1⟩

/-- Where all arguments have places, the scope shows what the parameters hold. -/
theorem Scope.arguments_of_places {d : Descriptor} (hs : d.signature.WellFormed)
    (hplaces : d.signature.Places args named) (hclash : ¬ d.signature.Clashes args named) :
    (Scope.ofCall d args named).arguments = d.signature.slots args named := by
  have hpartial : Scope.bound? d.signature (Signature.bindWith true) args named =
      some (d.signature.slots args named) :=
    (Scope.bound?_eq_some_iff hs).mpr ⟨⟨hplaces, hclash, .inl rfl⟩, rfl⟩
  show ((Scope.bound? d.signature (Signature.bindWith false) args named).or
    ((Scope.bound? d.signature (Signature.bindWith true) args named).or _)).getD named = _
  -- A binding that is not partial gives the same if it succeeds.
  cases hfull : Scope.bound? d.signature (Signature.bindWith false) args named with
  | none => rw [hpartial]; rfl
  | some found => exact ((Scope.bound?_eq_some_iff hs).mp hfull).2

theorem Scope.get?_of_places {d : Descriptor} (hs : d.signature.WellFormed)
    (hplaces : d.signature.Places args named) (hclash : ¬ d.signature.Clashes args named) {p : Param}
    (hp : p ∈ d.signature) :
    (Scope.ofCall d args named).arguments.get? p.name = d.signature.value? args named p := by
  rw [Scope.arguments_of_places hs hplaces hclash]
  exact Signature.get?_filterMap hs.names_nodup _ hp

/-- Where there is an argument without a place, or a clash, the function's own signature is left. -/
theorem Scope.arguments_of_not_places {d : Descriptor} (hs : d.signature.WellFormed)
    (hnot : ¬ (d.signature.Places args named ∧ ¬ d.signature.Clashes args named)) :
    (Scope.ofCall d args named).arguments =
      (Scope.bound? d.callSignature (Signature.bindWith false) args named).getD named := by
  have hnone : ∀ isPartial, Scope.bound? d.signature (Signature.bindWith isPartial) args named =
      none := by
    intro isPartial
    cases hfound : Scope.bound? d.signature (Signature.bindWith isPartial) args named with
    | none => rfl
    | some found =>
      have hbound := ((Scope.bound?_eq_some_iff hs).mp hfound).1
      exact absurd ⟨hbound.1, hbound.2.1⟩ hnot
  show ((Scope.bound? d.signature (Signature.bindWith false) args named).or
    ((Scope.bound? d.signature (Signature.bindWith true) args named).or
      (Scope.bound? d.callSignature (Signature.bindWith false) args named))).getD named = _
  rw [hnone, hnone]
  rfl

/-- A clash leaves nothing to be bound. -/
theorem Scope.bound?_of_clashes (hs : s.WellFormed) (hclash : s.Clashes args named) :
    Scope.bound? s (Signature.bindWith isPartial) args named = none := by
  cases hfound : Scope.bound? s (Signature.bindWith isPartial) args named with
  | none => rfl
  | some found => exact absurd hclash ((Scope.bound?_eq_some_iff hs).mp hfound).1.2.1

/-- After a clash nothing is left but the named arguments. -/
theorem Scope.arguments_of_clashes {d : Descriptor} (hs : d.signature.WellFormed)
    (hsame : d.callSignature = d.signature) (hclash : d.signature.Clashes args named) :
    (Scope.ofCall d args named).arguments = named := by
  rw [Scope.arguments_of_not_places hs fun h => h.2 hclash, hsame, Scope.bound?_of_clashes hs hclash]
  rfl

end Scopes

/-- **Plain functions and what is said about their calls.**  A plain function has been described, and
is called in a later world.  It has a body, and every call gets into the body with what the
parameters hold, or is refused.  The description accepts the arguments of exactly those calls that
get into the body without a clash.  The scope of such a call has the parameters as its names and
what they hold as their values, and a guard merges its context into what the body raises; after a
clash the scope has nothing but the named arguments, and the exception goes on without a context. -/
theorem described_accepts_iff_enters {engine : Engine} {v : Value} {first : Option Ref}
    {w₀ w₁ : World} {d : Descriptor}
    (hdescribed : (Descriptor.ofValue engine v).run first w₀ = (.ok d, w₁)) {f : Function}
    (hf : w₀.store.function? d.target = some f) (hplain : f.Plain) {w : World}
    (hlater : w₁.store.Persists w.store) (depth : Nat) :
    ∃ body, (Engine.within depth).HasBody f body ∧ ∀ (args : List Value) (named : Named),
      (named.map Prod.fst).Nodup →
      (∀ handled, ((Engine.within (depth + 1)).complete d.asynchronous d.target args named).run
        handled w =
          match f.params.enter args named with
          | .ok slots => (Guard.shell d.asynchronous (body (f.locals slots))).run handled w
          | .error problem => (f.refusal problem).run handled w) ∧
      (d.callSignature.accepts args named ↔
        (∃ slots, f.params.enter args named = .ok slots) ∧ ¬ f.params.Clashes args named) ∧
      ∀ slots, f.params.enter args named = .ok slots →
        (¬ f.params.Clashes args named →
          (Scope.ofCall d args named).arguments = slots ∧ slots.map Prod.fst = f.params.names ∧
          ∀ g : Guard, g.descriptor = d → ∀ (spy : Engine) (e : Ref),
            g.raised spy e args named = g.merged spy e args named) ∧
        (f.params.Clashes args named →
          (Scope.ofCall d args named).arguments = named ∧
          ∀ g : Guard, g.descriptor = d → ∀ (spy : Engine) (e : Ref),
            g.raised spy e args named = pure e) := by
  have hdescribes := Descriptor.run_ofValue hdescribed
  obtain ⟨hsignature, hcallSignature⟩ := hdescribes.of_plain hf hplain
  obtain ⟨attributes, hlaterf⟩ :=
    ((keeps_of_run hdescribed).store.objects.trans hlater).function? hf
  obtain ⟨body, hbody⟩ := (Engine.within depth).exists_body hplain.own
  have hlaterBody := hbody.withAttributes hplain.own attributes
  have hs := hplain.params
  have hform := hdescribes.form hf
  refine ⟨body, hbody, fun args named hnamed => ?_⟩
  have haccepts : d.callSignature.accepts args named ↔
      (∃ slots, f.params.enter args named = .ok slots) ∧ ¬ f.params.Clashes args named := by
    rw [hcallSignature, Signature.accepts_iff hs]
    refine and_congr_left fun _ => ?_
    constructor
    · intro hfits
      exact ⟨_, (Signature.enter_eq_ok_iff hs.names_nodup hnamed).mpr ⟨hfits, rfl⟩⟩
    · rintro ⟨slots, hslots⟩
      exact ((Signature.enter_eq_ok_iff hs.names_nodup hnamed).mp hslots).1
  refine ⟨fun handled => ?_, haccepts, fun slots hslots => ⟨fun hclash => ?_, fun hclash => ?_⟩⟩
  · cases hslots : f.params.enter args named with
    | ok slots => exact complete_of_fits hlaterf hform hslots hlaterBody handled
    | error problem => exact complete_of_refused hlaterf hplain.own hslots _ depth handled
  · obtain ⟨hfits, rfl⟩ := (Signature.enter_eq_ok_iff hs.names_nodup hnamed).mp hslots
    refine ⟨?_, Signature.names_slots hfits.filled, ?_⟩
    · rw [← hsignature] at hs hfits hclash ⊢
      exact Scope.arguments_of_places hs hfits.toPlaces hclash
    · rintro g rfl spy e
      exact Guard.raised_of_accepts (haccepts.mpr ⟨⟨_, hslots⟩, hclash⟩) e
  · refine ⟨?_, ?_⟩
    · rw [← hsignature] at hs hclash
      exact Scope.arguments_of_clashes hs (hcallSignature.trans hsignature.symm) hclash
    · rintro g rfl spy e
      exact Guard.raised_of_not_accepts (Bool.not_eq_true _ ▸ fun h => (haccepts.mp h).2 hclash) e

/-- A positional-only parameter with a default, and a named argument of the same name: the body is
entered and sees the default, while the guard takes the arguments for ones that do not fit. -/
theorem collected_name_rejected :
    let params : Signature :=
      [⟨"a", .positionalOnly, some (.int .fresh 1)⟩, ⟨"kw", .varKeyword, none⟩]
    let w₀ := World.holding #[.taking params (.body .direct (.value (.int 5)) 0 none)]
    let named : Named := [("a", .int .fresh 2)]
    ∃ d w₁, (Descriptor.ofValue (Engine.within 0) (.object ⟨0⟩)).run none w₀ = (.ok d, w₁) ∧
      params.enter [] named =
        .ok [("a", .int .fresh 1), ("kw", Signature.collected named)] ∧
      d.callSignature.accepts [] named = false ∧
      (Scope.ofCall d [] named).arguments = named := by
  intro params w₀ named
  obtain ⟨d, f, hdescribed, hf, hparams, hunwrapped, hown⟩ : ∃ d f,
      (Descriptor.ofValue (Engine.within 0) (.object ⟨0⟩)).run none w₀ = (.ok d, w₀) ∧
      w₀.store.function? d.target = some f ∧ f.params = params ∧ f.wrapped = none ∧
      f.code.isLayer = false := ⟨_, _, rfl, rfl, rfl, rfl, rfl⟩
  have hwellFormed : params.WellFormed := by
    refine ⟨rfl, by decide, fun p hp hcollector => ?_⟩
    rcases List.mem_pair.mp hp with rfl | rfl
    · cases hcollector
    · rfl
  have hclash : params.Clashes [] named := ⟨_, List.mem_cons_self, rfl, rfl⟩
  have hslots : params.enter [] named =
      .ok [("a", .int .fresh 1), ("kw", Signature.collected named)] := rfl
  rw [← hparams] at hwellFormed hclash hslots
  obtain ⟨_, _, hall⟩ := described_accepts_iff_enters hdescribed hf ⟨hunwrapped, hown, hwellFormed⟩
    (fun _ _ h => h) 0
  obtain ⟨-, haccepts, hscope⟩ := hall [] named (by decide)
  refine ⟨d, w₀, hdescribed, rfl, ?_, ((hscope _ hslots).2 hclash).1⟩
  rw [← Bool.not_eq_true]
  exact fun h => (haccepts.mp h).2 hclash

end FaultContext
