/-
# FaultContext.Proofs.InjectedArguments -- the arguments of layered functions.

The scope of a failed call is made of the arguments of the outer call and the parameters of the
function at the bottom.  It shows what these parameters would hold in a call with just these
arguments, while the body has seen what they hold in the call that the layers have made of it.

Under layers that only inject arguments, both are the same for a parameter that the outer call names,
and for every parameter where nothing is injected that could go to it.  Positional arguments that
are injected move the others to the next parameters, and the scope does not know.

Layers with parameters of their own take arguments that have no places in the function at the bottom.
The scope then goes by the outermost layer, and by the names of the call alone where even that layer
has a clash; a parameter that all layers pass on under its name is shown as the body has it.
-/
import FaultContext.Proofs.ArgumentFidelity
import FaultContext.Proofs.PassingDown

namespace FaultContext

open Eval

namespace Signature

/-! ## More arguments -/

section More

variable {s : Signature} {args injected : List Value} {named injectedNamed : Named}

/-- The parameters that have a positional argument keep one. -/
theorem has_placed_append {n : String} (h : (s.placed args).has n) :
    (s.placed (injected ++ args)).has n := by
  rw [has_placed_iff] at h ⊢
  obtain ⟨p, hp, hname⟩ := h
  refine ⟨p, ?_, hname⟩
  have hlength : args.length ≤ (injected ++ args).length := by
    rw [List.length_append]
    omega
  exact (List.take_sublist_take_left hlength).subset hp

/-- Arguments have places if they have some together with others before them. -/
theorem Places.of_append (h : s.Places (injected ++ args) (injectedNamed ++ named)) :
    s.Places args named := by
  have hnamed : ∀ n, named.has n → Named.has (injectedNamed ++ named) n := by
    intro n hn
    rw [Named.has_append, hn, Bool.or_true]
  refine ⟨fun n hn htakes => ?_, fun n hn htakes => h.known n (hnamed n hn) htakes, ?_⟩
  · have honce := h.once n (hnamed n hn) htakes
    rw [← Bool.not_eq_true] at honce ⊢
    exact fun hplaced => honce (has_placed_append hplaced)
  · refine h.room.imp_left fun hroom => ?_
    rw [List.length_append] at hroom
    omega

/-- A parameter that the call gives by name holds the same whatever else is given. -/
theorem value?_append_of_has (h : s.Places (injected ++ args) (injectedNamed ++ named)) {p : Param}
    (hp : p ∈ s) (htakes : p.takesNamed) (hhas : named.has p.name)
    (hfree : injectedNamed.has p.name = false) :
    s.value? (injected ++ args) (injectedNamed ++ named) p = s.value? args named p := by
  have hmore : Named.has (injectedNamed ++ named) p.name := by
    rw [Named.has_append, hhas, Bool.or_true]
  rw [value?, value?, given?_of_has h hp htakes hmore, given?_of_has h.of_append hp htakes hhas,
    Named.get?_append, Named.get?_eq_none_iff.mpr hfree, Option.none_or]

/-- Named arguments change nothing for a parameter that they do not go to. -/
theorem value?_append_named {p : Param} (hfree : injectedNamed.has p.name = false)
    (hcollects : p.kind = .varKeyword → ∀ n, injectedNamed.has n → s.takes n) :
    s.value? args (injectedNamed ++ named) p = s.value? args named p := by
  rw [value?, value?, given?, given?, Named.get?_append, Named.get?_eq_none_iff.mpr hfree,
    Option.none_or]
  cases hkind : p.kind with
  | varKeyword =>
    have hnothing : injectedNamed.selected (!s.takes ·) = [] := by
      rw [Named.selected_eq_nil_iff]
      intro n hn
      rw [hcollects hkind n hn]
      rfl
    rw [Named.selected] at hnothing ⊢
    simp only [List.filter_append, hnothing, List.nil_append, Named.selected]
  | _ => rfl

end More

end Signature

/-- A parameter gets nothing from some named arguments, neither by its name nor by collecting. -/
def Param.GetsNothing (p : Param) (s : Signature) (named : Named) : Prop :=
  named.has p.name = false ∧ (p.kind = .varKeyword → ∀ n, named.has n → s.takes n)

/-- The names and values of a scope where an argument of the call has no place in the signature that
callers see, or clashes: what the parameters of the called function itself hold, and after a clash
there as well the named arguments. -/
theorem Scope.arguments_of_entered {d : Descriptor} {args : List Value} {named own : Named}
    (hs : d.signature.WellFormed) (hcalled : d.callSignature.WellFormed)
    (hnamed : (named.map Prod.fst).Nodup)
    (hnot : ¬ (d.signature.Places args named ∧ ¬ d.signature.Clashes args named))
    (hown : d.callSignature.enter args named = .ok own) :
    (¬ d.callSignature.Clashes args named → (Scope.ofCall d args named).arguments = own) ∧
      (d.callSignature.Clashes args named → (Scope.ofCall d args named).arguments = named) := by
  rw [Scope.arguments_of_not_places hs hnot]
  constructor
  · intro hclash
    obtain ⟨hfits, rfl⟩ := (Signature.enter_eq_ok_iff hcalled.names_nodup hnamed).mp hown
    rw [(Scope.bound?_eq_some_iff hcalled).mpr
      ⟨⟨hfits.toPlaces, hclash, .inr hfits.filled⟩, rfl⟩]
    rfl
  · intro hclash
    rw [Scope.bound?_of_clashes hcalled hclash]
    rfl

/-- What the scope shows for a parameter is what the called function receives under that name, if it
takes arguments by that name and one of three things is so: the call gives one; or the scope goes by
the signature of the called function; or the parameter holds the same. -/
theorem Scope.received?_of_get? {d : Descriptor} {args : List Value} {named own : Named}
    (hs : d.signature.WellFormed) (hcalled : d.callSignature.WellFormed)
    (hnamed : (named.map Prod.fst).Nodup) (hown : d.callSignature.enter args named = .ok own)
    {p : Param} (hp : p ∈ d.signature) (htakes : d.callSignature.TakesByName p.name)
    (hright : p.takesNamed ∧ named.has p.name ∨
      ¬ (d.signature.Places args named ∧ ¬ d.signature.Clashes args named) ∨
      d.signature.value? args named p = d.callSignature.received? args named p.name) {x : Value}
    (hx : (Scope.ofCall d args named).arguments.get? p.name = some x) :
    d.callSignature.received? args named p.name = some x := by
  have hfits := ((Signature.enter_eq_ok_iff hcalled.names_nodup hnamed).mp hown).1
  have hgiven : ∀ y, named.get? p.name = some y →
      d.callSignature.received? args named p.name = some y := fun y hy =>
    Signature.received?_of_takesByName hcalled.names_nodup hfits.toPlaces htakes hy
  by_cases hplaces : d.signature.Places args named ∧ ¬ d.signature.Clashes args named
  · rw [Scope.get?_of_places hs hplaces.1 hplaces.2 hp] at hx
    rcases hright with ⟨hbyName, hhas⟩ | hnot | hsame
    · rw [Signature.value?, Signature.given?_of_has hplaces.1 hp hbyName hhas] at hx
      obtain ⟨y, hy⟩ := Option.isSome_iff_exists.mp hhas
      rw [hy] at hx
      rw [hgiven y hy]
      exact hx
    · exact absurd hplaces hnot
    · rw [← hsame]
      exact hx
  · obtain ⟨hown', hclashes⟩ := Scope.arguments_of_entered hs hcalled hnamed hplaces hown
    by_cases hclash : d.callSignature.Clashes args named
    · rw [hclashes hclash] at hx
      exact hgiven x hx
    · rw [hown' hclash] at hx
      have hmem := Signature.mem_names_of_enter hcalled.names_nodup hnamed hown hx
      rw [← Signature.get?_of_enter hcalled.names_nodup hnamed hown hmem]
      exact hx

/-- **Scopes and layers.**  A function is described that stands for a plain one through a number of
layers, each asynchronous or not, and a later call of it hands arguments down with which the plain
function is entered.

The body then sees what the parameters hold with the arguments handed down.  The scope shows what
they hold with the arguments of the call itself, as far as these have places and there is no clash.
Otherwise it shows what the parameters of the outermost layer hold, and the named arguments of the
call if there is a clash for that layer as well.

Under layers that only inject arguments those of the call always have places, and the scope is right
about every parameter that the call gives by name, and, if no positional argument is injected, about
every parameter that gets nothing from the injected named arguments.

Under layers of any kind that pass on under the name of a parameter what they receive under it, the
body sees what the outermost layer receives.  If that layer takes arguments by this name, the scope is
right about the parameter where the call gives it by name, where the scope goes by the outermost
layer, and where the parameter holds the same in a call with just these arguments. -/
theorem scope_of_layered_call {engine : Engine} {v bottom : Value} {first handled : Option Ref}
    {w₀ w₁ w : World} {d : Descriptor}
    (hdescribed : (Descriptor.ofValue engine v).run first w₀ = (.ok d, w₁)) {layers : Nat}
    (hwraps : w₀.store.Wraps bottom layers d.target) {f : Function}
    (hf : w₀.store.function? bottom = some f) (hplain : f.Plain)
    (hform : f.code.form = .direct ∨ d.asynchronous = true ∧ f.code.form = .asynchronous)
    {outer : Function} (houter : w₀.store.function? d.target = some outer)
    (hparams : outer.params.WellFormed) (hlater : w₁.store.Persists w.store)
    {args args' : List Value} {named named' slots : Named} (hnamed : (named.map Prod.fst).Nodup)
    (hcall : HandsDown handled w d.asynchronous bottom layers d.target args named args' named')
    (hslots : f.params.enter args' named' = .ok slots) :
    (∀ depth, f.EnteredBy slots handled w d.asynchronous depth d.asynchronous
      ((Engine.within (depth + 1 + layers)).complete d.asynchronous d.target args named)) ∧
    (∀ p ∈ f.params, slots.get? p.name = f.params.value? args' named' p) ∧
    (f.params.Places args named → ¬ f.params.Clashes args named →
      ∀ p ∈ f.params, (Scope.ofCall d args named).arguments.get? p.name =
        f.params.value? args named p) ∧
    (∃ own, outer.params.enter args named = .ok own ∧
      (¬ (f.params.Places args named ∧ ¬ f.params.Clashes args named) →
        (¬ outer.params.Clashes args named → (Scope.ofCall d args named).arguments = own) ∧
        (outer.params.Clashes args named → (Scope.ofCall d args named).arguments = named))) ∧
    (∀ injected injectedNamed, w.store.Injects bottom d.target injected injectedNamed →
      f.params.Places args named ∧
      (¬ f.params.Clashes args named → ∀ p ∈ f.params,
        p.takesNamed ∧ named.has p.name ∨
          injected = [] ∧ p.GetsNothing f.params injectedNamed →
        (Scope.ofCall d args named).arguments.get? p.name = slots.get? p.name)) ∧
    ∀ p ∈ f.params, w.store.PassesDown bottom p.name d.target →
      (∀ x, outer.params.received? args named p.name = some x → slots.get? p.name = some x) ∧
      (outer.params.TakesByName p.name →
        p.takesNamed ∧ named.has p.name ∨
          ¬ (f.params.Places args named ∧ ¬ f.params.Clashes args named) ∨
          f.params.value? args named p = outer.params.received? args named p.name →
        ∀ x, (Scope.ofCall d args named).arguments.get? p.name = some x →
          slots.get? p.name = some x) := by
  have hdescribes := Descriptor.run_ofValue hdescribed
  have hkept := (keeps_of_run hdescribed).store.objects.trans hlater
  obtain ⟨attributes, hlaterf⟩ := hkept.function? hf
  obtain ⟨outerAttributes, hlaterOuter⟩ := hkept.function? houter
  -- Callers see the parameters of the function at the bottom, and call the outermost layer.
  have hsignature := hwraps.signature hf hplain.unwrapped hdescribes.signature
  have hcallSignature : d.callSignature = outer.params :=
    Except.ok.inj (hdescribes.callSignature.symm.trans (Store.signature_of_function? houter houter))
  have hs : d.signature.WellFormed := hsignature ▸ hplain.params
  have hcalled : d.callSignature.WellFormed := hcallSignature ▸ hparams
  have hnames := hplain.params.names_nodup
  have hnamed' := hcall.nodup hnamed
  have hfits := ((Signature.enter_eq_ok_iff hnames hnamed').mp hslots).1
  have hreceived : ∀ p ∈ f.params, slots.get? p.name = f.params.received? args' named' p.name :=
    fun p hp => Signature.get?_of_enter hnames hnamed' hslots (List.mem_map_of_mem hp)
  have hvalues : ∀ p ∈ f.params, slots.get? p.name = f.params.value? args' named' p :=
    fun p hp => (hreceived p hp).trans (Signature.received?_of_mem hnames hp)
  obtain ⟨own, hown⟩ : ∃ own, d.callSignature.enter args named = .ok own := by
    obtain ⟨g, own, hg, hown⟩ := hcall.exists_slots hlaterf hslots
    obtain rfl := Option.some.inj (hlaterOuter.symm.trans hg)
    exact ⟨own, hcallSignature ▸ hown⟩
  refine ⟨fun depth => ?_, hvalues, ?_, ⟨own, hcallSignature ▸ hown, ?_⟩,
    fun injected injectedNamed hinjects => ?_, fun p hp hdown => ?_⟩
  · have houterForm := hdescribes.form houter
    have hentered := hcall.enteredBy_complete hlaterf hplain.own hslots hform hlaterOuter houterForm
      depth
    exact hentered.withAttributes hplain.own f.attributes
  · rw [← hsignature]
    exact fun hplaces hclash p hp => Scope.get?_of_places hs hplaces hclash hp
  · rw [← hsignature, ← hcallSignature]
    exact fun hnot => Scope.arguments_of_entered hs hcalled hnamed hnot hown
  · obtain ⟨rfl, rfl, hdisjoint⟩ := hinjects.of_handsDown hlaterf hplain.own hcall
    have hplaces := hfits.toPlaces.of_append
    refine ⟨hplaces, fun hclash p hp hright => ?_⟩
    rw [hvalues p hp]
    rw [← hsignature] at hplaces hclash hp hright hfits ⊢
    rw [Scope.get?_of_places hs hplaces hclash hp]
    rcases hright with ⟨htakes, hhas⟩ | ⟨rfl, hfree, hcollects⟩
    · exact (Signature.value?_append_of_has hfits.toPlaces hp htakes hhas
        (hdisjoint p.name hhas)).symm
    · exact (Signature.value?_append_named hfree hcollects).symm
  · have hpassed : ∀ x, outer.params.received? args named p.name = some x →
        slots.get? p.name = some x := by
      intro x hx
      rw [hreceived p hp]
      exact hdown.received?_of_handsDown hcall hlaterf ⟨hplain.unwrapped, hplain.own, hplain.params⟩
        hnamed hslots hlaterOuter hx
    refine ⟨hpassed, fun htakes hright x hx => hpassed x ?_⟩
    rw [← hcallSignature] at htakes hright ⊢
    rw [← hsignature] at hp hright
    exact Scope.received?_of_get? hs hcalled hnamed hown hp htakes hright hx

/-- An asynchronous function has its second argument injected by name, and a layer over that declares
the first one again, beside an option of its own.  A call that uses the option does not fit the
function, and the scope, which goes by the outer layer, is right about the argument. -/
theorem redeclared_argument_reported :
    let params : Signature := [⟨"key", .standard, none⟩, ⟨"ctx", .keywordOnly, none⟩]
    let options : Signature :=
      [⟨"key", .standard, none⟩, ⟨"retry", .standard, some (.bool false)⟩]
    let w₀ := World.holding
      #[.taking params (.body .asynchronous (.value (.int 5)) 0 none),
        .wrapping ⟨0⟩ Signature.everything
          (.inject (.object ⟨0⟩) [] [("ctx", .str .fresh "db")] true),
        .wrapping ⟨1⟩ options (.relay (.object ⟨1⟩) [.named "key" "key"] [] [] true)]
    let args := [.str .fresh "a", .bool true]
    ∃ d slots, (Descriptor.ofValue (Engine.within 0) (.object ⟨2⟩)).run none w₀ = (.ok d, w₀) ∧
      d.asynchronous ∧ ¬ d.signature.Places args [] ∧
      (Scope.ofCall d args []).arguments.get? "key" = some (.str .fresh "a") ∧
      params.enter [] [("ctx", .str .fresh "db"), ("key", .str .fresh "a")] = .ok slots ∧
      slots.get? "key" = some (.str .fresh "a") := by
  intro params options w₀ args
  obtain ⟨d, f, outer, hdescribed, htarget, hasync, hsignature, hshown, houter, houterParams, hf,
      hparams, hunwrapped, hcode⟩ : ∃ d f outer,
      (Descriptor.ofValue (Engine.within 0) (.object ⟨2⟩)).run none w₀ = (.ok d, w₀) ∧
      d.target = .object ⟨2⟩ ∧ d.asynchronous = true ∧ d.signature = params ∧
      (Scope.ofCall d args []).arguments.get? "key" = some (.str .fresh "a") ∧
      w₀.store.function? (.object ⟨2⟩) = some outer ∧ outer.params = options ∧
      w₀.store.function? (.object ⟨0⟩) = some f ∧ f.params = params ∧ f.wrapped = none ∧
      f.code = .body .asynchronous (.value (.int 5)) 0 none :=
    ⟨_, _, _, rfl, rfl, rfl, rfl, rfl, rfl, rfl, rfl, rfl, rfl, rfl⟩
  have hwellFormed : params.WellFormed := by
    refine ⟨rfl, by decide, fun p hp hcollector => ?_⟩
    rcases List.mem_pair.mp hp with rfl | rfl <;> cases hcollector
  have hoptions : options.WellFormed := by
    refine ⟨rfl, by decide, fun p hp hcollector => ?_⟩
    rcases List.mem_pair.mp hp with rfl | rfl <;> cases hcollector
  have hplain : f.Plain := ⟨hunwrapped, by rw [hcode]; rfl, hparams ▸ hwellFormed⟩
  have hwraps : w₀.store.Wraps (.object ⟨0⟩) 2 d.target := by
    rw [htarget]
    exact .layer rfl (.layer rfl .here)
  have hcall : HandsDown none w₀ d.asynchronous (.object ⟨0⟩) 2 d.target args [] []
      [("ctx", .str .fresh "db"), ("key", .str .fresh "a")] := by
    have hdisjoint : ∀ n, Named.has [("key", Value.str .fresh "a")] n →
        Named.has [("ctx", .str .fresh "db")] n = false := by
      intro n hn
      obtain rfl : n = "key" := by simpa [Named.has_iff] using hn
      rfl
    have hinner : HandsDown none w₀ true (.object ⟨0⟩) 1 (.object ⟨1⟩) []
        [("key", .str .fresh "a")] [] [("ctx", .str .fresh "db"), ("key", .str .fresh "a")] :=
      .layer rfl (.inject rfl rfl hdisjoint) (by decide) (fun _ => rfl) .here
    rw [htarget, hasync]
    exact .layer rfl (.relay rfl rfl rfl) (by decide) (fun _ => rfl) hinner
  have hslots : f.params.enter [] [("ctx", .str .fresh "db"), ("key", .str .fresh "a")] =
      .ok [("key", .str .fresh "a"), ("ctx", .str .fresh "db")] := by
    rw [hparams]
    rfl
  have hkey : (⟨"key", .standard, none⟩ : Param) ∈ f.params := by
    rw [hparams]
    exact List.mem_cons_self
  -- One layer passes the argument on by name, the other one with all the named arguments.
  have hdown : w₀.store.PassesDown (.object ⟨0⟩) "key" d.target := by
    rw [htarget]
    exact .byName rfl hoptions (.named rfl (by decide) (by decide) (by simp)) rfl
      (.inr (by decide)) (.byName rfl Signature.wellFormed_everything
        (.inject rfl rfl (by decide)) rfl (.inl rfl) .here)
  have hroom : ¬ params.Places args [] := fun hplaces => by
    rcases hplaces.room with h | h
    · exact absurd h (by decide)
    · cases h
  obtain ⟨-, -, -, -, -, hnamed⟩ := scope_of_layered_call hdescribed hwraps hf hplain
    (.inr ⟨hasync, by rw [hcode]; rfl⟩) (htarget.symm ▸ houter) (houterParams ▸ hoptions)
    (fun _ _ h => h) (by decide) hcall hslots
  refine ⟨d, _, hdescribed, hasync, hsignature ▸ hroom, hshown, rfl, ?_⟩
  exact (hnamed _ hkey hdown).2 (.inl (by rw [houterParams]; rfl))
    (.inr (.inl fun h => hroom (hparams ▸ h.1))) _ hshown

/-- A function that fails with its second parameter, over which a layer injects the first one.  It is
called with one argument.  The body sees it as the second parameter, but the scope shows it as the
first one, and the second with its default. -/
theorem shifted_argument_misreported :
    let params : Signature :=
      [⟨"ctx", .standard, none⟩, ⟨"name", .standard, some (.str .fresh "x")⟩]
    let w₀ := World.holding
      #[.taking params (.body .direct (.construct (.name "Err") [.argument "name"]) 0 none),
        .injecting ⟨0⟩ [.str .fresh "ctx"]]
    let args := [.str .fresh "y"]
    ∃ d result w', (Descriptor.ofValue (Engine.within 0) (.object ⟨1⟩)).run none w₀ = (.ok d, w₀) ∧
      ((Engine.within 3).complete d.asynchronous d.target args []).run none w₀ =
        (.ok result, w') ∧
      Guard.payload? w'.store result = some (.str .fresh "y") ∧
      (Scope.ofCall d args []).arguments = [("ctx", .str .fresh "y"), ("name", .str .fresh "x")] :=
  ⟨_, _, _, rfl, rfl, rfl, rfl⟩

end FaultContext
