/-
# FaultContext.Proofs.Rendering -- what accepted templates are rendered from.

Rendering a template evaluates its captures with the arguments of the call and fills the text with
what they gave.  If the template has been accepted, each field that is reached gets its value from
where the check has said: a field without a head from the positional capture in its turn, a number
from the capture of that number, a name from the capture of that name or else from the parameter
(`render_eq_supplied`).  So no look-up fails.  What can go wrong is that a capture raises, that a
step, a conversion or a specification does not fit its value, or that the text has a flaw which the
check does not look for.

There are such flaws, and a template that has one is accepted and never rendered: fields that are
too deep in one another, an attribute or an item without a name, something else behind the bracket
that closes an item, and numbers with too many digits for a word, be it only as the front of a name.
-/
import FaultContext.Proofs.Accepting
import FaultContext.Proofs.TextFlaws
import FaultContext.Template.Render

namespace FaultContext

open Eval
open Format (Arguments Supply Flaw Unfit headsOf trail supplied fillBy pickHead decimals? Overflows
  flaws greatestDepth)

namespace Template

/-! ## Captures -/

section

variable {engine : Engine} {scope : Scope} {handled : Option Ref} {w w' : World}
  {captures : List Capture} {values : List Value}

/-- Values that captures have given, each of them evaluated for the call and nothing else. -/
def Evaluated (engine : Engine) (scope : Scope) (handled : Option Ref) :
    List Capture → List Value → Prop :=
  List.Forall₂ fun c v => ∃ u u', (c.evaluate engine scope).run handled u = (.ok v, u')

theorem evaluated_of_run
    (h : (evaluateAll engine scope captures).run handled w = (.ok values, w')) :
    Evaluated engine scope handled captures values := by
  induction captures generalizing w values with
  | nil => cases h; exact .nil
  | cons c rest ih =>
    obtain ⟨v, u, hc, h⟩ := run_bind_eq_ok.mp h
    obtain ⟨others, u', hrest, h⟩ := run_bind_eq_ok.mp h
    cases h
    exact .cons ⟨w, u, hc⟩ (ih hrest)

/-- Captures fail where one of them does. -/
theorem exists_of_run_evaluateAll {signal : Signal}
    (h : (evaluateAll engine scope captures).run handled w = (.error signal, w')) :
    ∃ c ∈ captures, ∃ u, (c.evaluate engine scope).run handled u = (.error signal, w') := by
  induction captures generalizing w with
  | nil => cases h
  | cons c rest ih =>
    rcases run_bind_eq_error.mp h with hc | ⟨v, u, -, h⟩
    · exact ⟨c, List.mem_cons_self, w, hc⟩
    · rcases run_bind_eq_error.mp h with hrest | ⟨others, u', -, h⟩
      · obtain ⟨c', hc', u', hraised⟩ := ih hrest
        exact ⟨c', List.mem_cons_of_mem _ hc', u', hraised⟩
      · cases h

end

/-! ## Names -/

/-- The last capture of a name wins, and any capture wins over an argument. -/
theorem get?_namesFor (scope : Scope) (captures : List Capture) (values : List Value) (n : String) :
    (namesFor scope captures values).get? n =
      (((captures.zip values).reverse.find? fun entry => n = entry.1.name.getD "").map
        Prod.snd).or (scope.arguments.get? n) := by
  rw [namesFor]
  generalize captures.zip values = entries, scope.arguments = names
  induction entries generalizing names with
  | nil => rfl
  | cons entry rest ih =>
    obtain ⟨c, v⟩ := entry
    rw [List.foldl_cons, ih, Named.get?_set, List.reverse_cons, List.find?_append]
    cases rest.reverse.find? fun entry => n = entry.1.name.getD "" with
    | some found => rfl
    | none => by_cases hn : n = c.name.getD "" <;> simp [hn]

/-- A name has the value of a capture of that name, or else that of the argument. -/
theorem cases_of_namesFor (scope : Scope) {captures : List Capture} {values : List Value}
    (hnamed : ∀ c ∈ captures, c.name.isSome) (hlength : captures.length = values.length)
    (n : String) :
    (∃ c v, (c, v) ∈ captures.zip values ∧ c.name = some n ∧
      (namesFor scope captures values).get? n = some v) ∨
    ((∀ c ∈ captures, c.name ≠ some n) ∧
      (namesFor scope captures values).get? n = scope.arguments.get? n) := by
  rw [get?_namesFor]
  cases hfind : (captures.zip values).reverse.find? fun entry => n = entry.1.name.getD "" with
  | some entry =>
    obtain ⟨c, v⟩ := entry
    have hmem := List.mem_reverse.mp (List.mem_of_find?_eq_some hfind)
    have hfound := List.find?_some hfind
    have hn : n = c.name.getD "" := of_decide_eq_true hfound
    obtain ⟨m, hm⟩ := Option.isSome_iff_exists.mp (hnamed c (List.of_mem_zip hmem).1)
    refine .inl ⟨c, v, hmem, ?_, rfl⟩
    rw [hm] at hn ⊢
    rw [hn]
    rfl
  | none =>
    refine .inr ⟨fun c hc hname => ?_, rfl⟩
    have hkeys : (captures.zip values).map Prod.fst = captures :=
      List.map_fst_zip (Nat.le_of_eq hlength)
    rw [← hkeys] at hc
    obtain ⟨entry, hentry, rfl⟩ := List.mem_map.mp hc
    refine List.find?_eq_none.mp hfind entry (List.mem_reverse.mpr hentry) ?_
    rw [hname]
    exact decide_eq_true rfl

/-! ## What heads get -/

section

variable {t : Template} {format : String} {args : List Value} {named : Named}
  {params : List String}

theorem Accepted.isSome_name (ht : t.Accepted format args named params) :
    ∀ c ∈ t.named, c.name.isSome := by
  intro c hc
  have hmem := ht.captures ▸ List.mem_map_of_mem hc
  obtain ⟨entry, -, heq⟩ := List.mem_map.mp hmem
  have hname : some entry.1 = c.name := congrArg Prod.fst heq
  rw [← hname]
  rfl

/-- A name that no capture has was not captured. -/
theorem Accepted.not_mem_names (ht : t.Accepted format args named params) {n : String}
    (h : ∀ c ∈ t.named, c.name ≠ some n) : n ∉ named.map Prod.fst := by
  intro hn
  obtain ⟨entry, hentry, rfl⟩ := List.mem_map.mp hn
  have hmem : (some entry.1, entry.2) ∈ t.named.map fun c => (c.name, c.source) := by
    rw [ht.captures]
    exact List.mem_map_of_mem hentry
  obtain ⟨c, hc, heq⟩ := List.mem_map.mp hmem
  exact h c hc (congrArg Prod.fst heq)

/-- What is supplied for the heads of the fields of a template: a field without a head gets the
capture in its turn, a number the capture of that number, and a name the capture of that name or
else the argument.  In place of a value there is a fault where a head has too many digits for a
word. -/
structure Supplies (t : Template) (scope : Scope) (positional named : List Value)
    (heads : List (List Char)) (picked : Supply) : Prop where
  length : picked.length = heads.length
  automatic : ∀ i : Nat, heads[i]? = some [] → ∃ v, positional[(heads.take i).count []]? = some v ∧
    picked[i]? = some (Except.ok v)
  number : ∀ (i : Nat) (head : List Char), heads[i]? = some head → Text.isNumeric head = true →
    ∃ n v, decimals? 0 head = some n ∧ positional[n]? = some v ∧
      (¬ Overflows 0 head → picked[i]? = some (Except.ok v))
  name : ∀ (i : Nat) (head : List Char), heads[i]? = some head → head ≠ [] →
    Text.isNumeric head = false → ¬ Overflows 0 head → ∃ v, picked[i]? = some (Except.ok v) ∧
      ((∃ c, (c, v) ∈ t.named.zip named ∧ c.name = some (String.ofList head)) ∨
        (∀ c ∈ t.named, c.name ≠ some (String.ofList head)) ∧
          scope.arguments.get? (String.ofList head) = some v)
  overflow : ∀ (i : Nat) (head : List Char), heads[i]? = some head → Overflows 0 head →
    picked[i]? = some (Except.error (.path .tooManyDigits))

/-- What the heads of an accepted template pick. -/
def picks (t : Template) (scope : Scope) (positional named : List Value) : Supply :=
  trail ⟨positional, namesFor scope t.named named⟩ .undecided (headsOf t.format.toList)

theorem length_trail (args : Arguments) (n : Format.Numbering) (heads : List (List Char)) :
    (trail args n heads).length = heads.length := by
  induction heads generalizing n with
  | nil => rfl
  | cons head rest ih => rw [trail, List.length_cons, List.length_cons, ih]

variable {scope : Scope} {positional values : List Value}

theorem getElem?_picks (ht : t.Accepted format args named params) {i : Nat} {head : List Char}
    (hi : (headsOf format.toList)[i]? = some head) :
    (t.picks scope positional values)[i]? =
      some (headValue ⟨positional, namesFor scope t.named values⟩
        (((headsOf format.toList).take i).count []) head) := by
  obtain ⟨u, hfold, -⟩ := ht.usage
  rw [picks, ht.text]
  have htrail := trail_of_foldlM ⟨positional, namesFor scope t.named values⟩
    (n := .undecided) hfold rfl hi
  rwa [Usage.empty, Nat.zero_add] at htrail

/-- What the head of a field of an accepted template stands for is there, up to names that the scope
has no argument for. -/
theorem headValue_of_accepted (ht : t.Accepted format args named params)
    (hlength : positional.length = args.length) {i : Nat} {head : List Char}
    (hi : (headsOf format.toList)[i]? = some head) (names : Named) :
    let automatic := ((headsOf format.toList).take i).count []
    let value := headValue ⟨positional, names⟩ automatic head
    (Overflows 0 head → value = .error (.path .tooManyDigits)) ∧
    (head = [] → ∃ v, positional[automatic]? = some v ∧ value = .ok v) ∧
    (Text.isNumeric head = true → ∃ n v, decimals? 0 head = some n ∧ positional[n]? = some v ∧
      (¬ Overflows 0 head → value = .ok v)) ∧
    (head ≠ [] → Text.isNumeric head = false →
      (String.ofList head ∈ named.map Prod.fst ∨ String.ofList head ∈ params) ∧
      (¬ Overflows 0 head → (∀ v, names.get? (String.ofList head) = some v → value = .ok v) ∧
        (names.get? (String.ofList head) = none →
          value = .error (.missingKey (.str .fresh (String.ofList head)))))) := by
  obtain ⟨u, hfold, hcovered⟩ := ht.usage
  have hat : ∀ {n : Nat}, n ∈ u.indexes →
      ∃ v, positional[n]? = some v ∧ Arguments.at ⟨positional, names⟩ n = .ok v := by
    intro n hn
    have hlt : n < positional.length := hlength ▸ hcovered.indexes n hn
    refine ⟨positional[n], List.getElem?_eq_getElem hlt, ?_⟩
    rw [Arguments.at, List.getElem?_eq_getElem hlt]
  have hoverflow : Overflows 0 head →
      headValue ⟨positional, names⟩ (((headsOf format.toList).take i).count []) head =
        .error (.path .tooManyDigits) := by
    intro hover
    rw [headValue, Format.Head.ofText_of_overflows hover]
  refine ⟨hoverflow, ?_⟩
  rcases mem_of_foldlM hfold hi with
    ⟨rfl, hmem⟩ | ⟨hhead, hnumeric, n, hmem, hn⟩ | ⟨hhead, hname, hnone, hmem⟩
  · rw [Usage.empty, Nat.zero_add] at hmem
    exact ⟨fun _ => hat hmem, nofun, fun hne => absurd rfl hne⟩
  · obtain ⟨v, hv, hvalue⟩ := hat hmem
    refine ⟨fun hempty => absurd hempty hhead, fun _ => ⟨n, v, hn, hv, fun hover => ?_⟩,
      fun _ hname => absurd (hnumeric.symm.trans hname) nofun⟩
    rw [headValue, Format.Head.ofText_of_not_overflows hhead hover, hn]
    exact hvalue
  · refine ⟨fun hempty => absurd hempty hhead,
      fun hnumeric => absurd (hnumeric.symm.trans hname) nofun,
      fun _ _ => ⟨hcovered.names _ hmem, fun hover => ?_⟩⟩
    have hof := Format.Head.ofText_of_not_overflows hhead hover
    rw [hnone] at hof
    exact ⟨fun v hv => by simp only [headValue, hof, hv],
      fun hmissing => by simp only [headValue, hof, hmissing]⟩

/-- **Each head of an accepted template gets what it stands for.** -/
theorem supplies_of_accepted (ht : t.Accepted format args named params)
    (hscope : ∀ n ∈ params, (scope.arguments.get? n).isSome)
    (hpositional : positional.length = args.length) (hvalues : t.named.length = values.length) :
    t.Supplies scope positional values (headsOf format.toList)
      (t.picks scope positional values) where
  length := by rw [picks, length_trail, ht.text]
  automatic i hi := by
    rw [getElem?_picks ht hi]
    obtain ⟨v, hv, hvalue⟩ := (headValue_of_accepted ht hpositional hi _).2.1 rfl
    exact ⟨v, hv, congrArg some hvalue⟩
  number i head hi hnumeric := by
    rw [getElem?_picks ht hi]
    obtain ⟨n, v, hn, hv, hvalue⟩ := (headValue_of_accepted ht hpositional hi _).2.2.1 hnumeric
    exact ⟨n, v, hn, hv, fun hover => congrArg some (hvalue hover)⟩
  name i head hi hhead hname hover := by
    rw [getElem?_picks ht hi]
    obtain ⟨hcaptured, hvalue⟩ := (headValue_of_accepted ht hpositional hi
      (namesFor scope t.named values)).2.2.2 hhead hname
    rcases cases_of_namesFor scope ht.isSome_name hvalues (String.ofList head) with
      ⟨c, v, hc, hcname, hv⟩ | ⟨hnone, hargument⟩
    · exact ⟨v, congrArg some ((hvalue hover).1 v hv), .inl ⟨c, hc, hcname⟩⟩
    · have hparam : String.ofList head ∈ params :=
        hcaptured.resolve_left (ht.not_mem_names hnone)
      obtain ⟨v, hv⟩ := Option.isSome_iff_exists.mp (hscope _ hparam)
      exact ⟨v, congrArg some ((hvalue hover).1 v (hargument.trans hv)), .inr ⟨hnone, hv⟩⟩
  overflow i head hi hover := by
    rw [getElem?_picks ht hi]
    exact congrArg some ((headValue_of_accepted ht hpositional hi _).1 hover)

/-- **What stands in place of a value** is that a head has too many digits, or that the call has no
argument for a parameter. -/
theorem fault_of_picks (ht : t.Accepted format args named params)
    (hpositional : positional.length = args.length) (hvalues : t.named.length = values.length)
    {fault : Fault} (h : .error fault ∈ t.picks scope positional values) :
    (fault = .path .tooManyDigits ∧ ∃ head ∈ headsOf format.toList, Overflows 0 head) ∨
      ∃ n ∈ params, (∀ c ∈ t.named, c.name ≠ some n) ∧ scope.arguments.get? n = none ∧
        fault = .missingKey (.str .fresh n) := by
  obtain ⟨i, hi⟩ := List.mem_iff_getElem?.mp h
  have hlt : i < (headsOf format.toList).length := by
    have := List.getElem?_eq_some_iff.mp hi |>.1
    rwa [picks, length_trail, ht.text] at this
  have hhead := List.getElem?_eq_getElem hlt
  generalize (headsOf format.toList)[i] = head at hhead
  rw [getElem?_picks ht hhead, Option.some.injEq] at hi
  obtain ⟨hoverflow, hautomatic, hnumber, hname⟩ := headValue_of_accepted ht hpositional hhead
    (namesFor scope t.named values)
  by_cases hover : Overflows 0 head
  · rw [hoverflow hover] at hi
    cases hi
    exact .inl ⟨rfl, head, List.mem_of_getElem? hhead, hover⟩
  · by_cases hempty : head = []
    · obtain ⟨v, -, hvalue⟩ := hautomatic hempty
      rw [hvalue] at hi
      cases hi
    · cases hnumeric : Text.isNumeric head with
      | true =>
        obtain ⟨n, v, -, -, hvalue⟩ := hnumber hnumeric
        rw [hvalue hover] at hi
        cases hi
      | false =>
        obtain ⟨hcaptured, hvalue⟩ := hname hempty hnumeric
        obtain ⟨hfound, hmissing⟩ := hvalue hover
        rcases cases_of_namesFor scope ht.isSome_name hvalues (String.ofList head) with
          ⟨c, v, -, -, hv⟩ | ⟨hnone, hargument⟩
        · rw [hfound v hv] at hi
          cases hi
        · have hparam := hcaptured.resolve_left (ht.not_mem_names hnone)
          cases hnames : scope.arguments.get? (String.ofList head) with
          | some v =>
            rw [hfound v (hargument.trans hnames)] at hi
            cases hi
          | none =>
            rw [hmissing (hargument.trans hnames)] at hi
            cases hi
            exact .inr ⟨_, hparam, hnone, hnames, rfl⟩

end

/-! ## Rendering -/

section

variable {s : Store} {format : String} {args : List Value} {named : Named} {params : List String}
  {t : Template} {engine : Engine} {scope : Scope} {handled : Option Ref} {w w₁ w₂ : World}
  {positional values : List Value}

/-- A template is rendered by filling its text with what the heads pick. -/
theorem run_render (ht : t.Accepted format args named params)
    (hpositional : (evaluateAll engine scope t.positional).run handled w = (.ok positional, w₁))
    (hnamed : (evaluateAll engine scope t.named).run handled w₁ = (.ok values, w₂)) :
    (t.render engine scope).run handled w =
      match (fillBy w₂.store supplied greatestDepth format.toList).run
        (t.picks scope positional values) with
      | .ok (text, _) => (.ok (.str .fresh (String.ofList text)), w₂)
      | .error fault => (Eval.fault fault : Eval Value).run handled w₂ := by
  have hmirrors : Format.Mirrors ⟨positional, namesFor scope t.named values⟩
      (fillBy w₂.store (pickHead ⟨positional, namesFor scope t.named values⟩) greatestDepth
        format.toList)
      (fillBy w₂.store supplied greatestDepth format.toList) (headsOf format.toList) :=
    Format.mirrors_fillBy w₂.store ht.wellFormed
  have hfilled := hmirrors .undecided []
  rw [List.append_nil] at hfilled
  rw [picks, ht.text, hfilled, render, run_bind_of_ok hpositional, run_bind_of_ok hnamed, run_bind,
    run_store]
  dsimp only
  rw [run_bind, Format.render, Format.fill_eq, ht.text]
  cases (fillBy w₂.store (pickHead ⟨positional, namesFor scope t.named values⟩) greatestDepth
    format.toList).run .undecided with
  | error fault => rfl
  | ok filled => rfl

/-- What can go wrong when the text of an accepted template is filled. -/
theorem fault_of_fillBy (ht : t.Accepted format args named params)
    (hpositional : positional.length = args.length) (hvalues : t.named.length = values.length)
    {fault : Fault} (h : (fillBy s supplied greatestDepth format.toList).run
      (t.picks scope positional values) = .error fault) :
    Unfit s fault ∨
      (flaws greatestDepth format.toList ≠ [] ∧ ∃ flaw : Flaw, flaw.fault = fault) ∨
      ∃ n ∈ params, (∀ c ∈ t.named, c.name ≠ some n) ∧ scope.arguments.get? n = none ∧
        fault = .missingKey (.str .fresh n) := by
  have hlength : (t.picks scope positional values).length = (headsOf format.toList).length := by
    rw [picks, length_trail, ht.text]
  have hstems : Format.Stems s (flaws greatestDepth format.toList)
      (fillBy s supplied greatestDepth format.toList) (headsOf format.toList).length :=
    Format.stems_fillBy s ht.wellFormed ht.conversions fun _ hflaw => hflaw
  have hfailed := hstems (t.picks scope positional values) [] hlength
  rw [List.append_nil, h] at hfailed
  rcases hfailed with hunfit | ⟨flaw, hflaw, heq⟩ | hpicked
  · exact .inl hunfit
  · exact .inr (.inl ⟨List.ne_nil_of_mem hflaw, flaw, heq⟩)
  · rcases fault_of_picks ht hpositional hvalues hpicked with ⟨rfl, head, hhead, hover⟩ | hmissing
    · exact .inr (.inl ⟨Format.flaws_ne_nil_of_overflows ht.wellFormed hhead hover,
        .name .tooManyDigits, rfl⟩)
    · exact .inr (.inr hmissing)

/-- **An accepted template is filled from its captures and the arguments of the call, and no look-up
fails.**  Each field that is reached takes the next of the values that are supplied, in the order of
reading; and these are what the heads of the fields stand for.  If rendering fails after that, then
at something that does not fit or at a flaw of the text. -/
theorem render_eq_supplied (hparse : parse s format args named params = .ok t)
    (hscope : ∀ n ∈ params, (scope.arguments.get? n).isSome)
    (hpositional : (evaluateAll engine scope t.positional).run handled w = (.ok positional, w₁))
    (hnamed : (evaluateAll engine scope t.named).run handled w₁ = (.ok values, w₂)) :
    (t.positional.map Capture.source = args ∧
      Evaluated engine scope handled t.positional positional) ∧
    ((t.named.map fun c => (c.name, c.source)) = named.map (fun (n, v) => (some n, v)) ∧
      Evaluated engine scope handled t.named values) ∧
    ∃ picked, t.Supplies scope positional values (headsOf format.toList) picked ∧
      ((t.render engine scope).run handled w =
        match (fillBy w₂.store supplied greatestDepth format.toList).run picked with
        | .ok (text, _) => (.ok (.str .fresh (String.ofList text)), w₂)
        | .error fault => (Eval.fault fault : Eval Value).run handled w₂) ∧
      ∀ fault, (fillBy w₂.store supplied greatestDepth format.toList).run picked = .error fault →
        Unfit w₂.store fault ∨
          (flaws greatestDepth format.toList ≠ [] ∧ ∃ flaw : Flaw, flaw.fault = fault) := by
  have ht := accepted_of_parse hparse
  have hevaluated := evaluated_of_run hpositional
  have hvalues := evaluated_of_run hnamed
  have hlength : positional.length = args.length := by
    rw [← hevaluated.length_eq, ← ht.sources, List.length_map]
  refine ⟨⟨ht.sources, hevaluated⟩, ⟨ht.captures, hvalues⟩, t.picks scope positional values,
    supplies_of_accepted ht hscope hlength hvalues.length_eq, run_render ht hpositional hnamed, ?_⟩
  intro fault hfault
  rcases fault_of_fillBy ht hlength hvalues.length_eq hfault with
    hunfit | hflaw | ⟨n, hn, -, hmissing, -⟩
  · exact .inl hunfit
  · exact .inr hflaw
  · have hargument := hscope n hn
    rw [hmissing] at hargument
    cases hargument

/-- A named capture with a name of many digits and a letter: the template is accepted, the fields in
front of it get their values, and then the digits are too many. -/
theorem long_name_overflows :
    let name := "9223372036854775808x"
    let t : Template := ⟨"\x7b\x7d\x7bx\x7d\x7b9223372036854775808x\x7d",
      [⟨none, .int .fresh 1, none, false⟩], [⟨some name, .int .fresh 5, none, false⟩]⟩
    let scope : Scope := ⟨[.int .fresh 2], [], [("x", .int .fresh 2)]⟩
    let engine : Engine := ⟨fun _ _ _ => Eval.exhausted, fun _ => Eval.exhausted⟩
    parse Store.empty t.format [.int .fresh 1] [(name, .int .fresh 5)] ["x"] = .ok t ∧
    (∀ n ∈ ["x"], (scope.arguments.get? n).isSome) ∧
    (evaluateAll engine scope t.positional).run none World.initial =
      (.ok [.int .fresh 1], World.initial) ∧
    (evaluateAll engine scope t.named).run none World.initial =
      (.ok [.int .fresh 5], World.initial) ∧
    t.Supplies scope [.int .fresh 1] [.int .fresh 5] (headsOf t.format.toList)
      [.ok (.int .fresh 1), .ok (.int .fresh 2), .error (.path .tooManyDigits)] ∧
    (t.render engine scope).run none World.initial =
      (Eval.fault (.path .tooManyDigits) : Eval Value).run none World.initial := by
  have hparse : parse Store.empty "\x7b\x7d\x7bx\x7d\x7b9223372036854775808x\x7d" [.int .fresh 1]
      [("9223372036854775808x", .int .fresh 5)] ["x"] =
      .ok ⟨"\x7b\x7d\x7bx\x7d\x7b9223372036854775808x\x7d",
        [⟨none, .int .fresh 1, none, false⟩],
        [⟨some "9223372036854775808x", .int .fresh 5, none, false⟩]⟩ := by
    have husage : usage
        (Format.Fields.ofText "\x7b\x7d\x7bx\x7d\x7b9223372036854775808x\x7d".toList) =
        .ok ⟨1, false, [0], ["9223372036854775808x", "x"]⟩ := by with_unfolding_all rfl
    -- Sorting is no structural recursion: what is sorted here is in order already.
    have hnames : sortedNames ["9223372036854775808x", "x"] = ["9223372036854775808x", "x"] := by
      rw [sortedNames, List.mergeSort_of_pairwise (by decide)]
      decide
    have hunused : sortedNames [] = [] := by
      rw [sortedNames, List.mergeSort_nil]
      rfl
    have hcheck : checkUsage ⟨1, false, [0], ["9223372036854775808x", "x"]⟩
        [⟨none, .int .fresh 1, none, false⟩] ["9223372036854775808x"] ["x"] = .ok () := by
      rw [checkUsage, hnames]
      show (if !(sortedNames []).isEmpty then _ else _) = _
      rw [hunused]
      rfl
    rw [parse, husage]
    exact congrArg (· >>= fun _ => _) hcheck
  have hheads : headsOf "\x7b\x7d\x7bx\x7d\x7b9223372036854775808x\x7d".toList =
      [[], ['x'], "9223372036854775808x".toList] := by decide +kernel
  have hover : Overflows 0 "9223372036854775808x".toList :=
    ⟨"9223372036854775808".toList, 9223372036854775808, by decide +kernel, by decide +kernel,
      by decide +kernel⟩
  have hfill : (fillBy World.initial.store supplied greatestDepth
      "\x7b\x7d\x7bx\x7d\x7b9223372036854775808x\x7d".toList).run
        [.ok (.int .fresh 1), .ok (.int .fresh 2), .error (.path .tooManyDigits)] =
      .error (.path .tooManyDigits) := by
    with_unfolding_all rfl
  intro name t scope engine
  have hscope : ∀ n ∈ ["x"], (scope.arguments.get? n).isSome := by decide
  have hpositional : (evaluateAll engine scope t.positional).run none World.initial =
    (.ok [.int .fresh 1], World.initial) := rfl
  have hnamed : (evaluateAll engine scope t.named).run none World.initial =
    (.ok [.int .fresh 5], World.initial) := rfl
  obtain ⟨-, -, picked, hpicked, hrun, -⟩ := render_eq_supplied hparse hscope hpositional hnamed
  have hheads : headsOf t.format.toList = [[], ['x'], name.toList] := hheads
  rw [hheads] at hpicked
  have hx : ¬ Overflows 0 ['x'] := fun h => by cases Format.Head.ofText_of_overflows h
  obtain ⟨first, second, third, rfl⟩ := List.length_eq_three.mp hpicked.length
  obtain ⟨v, hv, hfirst⟩ := hpicked.automatic 0 rfl
  obtain ⟨v', hsecond, hv'⟩ := hpicked.name 1 ['x'] rfl (List.cons_ne_nil _ _) rfl hx
  have hthird := hpicked.overflow 2 name.toList rfl hover
  cases hv
  cases hfirst
  cases hsecond
  cases hthird
  rcases hv' with ⟨c, hc, hcname⟩ | ⟨-, hargument⟩
  · cases List.mem_singleton.mp hc
    exact absurd hcname (by decide)
  · cases hargument
    rw [hfill] at hrun
    exact ⟨hparse, hscope, hpositional, hnamed, hheads ▸ hpicked, hrun⟩

/-- **Which accepted templates can be rendered.**  A template without a flaw in its text fails only
by a capture that raises, by a step, a conversion or a specification that does not fit its value,
or for want of an argument for a parameter; a template with a flaw is never rendered, whatever the
call and the objects are.  Of the flaws that a name can have, a bracket that is missing is never
among those of an accepted template. -/
theorem render_faults_of_accepted (hparse : parse s format args named params = .ok t) :
    .name .missingBracket ∉ flaws greatestDepth format.toList ∧
    (flaws greatestDepth format.toList = [] → ∀ engine scope handled w signal w',
      (t.render engine scope).run handled w = (.error signal, w') →
        (∃ c ∈ t.positional ++ t.named, ∃ u,
          (c.evaluate engine scope).run handled u = (.error signal, w')) ∨
        ∃ fault u, (Eval.fault fault : Eval Value).run handled u = (.error signal, w') ∧
          (Unfit u.store fault ∨
            ∃ n ∈ params, (∀ c ∈ t.named, c.name ≠ some n) ∧ scope.arguments.get? n = none ∧
              fault = .missingKey (.str .fresh n))) ∧
    (flaws greatestDepth format.toList ≠ [] → ∀ engine scope handled w v w',
      (t.render engine scope).run handled w ≠ (.ok v, w')) := by
  have ht := accepted_of_parse hparse
  refine ⟨Format.missingBracket_not_mem_flaws _ _, ?_, ?_⟩
  · intro hflaws engine scope handled w signal w' h
    rcases hpositional : (evaluateAll engine scope t.positional).run handled w with
      ⟨failed | positional, w₁⟩
    · rw [render, run_bind_of_error hpositional] at h
      cases h
      obtain ⟨c, hc, u, hraised⟩ := exists_of_run_evaluateAll hpositional
      exact .inl ⟨c, List.mem_append_left _ hc, u, hraised⟩
    · rcases hnamed : (evaluateAll engine scope t.named).run handled w₁ with
        ⟨failed | values, w₂⟩
      · rw [render, run_bind_of_ok hpositional, run_bind_of_error hnamed] at h
        cases h
        obtain ⟨c, hc, u, hraised⟩ := exists_of_run_evaluateAll hnamed
        exact .inl ⟨c, List.mem_append_right _ hc, u, hraised⟩
      · have hlength : positional.length = args.length := by
          rw [← (evaluated_of_run hpositional).length_eq, ← ht.sources, List.length_map]
        have hvalues := (evaluated_of_run hnamed).length_eq
        rw [run_render ht hpositional hnamed] at h
        split at h
        next => cases h
        next fault hfault =>
          refine .inr ⟨fault, w₂, h, ?_⟩
          rcases fault_of_fillBy ht hlength hvalues hfault with
            hunfit | ⟨hnone, -⟩ | hmissing
          · exact .inl hunfit
          · exact absurd hflaws hnone
          · exact .inr hmissing
  · intro hflaws engine scope handled w v w' h
    obtain ⟨positional, w₁, hpositional, h⟩ := run_bind_eq_ok.mp h
    obtain ⟨values, w₂, hnamed, h⟩ := run_bind_eq_ok.mp h
    obtain ⟨store, w₃, hstore, h⟩ := run_bind_eq_ok.mp h
    obtain ⟨text, w₄, hlift, h⟩ := run_bind_eq_ok.mp h
    cases hstore
    rw [Format.render, Format.fill_eq, ht.text] at hlift
    split at hlift
    next filled n hfilled => exact Format.never_fillBy _ _ hflaws _ _ _ hfilled
    next fault _ => exact run_fault_ne_ok fault hlift

/-- Three fields in one another: the template is accepted and never rendered. -/
theorem nested_field_never_rendered :
    let format := "\x7b0:\x7b1:\x7b2\x7d\x7d\x7d"
    let t : Template := ⟨format, [⟨none, .int .fresh 1, none, false⟩,
      ⟨none, .int .fresh 2, none, false⟩, ⟨none, .int .fresh 3, none, false⟩], []⟩
    parse Store.empty format [.int .fresh 1, .int .fresh 2, .int .fresh 3] [] [] = .ok t ∧
    flaws greatestDepth format.toList = [.tooDeep] ∧
    ∀ engine scope handled w v w', (t.render engine scope).run handled w ≠ (.ok v, w') := by
  have hparse : parse Store.empty "\x7b0:\x7b1:\x7b2\x7d\x7d\x7d"
      [.int .fresh 1, .int .fresh 2, .int .fresh 3] [] [] =
      .ok ⟨"\x7b0:\x7b1:\x7b2\x7d\x7d\x7d", [⟨none, .int .fresh 1, none, false⟩,
        ⟨none, .int .fresh 2, none, false⟩, ⟨none, .int .fresh 3, none, false⟩], []⟩ := by
    with_unfolding_all rfl
  have hflaws : flaws greatestDepth "\x7b0:\x7b1:\x7b2\x7d\x7d\x7d".toList = [.tooDeep] := by
    decide +kernel
  intro format t
  exact ⟨hparse, hflaws, (render_faults_of_accepted hparse).2.2 (hflaws ▸ List.cons_ne_nil _ _)⟩

end

end Template
end FaultContext
