/-
# FaultContext.Proofs.Entering -- what parameters hold in a call.

`Signature.slots` says for each parameter by itself what it holds: a collector what is left over,
another parameter the positional argument at its place, or else the named argument of its name, or
else its default.  `Signature.Fits` says when arguments fit.

A call finds this out by giving out one argument after the other.  It gets into the body exactly if
the arguments fit, and the parameters then hold their slots (`Signature.enter_eq_ok_iff`).  The loop
over the named arguments is the only induction: a step gives one of them to a free parameter of its
name or to the collector, and since no name is given twice, it takes nothing from the later ones.
-/
import FaultContext.Proofs.Traversal
import FaultContext.Signature.Call
import Mathlib.Data.List.Nodup

namespace FaultContext

/-! ## Names and their values -/

namespace Named

theorem get?_cons (n : String) (v : Value) (rest : Named) (name : String) :
    Named.get? ((n, v) :: rest) name = if name = n then some v else rest.get? name := by
  rw [get?, List.lookup_cons]
  by_cases h : name = n
  · simp [h]
  · rw [if_neg h, beq_eq_false_iff_ne.mpr h]
    rfl

theorem get?_append (first second : Named) (name : String) :
    Named.get? (first ++ second) name = (first.get? name).or (second.get? name) :=
  List.lookup_append

theorem get?_set (named : Named) (name : String) (v : Value) (other : String) :
    (named.set name v).get? other = if other = name then some v else named.get? other := by
  induction named with
  | nil => rw [set, get?_cons]
  | cons entry rest ih =>
    obtain ⟨n, old⟩ := entry
    rw [set]
    by_cases hn : n = name
    · subst hn
      rw [if_pos rfl, get?_cons, get?_cons]
      split <;> rfl
    · rw [if_neg hn, get?_cons, get?_cons, ih]
      by_cases hother : other = n
      · rw [if_pos hother, if_neg (hother ▸ hn), if_pos hother]
      · rw [if_neg hother, if_neg hother]

theorem has_append (first second : Named) (name : String) :
    Named.has (first ++ second) name = (first.has name || second.has name) := by
  rw [has, get?_append, Option.isSome_or, has, has]

theorem has_cons (n : String) (v : Value) (rest : Named) (name : String) :
    Named.has ((n, v) :: rest) name = (decide (name = n) || rest.has name) := by
  rw [has, get?_cons, has]
  by_cases h : name = n <;> simp [h]

theorem has_iff {named : Named} {name : String} :
    named.has name = true ↔ name ∈ named.map Prod.fst := by
  rw [has, get?, List.lookup_isSome_iff, List.mem_map]
  simp only [beq_iff_eq, @eq_comm _ name]

theorem get?_eq_none_iff {named : Named} {name : String} :
    named.get? name = none ↔ named.has name = false := by
  rw [has, Option.isSome_eq_false_iff, Option.isNone_iff_eq_none]

/-- The values of some names. -/
def selected (keep : String → Bool) (named : Named) : Named := named.filter fun e => keep e.1

theorem selected_eq_nil_iff {keep : String → Bool} {named : Named} :
    named.selected keep = [] ↔ ∀ n, named.has n → keep n = false := by
  simp only [selected, List.filter_eq_nil_iff, has_iff, List.mem_map, Bool.not_eq_true]
  constructor
  · rintro h n ⟨entry, hentry, rfl⟩
    exact h entry hentry
  · intro h entry hentry
    exact h entry.1 ⟨entry, hentry, rfl⟩

theorem selected_congr {keep keep' : String → Bool} {named : Named}
    (h : ∀ n, named.has n → keep n = keep' n) : named.selected keep = named.selected keep' :=
  List.filter_congr fun entry hentry =>
    h entry.1 (has_iff.mpr (List.mem_map_of_mem hentry))

theorem get?_selected (keep : String → Bool) (named : Named) (name : String) :
    (named.selected keep).get? name = if keep name then named.get? name else none := by
  unfold selected
  induction named with
  | nil => cases keep name <;> rfl
  | cons entry rest ih =>
    obtain ⟨n, v⟩ := entry
    rw [List.filter_cons, get?_cons]
    by_cases hname : name = n
    · subst hname
      cases hkeep : keep name with
      | true => simp [get?_cons]
      | false => simpa [hkeep] using ih
    · cases keep n <;> simp [get?_cons, hname, ih]

theorem get?_erase_of_ne {named : Named} {name other : String} (h : name ≠ other) :
    (named.erase other).get? name = named.get? name := by
  rw [show named.erase other = named.selected (· != other) from rfl, get?_selected]
  simp [h]

theorem erase_of_get?_eq_none {named : Named} {name : String} (h : named.get? name = none) :
    named.erase name = named := by
  rw [get?, List.lookup_eq_none_iff] at h
  refine List.filter_eq_self.mpr fun entry hentry => ?_
  have hne := h entry hentry
  rw [bne_iff_ne] at hne ⊢
  exact hne.symm

end Named

namespace Signature

/-- What parameters are said to hold stands under their names. -/
theorem exists_of_has_filterMap {s : Signature} {value : Param → Option Value} {n : String}
    (h : Named.has (s.filterMap fun p => (value p).map (p.name, ·)) n) : ∃ p ∈ s, p.name = n := by
  obtain ⟨entry, hentry, rfl⟩ := List.mem_map.mp (Named.has_iff.mp h)
  obtain ⟨p, hp, hvalue⟩ := List.mem_filterMap.mp hentry
  obtain ⟨v, -, rfl⟩ := Option.map_eq_some_iff.mp hvalue
  exact ⟨p, hp, rfl⟩

/-- What each parameter of a signature is said to hold is found under its name. -/
theorem get?_filterMap {s : Signature} (hs : s.names.Nodup) (value : Param → Option Value)
    {p : Param} (hp : p ∈ s) :
    Named.get? (s.filterMap fun q => (value q).map (q.name, ·)) p.name = value p := by
  induction s with
  | nil => cases hp
  | cons q rest ih =>
    obtain ⟨hq, hrest⟩ := List.nodup_cons.mp hs
    -- No later parameter has the name of the first one.
    have hlater : Named.get? (rest.filterMap fun q => (value q).map (q.name, ·)) q.name = none := by
      rw [Named.get?_eq_none_iff, ← Bool.not_eq_true]
      intro hhas
      obtain ⟨r, hr, hname⟩ := exists_of_has_filterMap hhas
      exact hq (hname ▸ List.mem_map_of_mem hr)
    rcases List.mem_cons.mp hp with rfl | hp
    · rw [List.filterMap_cons]
      cases hv : value p with
      | none => exact hlater
      | some v => simp [Named.get?_cons]
    · have hne : p.name ≠ q.name := fun h => hq (h ▸ List.mem_map_of_mem hp)
      rw [List.filterMap_cons]
      cases hv : value q with
      | none => exact ih hrest hp
      | some v => simpa [Named.get?_cons, hne] using ih hrest hp

/-! ## Slots -/

/-- Whether a named argument can go to a parameter of its name. -/
def takes (s : Signature) (name : String) : Bool :=
  s.any fun p => p.takesNamed && p.name = name

/-- The positional arguments that go to parameters of their own. -/
def placed (s : Signature) (args : List Value) : Named :=
  (s.positionalParams.zip args).map fun (p, v) => (p.name, v)

/-- What a call gives a parameter: a collector gets what is left over, and any other parameter the
positional argument at its place or the named argument of its name. -/
def given? (s : Signature) (args : List Value) (named : Named) (p : Param) : Option Value :=
  match p.kind with
  | .varPositional => some (.tuple .fresh (args.drop s.positionalParams.length))
  | .varKeyword => some (collected (named.selected (!s.takes ·)))
  | _ => ((s.placed args).get? p.name).or (if p.takesNamed then named.get? p.name else none)

/-- What a parameter holds in a call. -/
def value? (s : Signature) (args : List Value) (named : Named) (p : Param) : Option Value :=
  (s.given? args named p).or p.default

/-- What all parameters hold in a call. -/
def slots (s : Signature) (args : List Value) (named : Named) : Named :=
  s.filterMap fun p => (s.value? args named p).map (p.name, ·)

/-- The arguments of a call have places: no parameter gets two of them, and none is left over. -/
structure Places (s : Signature) (args : List Value) (named : Named) : Prop where
  once : ∀ n, named.has n → s.takes n → (s.placed args).has n = false
  known : ∀ n, named.has n → s.takes n = false → (s.collector? .varKeyword).isSome
  room : args.length ≤ s.positionalParams.length ∨ (s.collector? .varPositional).isSome

/-- The arguments of a call fit: they have places, and no parameter goes without a value. -/
structure Fits (s : Signature) (args : List Value) (named : Named) : Prop
    extends s.Places args named where
  filled : ∀ p ∈ s, (s.value? args named p).isSome

theorem takes_name {s : Signature} (hs : s.names.Nodup) {p : Param} (hp : p ∈ s) :
    s.takes p.name = p.takesNamed := by
  rw [Bool.eq_iff_iff, takes, List.any_eq_true]
  simp only [Bool.and_eq_true, decide_eq_true_eq]
  constructor
  · rintro ⟨q, hq, htakes, hname⟩
    rw [← List.inj_on_of_nodup_map hs hq hp hname]
    exact htakes
  · intro htakes
    exact ⟨p, hp, htakes, rfl⟩

/-- A parameter that is no collector is given what stands under its name. -/
theorem given?_of_not_isCollector {s : Signature} (hs : s.names.Nodup) {p : Param} (hp : p ∈ s)
    (hcollector : p.isCollector = false) (args : List Value) (named : Named) :
    s.given? args named p = (s.placed args ++ named.selected s.takes : Named).get? p.name := by
  rw [Named.get?_append, Named.get?_selected, takes_name hs hp, given?]
  cases hkind : p.kind <;> simp [Param.isCollector, hkind] at hcollector ⊢

/-- A parameter that is given by name holds that argument. -/
theorem given?_of_has {s : Signature} {args : List Value} {named : Named}
    (h : s.Places args named) {p : Param} (hp : p ∈ s) (htakes : p.takesNamed)
    (hhas : named.has p.name) : s.given? args named p = named.get? p.name := by
  have honce := h.once p.name hhas (List.any_eq_true.mpr ⟨p, hp, by simp [htakes]⟩)
  rw [given?, Named.get?_eq_none_iff.mpr honce, if_pos htakes, Option.none_or]
  cases hkind : p.kind <;> simp [Param.takesNamed, hkind] at htakes ⊢

/-- Every parameter is a collector or one that an argument goes to. -/
theorem mem_iff {s : Signature} {p : Param} (hcollector : p.isCollector = false) :
    p ∈ s ↔ p ∈ s.positionalParams ∨ p ∈ s.keywordParams := by
  simp only [positionalParams, keywordParams, List.mem_filter, ← and_or_left]
  refine (and_iff_left ?_).symm
  cases hkind : p.kind <;>
    simp [Param.isCollector, Param.takesPositional, hkind] at hcollector ⊢

theorem isCollector_of_mem_positionalParams {s : Signature} {p : Param}
    (hp : p ∈ s.positionalParams) : p.isCollector = false := by
  have hkind := (List.mem_filter.mp hp).2
  cases h : p.kind <;> simp [Param.isCollector, Param.takesPositional, h] at hkind ⊢

theorem isCollector_of_mem_keywordParams {s : Signature} {p : Param}
    (hp : p ∈ s.keywordParams) : p.isCollector = false := by
  have hkind := (List.mem_filter.mp hp).2
  simp only [decide_eq_true_eq] at hkind
  simp [Param.isCollector, hkind]

theorem value?_isSome_of_isCollector (s : Signature) (args : List Value) (named : Named) {p : Param}
    (hcollector : p.isCollector = true) : (s.value? args named p).isSome := by
  cases hkind : p.kind <;> simp [Param.isCollector, value?, given?, hkind] at hcollector ⊢

/-! ## Entering -/

section Entering

variable {s : Signature} {args : List Value} {named : Named}

/-- A named argument goes to a free parameter of its name, or else to the collector. -/
theorem placeNamed_eq_ok_iff {s : Signature} {all slots extra : Named} {n : String} {v : Value}
    {found : Named × Named} :
    s.placeNamed all (slots, extra) (n, v) = .ok found ↔
      (s.takes n → slots.has n = false) ∧
      (s.takes n = false → (s.collector? .varKeyword).isSome) ∧
      found = (slots ++ Named.selected s.takes [(n, v)],
        extra ++ Named.selected (!s.takes ·) [(n, v)]) := by
  have hplace : s.placeNamed all (slots, extra) (n, v) =
      if s.takes n then
        if slots.has n then .error (.multipleValues n) else .ok (slots ++ [(n, v)], extra)
      else if (s.collector? .varKeyword).isSome then .ok (slots, extra ++ [(n, v)])
      else
        let wrong := (s.filter fun p => p.kind = .positionalOnly && all.has p.name).map Param.name
        if wrong.isEmpty then .error (.unexpectedKeyword n)
        else .error (.positionalOnlyAsKeyword wrong) := rfl
  rw [hplace]
  cases htakes : s.takes n with
  | true => cases slots.has n <;> simp [Named.selected, htakes, @eq_comm _ found]
  | false =>
    cases (s.collector? .varKeyword).isSome with
    | true => simp [Named.selected, htakes, @eq_comm _ found]
    | false =>
      simp only [Bool.false_eq_true, if_false]
      split <;> simp

/-- Giving out named arguments succeeds if each of them is taken by a free parameter or else
collected. -/
theorem foldlM_placeNamed_eq_ok_iff {s : Signature} {all rest slots extra : Named}
    {found : Named × Named} (hrest : (rest.map Prod.fst).Nodup) :
    rest.foldlM (s.placeNamed all) (slots, extra) = .ok found ↔
      (∀ n, rest.has n → s.takes n → slots.has n = false) ∧
      (∀ n, rest.has n → s.takes n = false → (s.collector? .varKeyword).isSome) ∧
      found = (slots ++ Named.selected s.takes rest, extra ++ Named.selected (!s.takes ·) rest) := by
  induction rest generalizing slots extra with
  | nil =>
    constructor
    · rintro ⟨⟩
      refine ⟨?_, ?_, by simp [Named.selected]⟩ <;> (intro n hn; cases hn)
    · rintro ⟨-, -, rfl⟩
      simp [Named.selected, pure, Except.pure]
  | cons entry rest ih =>
    obtain ⟨n, v⟩ := entry
    obtain ⟨hn, hrest⟩ := List.nodup_cons.mp hrest
    -- No later argument has the name of the first one, so what it takes is free for them.
    have hlater : ∀ m, Named.has rest m = true →
        Named.has (slots ++ Named.selected s.takes [(n, v)]) m = slots.has m := by
      intro m hm
      have hne : m ≠ n := fun h => hn (h ▸ Named.has_iff.mp hm)
      rw [Named.has_append]
      cases htakes : s.takes n <;> simp [Named.selected, htakes, hne, Named.has, Named.get?]
    rw [List.foldlM_cons, except_bind_eq_ok]
    simp only [placeNamed_eq_ok_iff, Named.has_cons, Bool.or_eq_true, decide_eq_true_eq,
      forall_eq_or_imp]
    constructor
    · rintro ⟨a, ⟨honce, hknown, rfl⟩, hrun⟩
      obtain ⟨honce', hknown', rfl⟩ := (ih hrest).mp hrun
      refine ⟨⟨honce, fun m hm htakes => ?_⟩, ⟨hknown, hknown'⟩, ?_⟩
      · rw [← hlater m hm]
        exact honce' m hm htakes
      · simp only [Named.selected, List.append_assoc, ← List.filter_append,
          List.cons_append, List.nil_append]
    · rintro ⟨⟨honce, honce'⟩, ⟨hknown, hknown'⟩, rfl⟩
      refine ⟨_, ⟨honce, hknown, rfl⟩, (ih hrest).mpr ⟨fun m hm htakes => ?_, hknown', ?_⟩⟩
      · rw [hlater m hm]
        exact honce' m hm htakes
      · simp only [Named.selected, List.append_assoc, ← List.filter_append,
          List.cons_append, List.nil_append]

theorem missingFrom_isEmpty_iff {params : List Param} {slots : Named} :
    (missingFrom params slots).isEmpty ↔
      ∀ p ∈ params, ((slots.get? p.name).or p.default).isSome := by
  simp only [missingFrom, List.isEmpty_iff, List.map_eq_nil_iff, List.filter_eq_nil_iff,
    Named.has, Option.isSome_or]
  refine forall₂_congr fun p _ => ?_
  cases slots.get? p.name <;> cases p.default <;> simp

/-- Every parameter has a value if none is found missing. -/
theorem filled_iff_missingFrom (hs : s.names.Nodup) :
    (∀ p ∈ s, (s.value? args named p).isSome) ↔
      (missingFrom s.positionalParams (s.placed args ++ named.selected s.takes)).isEmpty ∧
      (missingFrom s.keywordParams (s.placed args ++ named.selected s.takes)).isEmpty := by
  simp only [missingFrom_isEmpty_iff]
  constructor
  · intro h
    constructor
    · intro p hp
      have hmem := List.mem_of_mem_filter hp
      rw [← given?_of_not_isCollector hs hmem (isCollector_of_mem_positionalParams hp)]
      exact h p hmem
    · intro p hp
      have hmem := List.mem_of_mem_filter hp
      rw [← given?_of_not_isCollector hs hmem (isCollector_of_mem_keywordParams hp)]
      exact h p hmem
  · rintro ⟨hpositional, hkeyword⟩ p hp
    cases hcollector : p.isCollector with
    | true => exact s.value?_isSome_of_isCollector args named hcollector
    | false =>
      rw [value?, given?_of_not_isCollector hs hp hcollector]
      exact ((mem_iff hcollector).mp hp).elim (hpositional p) (hkeyword p)

/-- What a call makes of the arguments once they are given out. -/
theorem slots_eq (hs : s.names.Nodup) :
    (s.filterMap fun p =>
      match p.kind with
      | .varPositional => some (p.name, .tuple .fresh (args.drop s.positionalParams.length))
      | .varKeyword => some (p.name, collected (named.selected (!s.takes ·)))
      | _ => ((Named.get? (s.placed args ++ named.selected s.takes) p.name).or p.default).map
          (p.name, ·)) = s.slots args named := by
  refine List.filterMap_congr fun p hp => ?_
  rw [value?]
  cases hcollector : p.isCollector with
  | true => cases hkind : p.kind <;> simp [Param.isCollector, given?, hkind] at hcollector ⊢
  | false =>
    rw [given?_of_not_isCollector hs hp hcollector]
    cases hkind : p.kind <;> simp [Param.isCollector, hkind] at hcollector ⊢

/-- **A call gets into the body exactly if the arguments fit**, and the parameters then hold their
slots. -/
theorem enter_eq_ok_iff (hs : s.names.Nodup) (hnamed : (named.map Prod.fst).Nodup)
    {found : Named} :
    s.enter args named = .ok found ↔ s.Fits args named ∧ found = s.slots args named := by
  have hroom : (decide (s.positionalParams.length < args.length) &&
      (s.collector? .varPositional).isNone) = false ↔
      args.length ≤ s.positionalParams.length ∨ (s.collector? .varPositional).isSome := by
    rw [Bool.and_eq_false_iff, decide_eq_false_iff_not, Nat.not_lt, ← Option.not_isSome,
      Bool.not_eq_false']
  rw [enter]
  dsimp only
  rw [except_bind_eq_ok]
  simp only [except_check_eq_ok, Bool.not_eq_false']
  constructor
  · rintro ⟨placed, hplaced, hspace, hpositional, hkeyword, hfound⟩
    obtain ⟨honce, hknown, rfl⟩ := (foldlM_placeNamed_eq_ok_iff hnamed).mp hplaced
    cases hfound
    exact ⟨⟨⟨honce, hknown, hroom.mp hspace⟩,
      (filled_iff_missingFrom hs).mpr ⟨hpositional, hkeyword⟩⟩, slots_eq hs⟩
  · rintro ⟨⟨⟨honce, hknown, hspace⟩, hfilled⟩, rfl⟩
    obtain ⟨hpositional, hkeyword⟩ := (filled_iff_missingFrom hs).mp hfilled
    exact ⟨_, (foldlM_placeNamed_eq_ok_iff hnamed).mpr ⟨honce, hknown, rfl⟩, hroom.mpr hspace,
      hpositional, hkeyword, congrArg Except.ok (slots_eq hs)⟩

/-- Arguments that do not fit are refused. -/
theorem not_fits_of_enter_error (hs : s.names.Nodup) (hnamed : (named.map Prod.fst).Nodup)
    {problem : CallFault} (h : s.enter args named = .error problem) : ¬ s.Fits args named := by
  intro hfits
  rw [(enter_eq_ok_iff hs hnamed).mpr ⟨hfits, rfl⟩] at h
  cases h

end Entering

end Signature
end FaultContext
